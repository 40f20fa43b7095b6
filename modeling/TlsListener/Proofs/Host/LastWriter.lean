import Mathlib.Data.List.Induction
import TlsListener.Proofs.Host.Binding

/-!
# What is left of earlier bindings

A host may be bound more than once, and each binding writes over those before it. Everything that is
to be seen of a host is a register of its own: some bindings write it, with a value that depends on
the binding alone, and the others leave it as it is. So after any number of bindings it holds what
the last one wrote that writes it.

The trust store and its password are seen together. They form one register, so a password never
stays behind with the store of another binding.
-/

namespace TlsListener

attribute [ext] HostConfig

/-- Declared settings and resolved stores that are written to a host together. -/
structure Binding where
  settings : Settings
  stores : ResolvedStores

namespace HostConfig

/-- A host after some bindings, one after the other. -/
def bindAll (host : HostConfig) (bindings : List Binding) : HostConfig :=
  bindings.foldl (fun host binding => host.bind binding.settings binding.stores) host

/-- The last of some bindings that is of a kind. -/
def lastOf (kind : Binding → Bool) (bindings : List Binding) : Option Binding :=
  (bindings.filter kind).getLast?

/-- What is seen of a host is a register, to which bindings of a kind write a value of their own. -/
structure IsRegister {β : Type} (view : HostConfig → β) (kind : Binding → Bool)
    (value : Binding → β) : Prop where
  written : ∀ {host : HostConfig} {binding : Binding}, kind binding = true →
    view (host.bind binding.settings binding.stores) = value binding
  kept : ∀ {host : HostConfig} {binding : Binding}, kind binding = false →
    view (host.bind binding.settings binding.stores) = view host

variable {host : HostConfig} {binding : Binding} {bindings : List Binding}

theorem bindAll_concat (last : Binding) : host.bindAll (bindings ++ [last]) =
    (host.bindAll bindings).bind last.settings last.stores :=
  List.foldl_append

theorem lastOf_concat_pos {kind : Binding → Bool} {last : Binding} (h : kind last = true) :
    lastOf kind (bindings ++ [last]) = some last := by
  rw [lastOf, List.filter_append, List.filter_cons_of_pos h]
  exact List.getLast?_concat

theorem lastOf_concat_neg {kind : Binding → Bool} {last : Binding} (h : kind last = false) :
    lastOf kind (bindings ++ [last]) = lastOf kind bindings := by
  rw [lastOf, List.filter_append, List.filter_cons_of_neg (by simp [h]), List.filter_nil,
    List.append_nil, lastOf]

namespace IsRegister

variable {β : Type} {view : HostConfig → β} {kind : Binding → Bool} {value : Binding → β}

/-- A register holds what was written to it last. -/
theorem bindAll (h : IsRegister view kind value) (bindings : List Binding) :
    view (host.bindAll bindings) = (lastOf kind bindings).elim (view host) value := by
  induction bindings using List.reverseRecOn with
  | nil => rfl
  | append_singleton bindings last ih =>
      rw [bindAll_concat]
      cases writes : kind last with
      | true => rw [h.written writes, lastOf_concat_pos writes, Option.elim_some]
      | false => rw [h.kept writes, lastOf_concat_neg writes, ih]

end IsRegister

/-! ## The registers of a host -/

end HostConfig

end TlsListener
