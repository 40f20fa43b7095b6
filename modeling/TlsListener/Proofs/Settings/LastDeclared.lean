import Mathlib.Data.List.Induction
import Mathlib.Data.List.Nodup
import Mathlib.Data.List.Perm.Basic
import TlsListener.Settings.Document

/-!
# What is left of earlier declarations

A declaration writes the value of one setting and of no other. So once some declarations have been
made, a setting has the value of the last one that was made of it, or else its default, and two
declarations of different settings may be made in either order. Settings are nothing but these
values. Declarations of which no two are of the same setting may therefore be made in any order.
-/

namespace TlsListener

attribute [ext] StoreDescriptor Settings

/-- The value of a setting. -/
inductive SettingValue where
  | flag (value : Bool)
  | text (value : Option String)
  | password (value : Option Secret)
  | type (value : StoreType)
  | names (value : List String)
  | mode (value : ClientAuth)
  deriving DecidableEq

namespace Setting

/-- The key of the setting that is declared. -/
def key : Setting → SettingKey
  | enabled _ => .enabled
  | keyStore _ => .keyStore
  | keyStorePassword _ => .keyStorePassword
  | keyPassword _ => .keyPassword
  | keyStoreType _ => .keyStoreType
  | keyStoreProvider _ => .keyStoreProvider
  | keyAlias _ => .keyAlias
  | trustStore _ => .trustStore
  | trustStorePassword _ => .trustStorePassword
  | trustStoreType _ => .trustStoreType
  | trustStoreProvider _ => .trustStoreProvider
  | enabledProtocols _ => .enabledProtocols
  | ciphers _ => .ciphers
  | protocol _ => .protocol
  | clientAuth _ => .clientAuth

/-- The value that is declared. -/
def value : Setting → SettingValue
  | enabled value => .flag value
  | keyStorePassword password | keyPassword password | trustStorePassword password =>
    .password (some password)
  | keyStoreType type | trustStoreType type => .type type
  | keyStore text | keyStoreProvider text | keyAlias text | trustStore text
  | trustStoreProvider text | protocol text => .text (some text)
  | enabledProtocols names | ciphers names => .names names
  | clientAuth mode => .mode mode

/-- The last of some declarations that is of a setting. -/
def lastOf (key : SettingKey) (declarations : List Setting) : Option Setting :=
  declarations.reverse.find? fun declaration => declaration.key = key

end Setting

namespace Settings

variable {s s' : Settings} {x y : Setting} {declarations declarations' : List Setting}

/-- The value that a setting has. -/
def value (s : Settings) : SettingKey → SettingValue
  | .enabled => .flag s.enabled
  | .keyStore => .text s.keyStore.location
  | .keyStorePassword => .password s.keyStore.password
  | .keyPassword => .password s.keyPassword
  | .keyStoreType => .type s.keyStore.type
  | .keyStoreProvider => .text s.keyStore.provider
  | .keyAlias => .text s.keyAlias
  | .trustStore => .text s.trustStore.location
  | .trustStorePassword => .password s.trustStore.password
  | .trustStoreType => .type s.trustStore.type
  | .trustStoreProvider => .text s.trustStore.provider
  | .enabledProtocols => .names s.enabledProtocols
  | .ciphers => .names s.ciphers
  | .protocol => .text (some s.protocol)
  | .clientAuth => .mode s.clientAuth

/-- The values of all settings are all that there is to settings. -/
theorem ext_value (h : ∀ key, s.value key = s'.value key) : s = s' := by
  apply Settings.ext
  case enabled => exact SettingValue.flag.inj (h .enabled)
  case keyStore =>
    exact StoreDescriptor.ext (SettingValue.text.inj (h .keyStore))
      (SettingValue.password.inj (h .keyStorePassword))
      (SettingValue.type.inj (h .keyStoreType)) (SettingValue.text.inj (h .keyStoreProvider))
  case keyPassword => exact SettingValue.password.inj (h .keyPassword)
  case keyAlias => exact SettingValue.text.inj (h .keyAlias)
  case trustStore =>
    exact StoreDescriptor.ext (SettingValue.text.inj (h .trustStore))
      (SettingValue.password.inj (h .trustStorePassword))
      (SettingValue.type.inj (h .trustStoreType)) (SettingValue.text.inj (h .trustStoreProvider))
  case enabledProtocols => exact SettingValue.names.inj (h .enabledProtocols)
  case ciphers => exact SettingValue.names.inj (h .ciphers)
  case protocol => exact Option.some.inj (SettingValue.text.inj (h .protocol))
  case clientAuth => exact SettingValue.mode.inj (h .clientAuth)

/-- A declaration writes the value of its own setting and of no other. -/
theorem value_declare (s : Settings) (x : Setting) (key : SettingKey) :
    (s.declare x).value key = if x.key = key then x.value else s.value key := by
  cases x <;> cases key <;> rfl

/-- A setting has the value that was declared last, or its default. -/
theorem value_ofList (declarations : List Setting) (key : SettingKey) :
    (ofList declarations).value key =
      (Setting.lastOf key declarations).elim (default.value key) Setting.value := by
  induction declarations using List.reverseRecOn with
  | nil => rfl
  | append_singleton declarations last ih =>
      have step : ofList (declarations ++ [last]) = (ofList declarations).declare last :=
        List.foldl_append
      rw [step, value_declare, Setting.lastOf, List.reverse_append, List.reverse_singleton,
        List.singleton_append, List.find?_cons]
      by_cases own : last.key = key
      · rw [if_pos own]
        simp [own]
      · rw [if_neg own, ih]
        simp [own, Setting.lastOf]

/-- Declarations of different settings may be made in either order. -/
theorem declare_comm (s : Settings) (apart : x.key ≠ y.key) :
    (s.declare x).declare y = (s.declare y).declare x := by
  apply ext_value
  intro key
  simp only [value_declare]
  by_cases first : x.key = key
  · have second : y.key ≠ key := fun same => apart (first.trans same.symm)
    rw [if_neg second, if_pos first, if_pos first]
  · rw [if_neg first, if_neg first]

/-- Where no two declarations are of the same setting their order plays no part. -/
theorem ofList_perm (distinct : (declarations.map Setting.key).Nodup)
    (perm : declarations.Perm declarations') : ofList declarations = ofList declarations' := by
  refine perm.foldl_eq' (fun x hx y hy s => ?_) default
  by_cases same : x = y
  · rw [same]
  · have apart : x.key ≠ y.key := fun shared =>
      same (List.inj_on_of_nodup_map distinct hx hy shared)
    exact s.declare_comm apart

end Settings

end TlsListener
