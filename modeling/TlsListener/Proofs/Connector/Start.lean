import TlsListener.Connector.Start
import TlsListener.Proofs.Context.Basic

/-!
# What a start does to a connector

A start that its state does not allow changes nothing. Any other prepares a context and an address,
and what it leaves behind depends on nothing but how the preparation ends: with both, with a
failure, or cut short. In all cases it writes the state, the listener and the context, and no other
field.
-/

namespace TlsListener.Connector

variable {engine : Engine} {machine : Machine} {connector : Connector}

theorem bindAddress_ne_cutShort : connector.bindAddress machine ≠ .error .cutShort := by
  rw [bindAddress]
  split
  · exact fun h => nomatch h
  · exact Outcome.fail_ne_cutShort

theorem prepare_eq_ok {context : ServerContext} {address : Address} :
    (connector.prepare engine machine).outcome = .ok (context, address) ↔
      (ServerContext.ofHost engine machine connector.loader connector.host).outcome = .ok context ∧
        connector.bindAddress machine = .ok address := by
  constructor
  · intro h
    obtain ⟨_, made, h⟩ := Traced.outcome_bind_eq_ok.mp h
    obtain ⟨_, bound, h⟩ := Traced.outcome_bind_eq_ok.mp h
    cases h
    exact ⟨made, bound⟩
  · rintro ⟨made, bound⟩
    exact Traced.outcome_bind_eq_ok.mpr ⟨context, made,
      Traced.outcome_bind_eq_ok.mpr ⟨address, bound, rfl⟩⟩

theorem prepare_eq_cutShort :
    (connector.prepare engine machine).outcome = .error .cutShort ↔
      ServerContext.Interrupted engine machine connector.loader connector.host := by
  rw [prepare, Traced.outcome_bind_eq_cutShort, ServerContext.ofHost_eq_cutShort,
    or_iff_left_iff_imp]
  rintro ⟨context, -, cut⟩
  rcases Traced.outcome_bind_eq_cutShort.mp cut with cut | ⟨address, -, cut⟩
  · exact absurd cut bindAddress_ne_cutShort
  · cases cut

/-- A connector is left alone by a start that its state does not allow. -/
theorem start_of_not_configurable (h : connector.isConfigurable = false) :
    connector.start engine machine =
      (connector, .fail (.startup (.notStartable connector.state))) := by
  simp [start, h]

/-- The ways in which a start ends: the connector that it leaves behind, and what it answers. -/
inductive StartEnds (engine : Engine) (machine : Machine) (connector : Connector) :
    Connector × Traced Unit → Prop where
  | refused (state : connector.isConfigurable = false) :
      StartEnds engine machine connector
        (connector, .fail (.startup (.notStartable connector.state)))
  | started {context : ServerContext} {address : Address}
      (state : connector.isConfigurable = true)
      (prepared : (connector.prepare engine machine).outcome = .ok (context, address)) :
      StartEnds engine machine connector
        ({ connector with state := .started, context := some context, listener := some address },
          ⟨(connector.prepare engine machine).events, .ok ()⟩)
  | failed {failure : Failure} (state : connector.isConfigurable = true)
      (prepared : (connector.prepare engine machine).outcome = .error (.failure failure)) :
      StartEnds engine machine connector
        (connector.markFailed,
          ⟨(connector.prepare engine machine).events ++ [.startFailed connector.address failure],
            .error (.failure failure)⟩)
  | cut (state : connector.isConfigurable = true)
      (prepared : (connector.prepare engine machine).outcome = .error .cutShort) :
      StartEnds engine machine connector
        ({ connector with state := .starting },
          ⟨(connector.prepare engine machine).events, .error .cutShort⟩)

theorem startEnds_start (engine : Engine) (machine : Machine) (connector : Connector) :
    StartEnds engine machine connector (connector.start engine machine) := by
  cases state : connector.isConfigurable with
  | false =>
      rw [start_of_not_configurable state]
      exact .refused state
  | true =>
      have settled : connector.start engine machine =
          connector.settle (connector.prepare engine machine) := by
        simp [start, state]
      rw [settled, settle]
      split
      · next prepared => exact .started state prepared
      · next prepared => exact .failed state prepared
      · next prepared => exact .cut state prepared

/-- A start writes the state, the listener and the context only. -/
theorem start_eq_with (engine : Engine) (machine : Machine) (connector : Connector) :
    (connector.start engine machine).1 =
      { connector with
        state := (connector.start engine machine).1.state
        listener := (connector.start engine machine).1.listener
        context := (connector.start engine machine).1.context } := by
  have ends := startEnds_start engine machine connector
  generalize connector.start engine machine = ended at ends ⊢
  cases ends <;> rfl

/-- A start that succeeds leaves a started connector with the context of its host. -/
theorem exists_context_of_start
    (h : (connector.start engine machine).2.outcome = .ok ()) :
    ∃ context address,
      (ServerContext.ofHost engine machine connector.loader connector.host).outcome = .ok context ∧
      (connector.start engine machine).1 =
        { connector with
          state := .started, context := some context, listener := some address } := by
  have ends := startEnds_start engine machine connector
  generalize connector.start engine machine = ended at ends h ⊢
  cases ends with
  | refused => cases h
  | started _ prepared => exact ⟨_, _, (prepare_eq_ok.mp prepared).1, rfl⟩
  | failed => cases h
  | cut => cases h

/-- A start is interrupted in the making of its context. -/
def StartInterrupted (engine : Engine) (machine : Machine) (connector : Connector) : Prop :=
  connector.isConfigurable = true ∧
    ServerContext.Interrupted engine machine connector.loader connector.host

/-- Nothing else cuts a start short. -/
theorem start_eq_cutShort :
    (connector.start engine machine).2.outcome = .error .cutShort ↔
      connector.StartInterrupted engine machine := by
  rw [StartInterrupted, ← prepare_eq_cutShort]
  have ends := startEnds_start engine machine connector
  generalize connector.start engine machine = ended at ends ⊢
  cases ends with
  | refused state => simp [state]
  | started _ prepared => simp [prepared]
  | failed _ prepared => simp [prepared]
  | cut state prepared => simp [state, prepared]

/-- Two starts have answers that are related, and lead to the same state with the same listener and
context. -/
structure LeadAlike (related : Traced Unit → Traced Unit → Prop)
    (first second : Connector × Traced Unit) : Prop where
  answer : related first.2 second.2
  state : first.1.state = second.1.state
  listener : first.1.listener = second.1.listener
  context : first.1.context = second.1.context

/-- The state after a start that was allowed is told by its answer. -/
theorem start_state (engine : Engine) (machine : Machine)
    (state : connector.isConfigurable = true) :
    ((connector.start engine machine).1.state = .started ↔
      (connector.start engine machine).2.outcome = .ok ()) ∧
    ((connector.start engine machine).1.state = .failed ↔
      ∃ failure, (connector.start engine machine).2.outcome = .error (.failure failure)) ∧
    ((connector.start engine machine).1.state = .starting ↔
      (connector.start engine machine).2.outcome = .error .cutShort) := by
  have ends := startEnds_start engine machine connector
  generalize connector.start engine machine = ended at ends ⊢
  cases ends with
  | refused refused => cases state.symm.trans refused
  | started => simp
  | failed => simp [markFailed]
  | cut => simp

end TlsListener.Connector

/-! ### A connector that starts -/

namespace TlsListener.Sample

/-- An engine with one suite for the older versions and one for TLS 1.3, which finds nothing in any
container and has no objections. -/
def engine : Engine where
  certificates _ := some []
  privateKey _ _ := none
  archive _ := none
  belongs _ _ := true
  suiteName name := name
  acceptsList list := list = "A"
  acceptsSuites list := list = "B"
  acceptsKey _ := true
  acceptsLeaf _ _ := true
  acceptsAnchor _ := true

/-- A machine on which every file tells that its private key is encrypted. -/
def machine : Machine where
  read _ := .ok ⟨(ascii "Proc-Type: 4,ENCRYPTED").toArray⟩
  bind address := .ok address

def address : Address := ⟨.v4 127 0 0 1, 8443, 0⟩

def certificate : Certificate where
  encoding := []
  subject := some "server"
  issuer := none
  altNames := []
  publicKey := .unknown
  isSelfSigned := true
  signatureStrength := 0

/-- An engine that finds a key and its certificate in every archive, with one password. -/
def archivist : Engine :=
  { engine with
    archive _ := some fun password =>
      if password = "secret" then some ⟨some ⟨.unknown, []⟩, some certificate, []⟩ else none }

/-- A store with a key, as a token would hold it. -/
def store : StoreHandle where
  store := (KeyStore.new .pkcs11 "Token").withEntry
    (.privateKey ⟨some "server", ⟨.unknown, []⟩, [certificate]⟩)

/-- A connector whose host has a certificate, the given versions and the given suites. -/
def connector (protocols : List String) (suites : String) : Connector :=
  (Connector.create engine address {}).modifyHost fun host =>
    ((host.setEnabledProtocols protocols).setCiphers suites).setCertificate { keyStore := store }

end TlsListener.Sample
