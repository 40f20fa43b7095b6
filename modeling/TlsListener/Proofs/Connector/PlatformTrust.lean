import TlsListener.Proofs.Connector.Start

/-!
# The platform does not decide whether a connector starts

What a platform says of its trust store can be wrong in many ways: there is no such file, the file
is too large or of another type, the password does not open it, or no provider is there to load it.
A start reads all of this in one step only, after everything else of the context is made, and
whatever goes wrong there is a warning. So two connectors that differ in nothing but what their
hosts say of the platform's trust store start alike: their contexts differ in the anchors at most,
and their logs in this one warning.

A host with a trust store of its own never comes to that step, and is left out here. Two things
would get in the way of a start after all, a password that cannot be handed to the engine and an
engine that does not take the certificates of a store that it has loaded.
-/

namespace TlsListener

namespace Event

/-- The warning that the trust store of the platform cannot be had. -/
def isPlatformWarning : Event → Bool
  | platformTrustUnavailable _ _ => true
  | _ => false

/-- The failure that ends a start. -/
def isStartFailure : Event → Bool
  | startFailed _ _ => true
  | _ => false

theorem IsRestriction.not_isPlatformWarning {event : Event} (h : event.IsRestriction) :
    ¬event.isPlatformWarning = true := by
  cases h <;> exact Bool.false_ne_true

theorem not_isPlatformWarning_of_isStartFailure {event : Event}
    (h : event.isStartFailure = true) : ¬event.isPlatformWarning = true := by
  cases event with
  | startFailed => exact Bool.false_ne_true
  | _ => cases h

end Event

/-- No event, or one of a kind. -/
inductive AtMostOne (kind : Event → Bool) : List Event → Prop where
  | none : AtMostOne kind []
  | one {event : Event} (kind_event : kind event = true) : AtMostOne kind [event]

/-- Two logs of a start that differ in the warning about the platform's trust store at most. Each
has it once at most, after the restrictions of the host and before the failure of the start. -/
inductive LogsAlike : List Event → List Event → Prop where
  | intro {restrictions warning warning' failed : List Event}
      (restricted : ∀ event ∈ restrictions, event.IsRestriction)
      (warned : AtMostOne Event.isPlatformWarning warning)
      (warned' : AtMostOne Event.isPlatformWarning warning')
      (ended : AtMostOne Event.isStartFailure failed) :
      LogsAlike (restrictions ++ warning ++ failed) (restrictions ++ warning' ++ failed)

theorem AtMostOne.countP_le_one {kind : Event → Bool} {events : List Event}
    (h : AtMostOne kind events) : events.countP kind ≤ 1 := by
  cases h with
  | none => exact Nat.zero_le 1
  | one kind_event => simp [kind_event]

theorem AtMostOne.filter_not {kind : Event → Bool} {events : List Event}
    (h : AtMostOne kind events) : events.filter (fun event => !kind event) = [] := by
  cases h with
  | none => rfl
  | one kind_event => simp [kind_event]

theorem countP_isPlatformWarning_le_one {restrictions warning failed : List Event}
    (restricted : ∀ event ∈ restrictions, event.IsRestriction)
    (warned : AtMostOne Event.isPlatformWarning warning)
    (ended : AtMostOne Event.isStartFailure failed) :
    (restrictions ++ warning ++ failed).countP Event.isPlatformWarning ≤ 1 := by
  have before : restrictions.countP Event.isPlatformWarning = 0 :=
    List.countP_eq_zero.mpr fun event member => (restricted event member).not_isPlatformWarning
  have after : failed.countP Event.isPlatformWarning = 0 := by
    cases ended with
    | none => rfl
    | one failure => simp [Event.not_isPlatformWarning_of_isStartFailure failure]
  have once := warned.countP_le_one
  rw [List.countP_append, List.countP_append, before, after]
  omega

/-- The warning is in each of the two logs once at most. -/
theorem LogsAlike.warned_once {log other : List Event} (h : LogsAlike log other) :
    log.countP Event.isPlatformWarning ≤ 1 ∧ other.countP Event.isPlatformWarning ≤ 1 := by
  obtain ⟨restricted, warned, warned', ended⟩ := h
  exact ⟨countP_isPlatformWarning_le_one restricted warned ended,
    countP_isPlatformWarning_le_one restricted warned' ended⟩

/-- What is left of the two logs without the warning is the same. -/
theorem LogsAlike.filter_eq {log other : List Event} (h : LogsAlike log other) :
    log.filter (fun event => !event.isPlatformWarning) =
      other.filter (fun event => !event.isPlatformWarning) := by
  obtain ⟨-, warned, warned', -⟩ := h
  simp only [List.filter_append, warned.filter_not, warned'.filter_not]

namespace HostConfig

variable {engine : Engine} {machine : Machine} {loader : Loader} {host : HostConfig}
variable {platform : PlatformDefaults}

/-- The settings of a host on another platform. -/
def onPlatform (host : HostConfig) (platform : PlatformDefaults) : HostConfig :=
  { host with
    trustFile := platform.trustFile
    trustType := platform.trustType
    trustPassword := platform.trustPassword }

@[simp] theorem trustStore_onPlatform : (host.onPlatform platform).trustStore = host.trustStore :=
  rfl

/-- Apart from a warning nothing comes of loading the trust store of the platform but a store, or
none. -/
theorem exists_platformTrust (unset : host.trustStore = none)
    (uncut : ¬host.TrustCutShort engine machine loader) :
    ∃ warning store, AtMostOne Event.isPlatformWarning warning ∧
      host.platformTrust machine loader = ⟨warning, .ok store⟩ := by
  rw [platformTrust]
  split
  · exact ⟨[], none, .none, rfl⟩
  · next named =>
      split
      · next store loaded => exact ⟨[], some store, .none, rfl⟩
      · next failure failed => exact ⟨[_], none, .one rfl, rfl⟩
      · next cut => exact absurd (.loading unset (by simpa using named) cut) uncut

end HostConfig

/-- Nothing about the trust store of a platform gets in the way of a start: the password can be
handed to the engine, and the engine takes the certificates of the store. -/
structure PlatformDefaults.IsHarmless (engine : Engine) (machine : Machine) (loader : Loader)
    (platform : PlatformDefaults) : Prop where
  passable : isPassable (KeyStore.passwordText platform.trustPassword) = true
  accepted : ∀ anchors, PlatformAnchors machine loader platform anchors →
    ∀ certificate ∈ anchors, engine.acceptsAnchor certificate = true

namespace HostConfig

variable {engine : Engine} {machine : Machine} {loader : Loader} {host : HostConfig}
variable {platform : PlatformDefaults}

/-- On a platform that is harmless there are anchors, with a warning or without. -/
theorem exists_anchors_onPlatform (unset : host.trustStore = none) (loads : loader.StopsOnlyAtNul)
    (harmless : platform.IsHarmless engine machine loader) :
    ∃ warning anchors, AtMostOne Event.isPlatformWarning warning ∧
      (host.onPlatform platform).anchors engine machine loader = ⟨warning, .ok anchors⟩ := by
  have uncut : ¬(host.onPlatform platform).TrustCutShort engine machine loader :=
    not_trustCutShort loads harmless.passable
  have unset' : (host.onPlatform platform).trustStore = none := unset
  obtain ⟨warning, store, warned, made⟩ := exists_platformTrust unset' uncut
  have anchored : PlatformAnchors machine loader platform (anchorsOf store) :=
    platformAnchors_of_platformTrust (by rw [made])
  have accepted : ∀ certificate ∈ anchorsOf store, engine.acceptsAnchor certificate = true :=
    harmless.accepted _ anchored
  refine ⟨warning, anchorsOf store, warned, ?_⟩
  have material : (host.onPlatform platform).trustMaterial engine machine loader =
      ⟨warning, .ok store⟩ := by
    rw [trustMaterial, trustStore_onPlatform, unset, made]
  rw [anchors, material, Traced.bind_ok, if_pos (List.all_eq_true.mpr accepted)]
  simp

end HostConfig

namespace ServerContext

/-- A context with other anchors. -/
def withAnchors (anchors : List Certificate) (context : ServerContext) : ServerContext :=
  { context with anchors }

/-- A context without its anchors. -/
def withoutAnchors (context : ServerContext) : ServerContext :=
  context.withAnchors []

end ServerContext

namespace Connector

variable {engine : Engine} {machine machine' : Machine} {connector : Connector}
variable {platform platform' : PlatformDefaults}

/-- A connector whose host says of the platform's trust store what another platform says. -/
def onPlatform (connector : Connector) (platform : PlatformDefaults) : Connector :=
  connector.modifyHost fun host => host.onPlatform platform

/-- Two starts that end alike. Their contexts differ in the anchors at most, and their logs in the
warning about the platform's trust store. -/
structure StartsAlike (first second : Connector × Traced Unit) : Prop where
  answered : first.2.outcome = second.2.outcome
  state : first.1.state = second.1.state
  listener : first.1.listener = second.1.listener
  context : first.1.context.map ServerContext.withoutAnchors =
    second.1.context.map ServerContext.withoutAnchors
  logged : LogsAlike first.2.events second.2.events
  warnedOnce : first.2.events.countP Event.isPlatformWarning ≤ 1 ∧
    second.2.events.countP Event.isPlatformWarning ≤ 1
  /-- Where the warning is deleted, the logs are the same. -/
  deleted : first.2.events.filter (fun event => !event.isPlatformWarning) =
    second.2.events.filter (fun event => !event.isPlatformWarning)

theorem prepare_onPlatform :
    (connector.onPlatform platform).prepare engine machine = do
      let context ← ServerContext.unanchored engine connector.host
      let anchors ← (connector.host.onPlatform platform).anchors engine machine connector.loader
      let address ← connector.bindAddress machine
      return ({ context with anchors }, address) := by
  have made : ServerContext.ofHost engine machine connector.loader
      (connector.host.onPlatform platform) = do
        let context ← ServerContext.unanchored engine connector.host
        let anchors ← (connector.host.onPlatform platform).anchors engine machine connector.loader
        return { context with anchors } :=
    ServerContext.ofHost_eq_unanchored
  change (do
    let context ← ServerContext.ofHost engine machine connector.loader
      (connector.host.onPlatform platform)
    let address ← connector.bindAddress machine
    return (context, address)) = _
  simp only [made, bind_assoc, pure_bind]

/-- What preparing comes to before there are anchors. -/
def unanchored (engine : Engine) (machine : Machine) (connector : Connector) :
    Outcome Failure (ServerContext × Address) := do
  let context ← (ServerContext.unanchored engine connector.host).outcome
  let address ← connector.bindAddress machine
  return (context, address)

/-- A harmless platform adds to what is prepared a warning and anchors at most. -/
theorem exists_prepare_onPlatform (unset : connector.host.trustStore = none)
    (loads : connector.loader.StopsOnlyAtNul)
    (harmless : platform.IsHarmless engine machine connector.loader) :
    ∃ warning anchors, AtMostOne Event.isPlatformWarning warning ∧
      (connector.onPlatform platform).prepare engine machine =
        ⟨(ServerContext.unanchored engine connector.host).events ++ warning,
          (connector.unanchored engine machine).map (Prod.map (.withAnchors anchors) id)⟩ := by
  obtain ⟨warning, anchors, warned, anchored⟩ :=
    HostConfig.exists_anchors_onPlatform unset loads harmless
  rw [prepare_onPlatform, anchored, unanchored]
  -- the platform is not looked at unless the rest of the context is made
  rcases ServerContext.unanchored engine connector.host with ⟨restrictions, stop | context⟩
  · exact ⟨[], anchors, .none, by simp; rfl⟩
  · refine ⟨warning, anchors, warned, ?_⟩
    cases connector.bindAddress machine with
    | error stop => simp; rfl
    | ok address => simp; rfl

/-- Attempts that come to the same are settled alike, each with a warning and anchors of its own. -/
theorem startsAlike_settle {restrictions warning warning' : List Event}
    {anchors anchors' : List Certificate} {prepared : Outcome Failure (ServerContext × Address)}
    (restricted : ∀ event ∈ restrictions, event.IsRestriction)
    (warned : AtMostOne Event.isPlatformWarning warning)
    (warned' : AtMostOne Event.isPlatformWarning warning') :
    StartsAlike
      ((connector.onPlatform platform).settle
        ⟨restrictions ++ warning, prepared.map (Prod.map (.withAnchors anchors) id)⟩)
      ((connector.onPlatform platform').settle
        ⟨restrictions ++ warning', prepared.map (Prod.map (.withAnchors anchors') id)⟩) := by
  have logged : LogsAlike (restrictions ++ warning) (restrictions ++ warning') := by
    simpa using LogsAlike.intro restricted warned warned' .none
  rcases prepared with (failure | _) | ⟨context, address⟩
  · have logged : LogsAlike (restrictions ++ warning ++ [.startFailed connector.address failure])
        (restrictions ++ warning' ++ [.startFailed connector.address failure]) :=
      .intro restricted warned warned' (.one rfl)
    exact ⟨rfl, rfl, rfl, rfl, logged, logged.warned_once, logged.filter_eq⟩
  · exact ⟨rfl, rfl, rfl, rfl, logged, logged.warned_once, logged.filter_eq⟩
  · exact ⟨rfl, rfl, rfl, rfl, logged, logged.warned_once, logged.filter_eq⟩

theorem startsAlike_start (unset : connector.host.trustStore = none)
    (bound : machine.bind connector.address = machine'.bind connector.address)
    (loads : connector.loader.StopsOnlyAtNul)
    (harmless : platform.IsHarmless engine machine connector.loader)
    (harmless' : platform'.IsHarmless engine machine' connector.loader) :
    StartsAlike ((connector.onPlatform platform).start engine machine)
      ((connector.onPlatform platform').start engine machine') := by
  cases state : connector.isConfigurable with
  | false =>
      have refused {platform : PlatformDefaults} {machine : Machine} :
          (connector.onPlatform platform).start engine machine =
            (connector.onPlatform platform,
              .fail (.startup (.notStartable connector.state))) :=
        start_of_not_configurable state
      rw [refused, refused]
      have logged : LogsAlike [] [] :=
        .intro (List.forall_mem_nil _) .none .none .none
      exact ⟨rfl, rfl, rfl, rfl, logged, logged.warned_once, rfl⟩
  | true =>
      have settled {platform : PlatformDefaults} {machine : Machine} :
          (connector.onPlatform platform).start engine machine =
            (connector.onPlatform platform).settle
              ((connector.onPlatform platform).prepare engine machine) :=
        if_pos state
      have same : connector.unanchored engine machine' = connector.unanchored engine machine := by
        rw [unanchored, unanchored, bindAddress, bindAddress, bound]
      obtain ⟨warning, anchors, warned, prepared⟩ := exists_prepare_onPlatform unset loads harmless
      obtain ⟨warning', anchors', warned', prepared'⟩ :=
        exists_prepare_onPlatform unset loads harmless'
      rw [settled, settled, prepared, prepared', same]
      have restricted : ∀ event ∈ (ServerContext.unanchored engine connector.host).events,
          event.IsRestriction :=
        fun _ => ServerContext.isRestriction_of_mem_unanchored
      exact startsAlike_settle restricted warned warned'

/-- The trust store of the platform does not decide whether a connector starts, whose host has none
of its own. Either both starts are answered, or both are cut short by the name of a suite with a NUL
character. -/
theorem startsAlike_onPlatform (unset : connector.host.trustStore = none)
    (bound : machine.bind connector.address = machine'.bind connector.address)
    (loads : connector.loader.StopsOnlyAtNul)
    (harmless : platform.IsHarmless engine machine connector.loader)
    (harmless' : platform'.IsHarmless engine machine' connector.loader) :
    StartsAlike ((connector.onPlatform platform).start engine machine)
        ((connector.onPlatform platform').start engine machine') ∧
      (((connector.onPlatform platform).start engine machine).2.outcome = .error .cutShort →
        ∃ suites, connector.host.ciphers = some suites ∧
          ∃ name ∈ suiteNames suites, isPassable name = false) := by
  refine ⟨startsAlike_start unset bound loads harmless harmless', fun cut => ?_⟩
  obtain ⟨-, interrupted⟩ := start_eq_cutShort.mp cut
  cases interrupted with
  | suite _ set member nul => exact ⟨_, set, _, member, nul⟩
  | trust _ _ _ _ cut => exact absurd cut (HostConfig.not_trustCutShort loads harmless.passable)

/-- Naming a token that no provider knows adds a warning to a start that succeeds. -/
theorem startsAlike_onPlatform_sample :
    let unnamed := (Sample.connector ["TLSv1.2"] "A:C").onPlatform {}
    let named := (Sample.connector ["TLSv1.2"] "A:C").onPlatform { trustType := .pkcs11 }
    StartsAlike (unnamed.start Sample.engine Sample.machine)
        (named.start Sample.engine Sample.machine) ∧
      (named.start Sample.engine Sample.machine).2 =
        ⟨(unnamed.start Sample.engine Sample.machine).2.events ++
          [.platformTrustUnavailable none (.storeLoad .trust none (.noProvider "PKCS11"))],
          .ok ()⟩ :=
  ⟨And.left (startsAlike_onPlatform rfl rfl (Loader.stopsOnlyAtNul_default _)
    ⟨by decide, fun _ _ _ _ => rfl⟩ ⟨by decide, fun _ _ _ _ => rfl⟩), rfl⟩

end Connector

end TlsListener
