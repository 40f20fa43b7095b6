import TlsListener.Proofs.Connector.ParsedStore

/-!
# An alias that was checked is found again

An alias is looked up twice: when stores are resolved, so that one that is absent is told at once,
and when a connector starts, for the entry that it presents. Both look for a private key entry in
the same store under the same alias, so they agree as long as the certificate of the host is the one
that was bound. It is written by binding, by a stop, and by whoever writes to the host by hand;
nothing else that happens between the two has an influence.

That a store contains an alias says less than that it has a private key under it, since a
certificate may carry the alias too.
-/

namespace TlsListener

/-! ## When stores are resolved -/

namespace Loader

variable {loader : Loader} {machine : Machine} {settings : Settings} {material : Option Material}
variable {store : KeyStore}

/-- The key store in which a resolution looks for its alias: one that was handed over, or one that
was loaded, if there is nothing wrong with the trust store either. -/
inductive LooksIn (loader : Loader) (machine : Machine) (settings : Settings)
    (material : Option Material) : KeyStore → Prop where
  | handedOver {store : StoreHandle} (held : material.bind Material.keyStore = some store) :
      LooksIn loader machine settings material store.store
  | loaded {store : StoreHandle} {trust : Option StoreHandle × StoreSource × Option Secret}
      (unheld : material.bind Material.keyStore = none)
      (loaded : loader.load machine .key settings.keyStore.location settings.keyStorePassword
        settings.keyStore.type settings.keyStore.provider = .ok store)
      (trusted : loader.resolveTrust machine settings .configured
        (material.bind Material.trustStore) = .ok trust) :
      LooksIn loader machine settings material store.store

/-- By then the key store and the trust store are resolved. -/
theorem LooksIn.resolved (looks : loader.LooksIn machine settings material store) :
    ∃ handle source trust, handle.store = store ∧
      loader.resolveKey machine settings (material.bind Material.keyStore) =
        .ok (handle, source) ∧
      loader.resolveTrust machine settings source (material.bind Material.trustStore) =
        .ok trust := by
  cases looks with
  | @handedOver handle held =>
      have key : loader.resolveKey machine settings (material.bind Material.keyStore) =
          .ok (handle, .external) :=
        resolveKey_eq_ok.mpr (.inl ⟨held, rfl⟩)
      cases trusted : loader.resolveTrust machine settings .external
          (material.bind Material.trustStore) with
      | ok trust => exact ⟨handle, .external, trust, rfl, key, trusted⟩
      | error stop => exact absurd rfl (resolveTrust_eq_error.mp trusted).2.1
  | @loaded handle trust unheld loaded trusted =>
      exact ⟨handle, .configured, trust, rfl, resolveKey_eq_ok.mpr (.inr ⟨unheld, rfl, loaded⟩),
        trusted⟩

/-- All that can stop a resolution then is that the alias is absent. -/
theorem LooksIn.resolve_eq_error (looks : loader.LooksIn machine settings material store)
    {stop : Stop Failure} :
    loader.resolve machine settings material = .error stop ↔ ∃ absent,
      settings.keyAlias = some absent ∧ store.findPrivateKey? (some absent) = none ∧
      stop = .failure (.invalidConfiguration (.aliasAbsent absent)) := by
  obtain ⟨handle, source, trust, rfl, key, trusted⟩ := looks.resolved
  constructor
  · intro h
    rcases Outcome.bind_eq_error.mp h with stopped | ⟨_, key', h⟩
    · cases key.symm.trans stopped
    cases key.symm.trans key'
    rcases Outcome.bind_eq_error.mp h with stopped | ⟨_, trusted', h⟩
    · cases trusted.symm.trans stopped
    cases trusted.symm.trans trusted'
    rcases Outcome.bind_eq_error.mp h with failed | ⟨-, -, h⟩
    · exact checkAlias_eq_error.mp failed
    · cases h
  · rintro ⟨absent, asked, missing, rfl⟩
    exact Loader.resolve_eq_error.mpr (.aliasAbsent key trusted asked missing)

/-- An alias is rejected exactly if no private key entry carries it. -/
theorem LooksIn.rejects_iff (looks : loader.LooksIn machine settings material store)
    {name : String} (asked : settings.keyAlias = some name) :
    loader.resolve machine settings material =
        .error (.failure (.invalidConfiguration (.aliasAbsent name))) ↔
      ∀ entry, .privateKey entry ∈ store.entries → entry.name ≠ some name := by
  have missing : store.findPrivateKey? (some name) = none ↔
      ∀ entry, .privateKey entry ∈ store.entries → entry.name ≠ some name := by
    simp only [KeyStore.findPrivateKey?_eq_none, KeyStore.isAskedFor_some, ne_eq]
  rw [looks.resolve_eq_error, ← missing]
  constructor
  · rintro ⟨absent, asked', missing, -⟩
    cases asked.symm.trans asked'
    exact missing
  · intro missing
    exact ⟨name, asked, missing, rfl⟩

example :
    let store := (KeyStore.new .pkcs11 "Token").withEntry (.trusted (some "a") Sample.certificate)
    store.containsAlias "a" = true ∧ store.findPrivateKey? (some "a") = none := by
  decide +kernel

/-- An alias that some private key entry carries is resolved together with the store. -/
theorem LooksIn.exists_stores (looks : loader.LooksIn machine settings material store)
    {name : String} (asked : settings.keyAlias = some name) {entry : PrivateKeyEntry}
    (earliest : store.IsEarliest (some name) entry) :
    ∃ stores, loader.resolve machine settings material = .ok stores ∧
      stores.keyStore.store = store ∧ stores.keyAlias = some name := by
  cases resolved : loader.resolve machine settings material with
  | error stop =>
      obtain ⟨absent, asked', missing, -⟩ := looks.resolve_eq_error.mp resolved
      cases asked.symm.trans asked'
      cases missing.symm.trans (KeyStore.findPrivateKey?_eq_some.mpr earliest)
  | ok stores =>
      obtain ⟨handle, source, trust, rfl, key, -⟩ := looks.resolved
      have resolves := Loader.resolve_eq_ok.mp resolved
      refine ⟨stores, rfl, ?_, resolves.keyAlias.trans asked⟩
      cases key.symm.trans resolves.key
      rfl

/-- What was resolved under an alias has a private key entry that carries it. -/
theorem exists_earliest_of_resolve {stores : ResolvedStores}
    (resolved : loader.resolve machine settings material = .ok stores) {name : String}
    (asked : settings.keyAlias = some name) :
    ∃ entry, stores.keyStore.store.IsEarliest (some name) entry := by
  have checked := (resolve_eq_ok.mp resolved).checked
  cases found : stores.keyStore.store.findPrivateKey? (some name) with
  | some entry => exact ⟨entry, KeyStore.findPrivateKey?_eq_some.mp found⟩
  | none => cases checked.symm.trans (checkAlias_eq_error.mpr ⟨name, asked, found, rfl⟩)

end Loader

/-! ## Until a connector starts -/

/-- An operation writes to the host of a connector. -/
def Operation.WritesHost (connector : Connector) : Operation → Prop
  | customize machine customizer =>
      customizer.settings.enabled = true ∧
        (connector.customize machine customizer).2.outcome = .ok ()
  | stop | modifyHost _ => True
  | start _ | setLoader _ | accept _ => False

namespace Connector

variable {engine : Engine} {machine : Machine} {connector : Connector}

/-- None of some operations, one after the other, writes to the host. -/
def Unwritten (engine : Engine) (connector : Connector) : List Operation → Prop
  | [] => True
  | operation :: operations =>
      ¬operation.WritesHost connector ∧
        (operation.apply engine connector).Unwritten engine operations

/-- Where nothing is written the host is as before. -/
theorem host_apply {operation : Operation} (unwritten : ¬operation.WritesHost connector) :
    (operation.apply engine connector).host = connector.host := by
  have ends := hostEnds_apply engine connector operation
  generalize (operation.apply engine connector).host = host at ends ⊢
  cases ends with
  | kept => rfl
  | bound enabled answered => exact absurd ⟨enabled, answered⟩ unwritten
  | stopped => exact absurd trivial unwritten
  | modified => exact absurd trivial unwritten

theorem host_run {operations : List Operation} (unwritten : connector.Unwritten engine operations) :
    (connector.run engine operations).host = connector.host := by
  induction operations generalizing connector with
  | nil => rfl
  | cons operation operations ih =>
      obtain ⟨kept, unwritten⟩ := unwritten
      rw [run_cons, ih unwritten, host_apply kept]

end Connector

/-! ## When a connector starts -/

/-- The causes over which no entry is found in a key store. -/
inductive StartupCause.MissesEntry : StartupCause → Prop where
  | aliasAbsent (name : String) : MissesEntry (.aliasAbsent name)
  | noPrivateKey : MissesEntry .noPrivateKey

theorem StartupCause.MissesEntry.isOfIdentity {cause : StartupCause} (misses : cause.MissesEntry) :
    cause.IsOfIdentity := by
  cases misses with
  | aliasAbsent name => exact .aliasAbsent name
  | noPrivateKey => exact .noPrivateKey

/-- An entry that is there is not missed, whatever else may be wrong with it. -/
theorem ServerIdentity.ofEntry_not_missing {engine : Engine} {list : Option String}
    {entry : PrivateKeyEntry} {cause : StartupCause} (misses : cause.MissesEntry) :
    ofEntry engine list entry ≠ .error (.failure (.startup cause)) := by
  intro h
  rw [ofEntry] at h
  split at h
  · cases h
    cases misses
  · split at h
    · cases h
    · split at h
      · cases h
        cases misses
      · cases h

/-- A connector has a private key entry to present: it starts with that entry or not at all, and
never misses it. -/
structure Connector.Presents (engine : Engine) (machine : Machine) (connector : Connector)
    (entry : PrivateKeyEntry) : Prop where
  identity : ∀ list, ServerIdentity.ofHost engine list connector.host =
    ServerIdentity.ofEntry engine list entry
  answered : ∀ {cause : StartupCause}, cause.MissesEntry →
    (connector.start engine machine).2.outcome ≠ .error (.failure (.startup cause))
  logged : ∀ {cause : StartupCause}, cause.MissesEntry → ∀ address,
    .startFailed address (.startup cause) ∉ (connector.start engine machine).2.events
  started : (connector.start engine machine).2.outcome = .ok () →
    ∃ context, (connector.start engine machine).1.context = some context ∧
      context.identity.TakenFrom engine entry

namespace Connector

variable {engine : Engine} {machine : Machine} {connector : Connector}

theorem presents_of_certificate {certificate : HostCertificate} {entry : PrivateKeyEntry}
    (set : connector.host.certificate = some certificate)
    (earliest : certificate.keyStore.store.IsEarliest certificate.keyAlias entry) :
    connector.Presents engine machine entry := by
  have selected : certificate.entry = .ok entry := by
    rw [HostCertificate.entry, KeyStore.findPrivateKey?_eq_some.mpr earliest]
  have identity (list : Option String) : ServerIdentity.ofHost engine list connector.host =
      ServerIdentity.ofEntry engine list entry := by
    rw [ServerIdentity.ofHost, set]
    change (do ServerIdentity.ofEntry engine list (← certificate.entry)) = _
    rw [selected]
    rfl
  have answered {cause : StartupCause} (misses : cause.MissesEntry) :
      (connector.start engine machine).2.outcome ≠ .error (.failure (.startup cause)) := by
    intro failed
    obtain ⟨list, failed⟩ := ofHost_of_start misses.isOfIdentity failed
    rw [identity] at failed
    exact ServerIdentity.ofEntry_not_missing misses failed
  refine ⟨identity, answered, ?_, ?_⟩
  · intro cause misses address logged
    exact answered misses (outcome_of_startFailed logged)
  · intro succeeded
    obtain ⟨context, address, made, start⟩ := exists_context_of_start succeeded
    obtain ⟨enabled, versions, made⟩ := ServerContext.ofHost_eq_ok.mp made
    have identified := made.identified
    rw [identity] at identified
    exact ⟨context, by rw [start], ServerIdentity.takenFrom_of_ofEntry identified⟩

/-- A customizer that was bound under an alias leaves a connector that has the entry to present, for
as long as nothing is written to its host. -/
theorem presents_of_customize {customizer : Customizer} {stores : ResolvedStores}
    {entry : PrivateKeyEntry} {resolving : Machine}
    (resolved : customizer.loader.resolve resolving customizer.settings customizer.material =
      .ok stores)
    (earliest : stores.keyStore.store.IsEarliest customizer.settings.keyAlias entry)
    {operations : List Operation}
    (unwritten : (connector.bindStores customizer stores).Unwritten engine operations) :
    ((connector.bindStores customizer stores).run engine operations).Presents engine machine
      entry := by
  have set : ((connector.bindStores customizer stores).run engine operations).host.certificate =
      some (HostConfig.certificateOf stores) := by
    rw [host_run unwritten]
    exact HostConfig.certificate_bind
  refine presents_of_certificate set ?_
  rw [HostConfig.certificateOf, (Loader.resolve_eq_ok.mp resolved).keyAlias]
  exact earliest

end Connector

/-- Looking up an alias when stores are resolved and when a connector starts come to the same. -/
structure AliasAgreement (engine : Engine) (machine : Machine) (connector : Connector)
    (customizer : Customizer) (name : String) : Prop where
  /-- The alias is rejected exactly if no private key entry of the key store carries it. -/
  rejected : customizer.settings.keyAlias = some name → ∀ {store},
    customizer.loader.LooksIn machine customizer.settings customizer.material store →
    (customizer.loader.resolve machine customizer.settings customizer.material =
        .error (.failure (.invalidConfiguration (.aliasAbsent name))) ↔
      ∀ entry, .privateKey entry ∈ store.entries → entry.name ≠ some name)
  /-- The store may contain the alias all the same, if a certificate carries it. -/
  rejected_contained : customizer.settings.keyAlias = some name → ∀ {store},
    customizer.loader.LooksIn machine customizer.settings customizer.material store →
    customizer.loader.resolve machine customizer.settings customizer.material =
        .error (.failure (.invalidConfiguration (.aliasAbsent name))) →
    (store.containsAlias name = true ↔
      ∃ certificate, .trusted (some name) certificate ∈ store.entries)
  /-- An alias that a private key entry carries is resolved together with the store. -/
  accepted : customizer.settings.keyAlias = some name → ∀ {store},
    customizer.loader.LooksIn machine customizer.settings customizer.material store →
    ∀ {entry}, .privateKey entry ∈ store.entries → entry.name = some name →
    ∃ stores, customizer.loader.resolve machine customizer.settings customizer.material =
        .ok stores ∧
      stores.keyStore.store = store ∧ stores.keyAlias = some name
  /-- Once it was bound, a connector presents the earliest private key entry that carries it, for as
  long as nothing is written to the host. -/
  presented : customizer.settings.keyAlias = some name → customizer.settings.enabled = true →
    (connector.customize machine customizer).2.outcome = .ok () →
    ∃ stores entry,
      customizer.loader.resolve machine customizer.settings customizer.material = .ok stores ∧
      stores.keyStore.store.IsEarliest (some name) entry ∧
      ∀ operations, (connector.customize machine customizer).1.Unwritten engine operations →
        ∀ machine', ((connector.customize machine customizer).1.run engine operations).Presents
          engine machine' entry
  /-- Entries that are added to a store change nothing about those that are found, be it under an
  alias or without one. -/
  appended : ∀ {store : KeyStore} {name entry}, store.findPrivateKey? name = some entry →
    ∀ entries : List StoreEntry,
      (entries.foldl KeyStore.withEntry store).findPrivateKey? name = some entry

/-- Whatever entries a store has, and in whatever order, an alias that passes the check is the alias
of the entry that is presented. -/
theorem aliasAgreement (engine : Engine) (machine : Machine) (connector : Connector)
    (customizer : Customizer) (name : String) :
    AliasAgreement engine machine connector customizer name where
  rejected asked _ looks := looks.rejects_iff asked
  rejected_contained := by
    intro asked store looks rejected
    have uncarried := (looks.rejects_iff asked).mp rejected
    rw [KeyStore.containsAlias_iff]
    refine or_iff_right ?_
    rintro ⟨entry, member, carried⟩
    exact uncarried entry member carried
  accepted := by
    intro asked store looks entry member carried
    cases found : store.findPrivateKey? (some name) with
    | some earliest => exact looks.exists_stores asked (KeyStore.findPrivateKey?_eq_some.mp found)
    | none =>
        have passed := KeyStore.findPrivateKey?_eq_none.mp found entry member
        exact absurd (KeyStore.isAskedFor_some.mpr carried) passed
  presented := by
    intro asked enabled answered
    obtain ⟨stores, resolved, bound⟩ := Connector.exists_stores_of_customize enabled answered
    obtain ⟨entry, earliest⟩ := Loader.exists_earliest_of_resolve resolved asked
    refine ⟨stores, entry, resolved, earliest, ?_⟩
    rw [bound]
    intro operations unwritten machine'
    rw [← asked] at earliest
    exact Connector.presents_of_customize resolved earliest unwritten
  appended found entries := KeyStore.findPrivateKey?_foldl_withEntry entries found

end TlsListener
