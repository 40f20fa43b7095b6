import TlsListener.Proofs.Connector.Run
import TlsListener.Proofs.Host.Binding

/-!
# Which anchors a customized connector starts with

A new connector, or one that has just been stopped, is customized once and then started. Four parts
decide which certificates it verifies its clients against: the choice of a trust store, the writing
of it to the host, the handing over of the customizer's loader, and the loading of the platform's
trust store at the start. `TrustedBy` says what they come to, with no mention of a connector: a
trust store that was handed over comes before all others, a key store that was handed over shuts out
the trust store that is declared, and where there is none the platform's applies.

A store that is declared is read while the connector is customized, and the platform's not before
the start. The files may have changed in between, so there are two machines.
-/

namespace TlsListener

/-- The certificates that a customizer has clients verified against: those of the trust store that
is chosen on the machine where it is applied, or else those of the platform's trust store on the
machine where the connector is started. -/
inductive TrustedBy (customizer : Customizer) (customizing starting : Machine)
    (platform : PlatformDefaults) : List Certificate → Prop where
  | chosen {store : StoreHandle} {source : StoreSource} {password : Option Secret}
      (choice : TrustChoice customizer.loader customizing customizer.settings customizer.material
        (some store) source password) :
      TrustedBy customizer customizing starting platform store.store.trustedCertificates
  | platform {source : StoreSource} {password : Option Secret} {anchors : List Certificate}
      (choice : TrustChoice customizer.loader customizing customizer.settings customizer.material
        none source password)
      (anchored : PlatformAnchors starting customizer.loader platform anchors) :
      TrustedBy customizer customizing starting platform anchors

/-- There is one list of certificates only that a customizer has clients verified against. -/
theorem TrustedBy.unique {customizer : Customizer} {customizing starting : Machine}
    {platform : PlatformDefaults} {anchors others : List Certificate}
    (h : TrustedBy customizer customizing starting platform anchors)
    (h' : TrustedBy customizer customizing starting platform others) : anchors = others := by
  cases h with
  | chosen choice =>
      cases h' with
      | chosen choice' =>
          cases choice.unique choice'
          rfl
      | platform choice' => cases choice.unique choice'
  | platform choice anchored =>
      cases h' with
      | chosen choice' => cases choice.unique choice'
      | platform _ anchored' => exact anchored.unique anchored'

/-- A new connector on a platform that names a trust store. -/
def Sample.fresh : Connector :=
  .create engine address { trustFile := some "ca.pem" }

namespace Connector

variable {engine : Engine} {customizing starting : Machine} {connector : Connector}
variable {customizer : Customizer}

/-- A connector is new or has just been stopped, whatever loader it has been handed. -/
inductive Fresh (engine : Engine) : Connector → Prop where
  | created (address : Address) (defaults : PlatformDefaults) :
      Fresh engine (create engine address defaults)
  | stopped (connector : Connector) : Fresh engine connector.stop
  | handed {connector : Connector} (fresh : Fresh engine connector) (loader : Loader) :
      Fresh engine (connector.setLoader loader)

theorem Fresh.host_eq (fresh : Fresh engine connector) :
    connector.host = .ofDefaults connector.defaults := by
  induction fresh with
  | created => rfl
  | stopped => rfl
  | handed _ _ ih => exact ih

/-- The anchors of a host with the defaults of the platform, once resolved stores are written to
it. -/
theorem trustedBy_of_anchored {platform : PlatformDefaults} {stores : ResolvedStores}
    {anchors : List Certificate}
    (resolved : customizer.loader.resolve customizing customizer.settings customizer.material =
      .ok stores)
    (anchored : ((HostConfig.ofDefaults platform).bind customizer.settings stores).Anchored starting
      customizer.loader anchors) :
    TrustedBy customizer customizing starting platform anchors := by
  have choice := trustChoice_of_resolve resolved
  cases trust : stores.trustStore with
  | some store =>
      rw [trust] at choice
      cases anchored with
      | own own =>
          cases (HostConfig.trust_bind_of_some trust).symm.trans own
          exact .chosen choice
      | platform unset => cases (HostConfig.trust_bind_of_some trust).symm.trans unset
  | none =>
      rw [trust] at choice
      cases anchored with
      | own own => cases (HostConfig.trust_bind_of_none trust).symm.trans own
      | platform unset anchored =>
          cases (HostConfig.trust_bind_of_none trust).symm.trans unset
          exact .platform choice anchored

/-- The anchors of a connector that is customized once and then started are those that the
customizer has clients verified against. -/
theorem trustedBy_iff_anchors (fresh : Fresh engine connector)
    (enabled : customizer.settings.enabled = true)
    (customized : (connector.customize customizing customizer).2.outcome = .ok ())
    (started : ((connector.customize customizing customizer).1.start engine starting).2.outcome =
      .ok ()) :
    ∃ context,
      ((connector.customize customizing customizer).1.start engine starting).1.context =
        some context ∧
      ∀ anchors, TrustedBy customizer customizing starting connector.defaults anchors ↔
        anchors = context.anchors := by
  obtain ⟨stores, resolved, bound⟩ := exists_stores_of_customize enabled customized
  obtain ⟨context, address, made, start⟩ := exists_context_of_start started
  obtain ⟨enabled, versions, made⟩ := ServerContext.ofHost_eq_ok.mp made
  have anchored := HostConfig.anchored_of_anchors made.anchored
  rw [bound] at anchored
  have trusted : TrustedBy customizer customizing starting connector.defaults context.anchors := by
    rw [bindStores, modifyHost, setLoader, fresh.host_eq] at anchored
    exact trustedBy_of_anchored resolved anchored
  refine ⟨context, by rw [start], fun anchors => ⟨fun h => h.unique trusted, ?_⟩⟩
  rintro rfl
  exact trusted

/-- The trust store that is declared does not count beside the key store that was handed over. -/
theorem trustedBy_iff_anchors_sample :
    Fresh Sample.engine Sample.fresh ∧ Sample.customizer.settings.enabled = true ∧
    (Sample.fresh.customize Sample.machine Sample.customizer).2.outcome = .ok () ∧
    ((Sample.fresh.customize Sample.machine Sample.customizer).1.start Sample.engine
      Sample.machine).2.outcome = .ok () ∧
    ∃ context,
      ((Sample.fresh.customize Sample.machine Sample.customizer).1.start Sample.engine
        Sample.machine).1.context = some context ∧
      ∀ anchors, TrustedBy Sample.customizer Sample.machine Sample.machine Sample.fresh.defaults
        anchors ↔ anchors = context.anchors := by
  have fresh : Fresh Sample.engine Sample.fresh := .created _ _
  have customized : (Sample.fresh.customize Sample.machine Sample.customizer).2.outcome = .ok () :=
    rfl
  have started : ((Sample.fresh.customize Sample.machine Sample.customizer).1.start Sample.engine
      Sample.machine).2.outcome = .ok () := by
    decide +kernel
  exact ⟨fresh, rfl, customized, started, trustedBy_iff_anchors fresh rfl customized started⟩

end Connector

end TlsListener
