import TlsListener.Host.Config

/-!
# The identity of a context

A context presents a private key with its certificate and the chain above it. All three are taken
from one entry of the key store of a host: the first private key entry, or the first with the alias
of the host's certificate. The engine has the last word on each of them, and on whether key and
certificate belong together.
-/

namespace TlsListener

/-- What a context presents to its clients. -/
structure ServerIdentity where
  key : PrivateKey
  leaf : Certificate
  /-- The certificates above the leaf. -/
  chain : List Certificate
  deriving DecidableEq

/-- The entry that the certificate of a host selects. -/
def HostCertificate.entry (certificate : HostCertificate) : Outcome Failure PrivateKeyEntry :=
  match certificate.keyStore.store.findPrivateKey? certificate.keyAlias with
  | some entry => .ok entry
  | none =>
    match certificate.keyAlias with
    | some name => .fail (.startup (.aliasAbsent name))
    | none => .fail (.startup .noPrivateKey)

namespace ServerIdentity

/-- The identity in an entry, under a list of suites. -/
def ofEntry (engine : Engine) (list : Option String) (entry : PrivateKeyEntry) :
    Outcome Failure ServerIdentity :=
  match entry.chain with
  | [] => .fail (.startup .noLeaf)
  | leaf :: chain =>
    if !(engine.acceptsKey entry.key && engine.acceptsLeaf list leaf) then .fail .engine
    else if !engine.belongs entry.key leaf then .fail (.startup .keyMismatch)
    else .ok ⟨entry.key, leaf, chain⟩

/-- The identity of a host, under a list of suites. -/
def ofHost (engine : Engine) (list : Option String) (host : HostConfig) :
    Outcome Failure ServerIdentity := do
  let certificate ← .ofOption (.startup .noCertificate) host.certificate
  let entry ← certificate.entry
  ofEntry engine list entry

end ServerIdentity

end TlsListener
