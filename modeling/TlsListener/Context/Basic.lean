import TlsListener.Context.Anchors
import TlsListener.Context.Identity
import TlsListener.Context.Suites

/-!
# TLS contexts

What a connector negotiates with: versions, suites, identity, and the anchors that clients are
verified against. A context is made of the settings of a host in this order, and the first thing
that is wrong with them is the one that is reported.
-/

namespace TlsListener

/-- A TLS context of a server. -/
structure ServerContext where
  range : VersionRange
  suites : SuiteLists
  identity : ServerIdentity
  anchors : List Certificate
  verification : ClientVerify
  deriving DecidableEq

/-- The context that the settings of a host make. -/
def ServerContext.ofHost (engine : Engine) (machine : Machine) (loader : Loader) (host : HostConfig) :
    Traced ServerContext := do
  let enabled ← enabledVersions host.enabledProtocols
  let (suites, versions) ← chooseSuites engine host.ciphers enabled
  let range ← VersionRange.ofVersions versions
  let identity ← ServerIdentity.ofHost engine suites.classic host
  let anchors ← host.anchors engine machine loader
  return { range, suites, identity, anchors, verification := host.verification }

end TlsListener
