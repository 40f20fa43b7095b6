import TlsListener.Connector.Basic
import TlsListener.Text.Quoted

/-!
# Sessions

A connection that a peer has brought through its handshake is an arrival: what was negotiated and
which certificates the peer showed. A session is what is kept of it. Connections are accepted at the
address and in the context of a connector that is started, and by no other connector.
-/

namespace TlsListener

open Text

/-- A connection after its handshake. -/
structure Arrival where
  /-- The address that the connection comes from. -/
  peer : Address
  version : Version
  /-- The name of the cipher suite, where one is in use. -/
  cipher : Option String
  /-- The certificate by which the peer showed who it is. -/
  certificate : Option Certificate
  /-- The further certificates that the peer sent. -/
  chain : List Certificate

/-- An accepted connection. -/
structure Session where
  peer : Address
  version : Version
  cipher : String
  /-- The certificates of the peer, its own first. -/
  peerChain : List CertificateSummary
  deriving DecidableEq

/-- The session of a connection. -/
def Arrival.session (arrival : Arrival) : Session where
  peer := arrival.peer
  version := arrival.version
  cipher := arrival.cipher.getD Certificate.noName
  peerChain := (arrival.certificate.toList ++ arrival.chain).map Certificate.summary

/-- Accept a connection by a handshake at the connector's address and in its context. -/
def Connector.accept (handshake : Address → ServerContext → Except Failure Arrival)
    (connector : Connector) : Except Failure Session := do
  let (address, context) ← connector.endpoint
  return (← handshake address context).session

/-- A connector that listens nowhere accepts nothing. -/
theorem Connector.accept_of_listener_eq_none {connector : Connector} (h : connector.listener = none)
    (handshake : Address → ServerContext → Except Failure Arrival) :
    connector.accept handshake = .error .notStarted := by
  simp [accept, endpoint, h, bind, Except.bind]

/-- The summary of a certificate in a diagnostic. -/
def CertificateSummary.debug (summary : CertificateSummary) : String :=
  record "CertInfo" [
    ("subject", quoted summary.subject),
    ("issuer", quoted summary.issuer),
    ("subject_alt_names", listed (summary.altNames.map quoted))]

/-- A session in a diagnostic: its peer, and what was negotiated with it. -/
def Session.debug (session : Session) : String :=
  record "TlsSession" [
    ("peer", session.peer.text),
    ("info", record "HandshakeInfo" [
      ("version", quoted session.version.name),
      ("cipher", quoted session.cipher),
      ("peer_cert_chain", listed (session.peerChain.map CertificateSummary.debug))])]

end TlsListener
