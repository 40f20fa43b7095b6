import TlsListener.Connector.Display
import TlsListener.Engine.Standard
import TlsListener.Machine.Standalone
import TlsListener.Proofs.Connector.CheckedAlias
import TlsListener.Proofs.Connector.JoinedSuites
import TlsListener.Proofs.Connector.NamedVersions
import TlsListener.Proofs.Connector.Negotiation
import TlsListener.Proofs.Connector.Restart
import TlsListener.Proofs.Connector.Settling
import TlsListener.Proofs.Connector.StartedIdentity
import TlsListener.Proofs.Connector.TrustPassword
import TlsListener.Proofs.Connector.TrustPrecedence
import TlsListener.Proofs.Store.Resolution
import TlsListener.Proofs.Connector.PlatformTrust
import TlsListener.Proofs.Connector.Atomicity
import TlsListener.Proofs.Host.Redaction
import TlsListener.Proofs.Store.Alike
import TlsListener.Proofs.Connector.Disclosure
import TlsListener.Proofs.Store.Registry
import TlsListener.Proofs.Store.Decision
import TlsListener.Proofs.Host.LastWriter
import TlsListener.Proofs.Connector.ParsedStore
import TlsListener.Proofs.Store.Acceptance
import TlsListener.Proofs.Store.TypeNames
import TlsListener.Proofs.Identity.AltNames
import TlsListener.Proofs.Settings.Document
import TlsListener.Proofs.Connector.StageOrder
