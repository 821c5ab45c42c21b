/-
# The start of the server (`server/src/main.rs`)

`main` of the server up to the point where it serves: it creates the service, parses
the address and builds the TLS configuration, all from the command line.

`ServerTransport` is what the server of tonic does, and `ServerTransport.Lawful` what
is relied on: TLS is used exactly if it is configured, and a client without a
certificate is refused if there is a root for client certificates and these are not
optional.
-/
import RemoteSmartcard.Server
import RemoteSmartcard.Tls

namespace RemoteSmartcard

/-! ## The command line -/

/-- The options the user passed. -/
structure ServerCommandLine where
  port : Option UInt16 := none
  bind : Option String := none
  vpcdHost : Option String := none
  vpcdPort : Option UInt16 := none
  autoVpcd : Bool := false
  tlsCert : Option PathBuf := none
  tlsKey : Option PathBuf := none
  tlsCa : Option PathBuf := none
  tlsRequireClientCert : Bool := false

/-- `Args` of the server. -/
structure ServerArgs where
  port : UInt16
  bind : String
  vpcdHost : String
  vpcdPort : UInt16
  autoVpcd : Bool
  tlsCert : Option PathBuf
  tlsKey : Option PathBuf
  tlsCa : Option PathBuf
  tlsRequireClientCert : Bool

/-- `Args::parse`: an absent option gets its declared default. -/
def ServerArgs.parse (cl : ServerCommandLine) : ServerArgs where
  port := cl.port.getD 8443
  bind := cl.bind.getD "0.0.0.0"
  vpcdHost := cl.vpcdHost.getD "127.0.0.1"
  vpcdPort := cl.vpcdPort.getD 35963
  autoVpcd := cl.autoVpcd
  tlsCert := cl.tlsCert
  tlsKey := cl.tlsKey
  tlsCa := cl.tlsCa
  tlsRequireClientCert := cl.tlsRequireClientCert

/-! ## The surroundings -/

/-- What the server serves, and how. -/
structure Serving where
  service : SmartcardService
  addr : String
  tls : Option TonicServerTls

end RemoteSmartcard
