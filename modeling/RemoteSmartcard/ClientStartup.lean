/-
# The start of the client (`client/src/main.rs`, `client/src/config.rs`)

`main` up to its connection loop: it loads the configuration, merges the command
line into it and builds the TLS configuration, which every attempt to connect is
given.  `init_logging`, between these, always succeeds.

`ClientWorld` is what the client is answered while it starts, and
`ClientTransport` what the endpoints of tonic do.  `ClientTransport.Lawful` is what
the client relies on: a channel is encrypted exactly if there is a TLS
configuration and the scheme of the URL is https.
-/
import RemoteSmartcard.WindowsCert

namespace RemoteSmartcard

/-! ## Loading the configuration -/

/-- What the client is answered while it starts: the file system, the parser of the
configuration file, the host name, and on Windows the certificate store of the user. -/
structure ClientWorld where
  readToString : ReadToString
  pathExists : PathBuf → Bool
  parseToml : String → Except String ClientConfig
  hostname : Option String
  certStore : CertStore

/-- `ClientConfig::default`. -/
def ClientConfig.default (hostname : Option String) : ClientConfig where
  server := ⟨defaultServerUrl⟩
  tls := ⟨none, none, none, none, none, false⟩
  client := ⟨hostname.getD "unknown", [], defaultReconnectDelay, defaultReconnectMaxDelay, false,
    30⟩
  logging := ⟨"info", none, true, false⟩

/-- A file of the TLS settings must exist, if it is set. -/
def checkExists (w : ClientWorld) (what : String) (path : Option PathBuf) :
    Except ClientError Unit :=
  match path with
  | some path =>
    if w.pathExists path then .ok () else .error (.config s!"{what} not found: {path.quote}")
  | none => .ok ()

/-- `ClientConfig::validate`: the TLS settings are looked at if a CA is set. -/
def ClientConfig.validate (w : ClientWorld) (self : ClientConfig) : Except ClientError Unit :=
  match self.tls.caCert with
  | some caPath => do
    checkExists w "CA certificate" (some caPath)
    checkExists w "Client certificate" self.tls.clientCert
    checkExists w "Client key" self.tls.clientKey
  | none => .ok ()

/-- `ClientConfig::load`. -/
def ClientConfig.load (w : ClientWorld) (path : PathBuf) : Except ClientError ClientConfig := do
  let content ← (w.readToString path).mapError fun e =>
    .config s!"Failed to read config file: {e}"
  let config ← (w.parseToml content).mapError fun e =>
    .config s!"Failed to parse config: {e}"
  config.validate w
  pure config

/-! ## The TLS configuration -/

/-- The TLS set-up of `build_tls_config`, with the certificate and the key from files
if both are set. -/
def TlsConfig.fileSetup (tls : TlsConfig) (caPath : PathBuf) : ClientTlsConfig :=
  let tlsConfig := ClientTlsConfig.new caPath
  let tlsConfig :=
    match tls.serverName with
    | some serverName => tlsConfig.withServerName serverName
    | none => tlsConfig
  match tls.clientCert, tls.clientKey with
  | some certPath, some keyPath => tlsConfig.withClientCert certPath keyPath
  | _, _ => tlsConfig

theorem TlsConfig.certPath_fileSetup_iff (tls : TlsConfig) (caPath : PathBuf)
    {certPath keyPath : PathBuf} :
    (tls.fileSetup caPath).certPath = some certPath ∧
        (tls.fileSetup caPath).keyPath = some keyPath ↔
      tls.clientCert = some certPath ∧ tls.clientKey = some keyPath := by
  unfold fileSetup
  cases tls.serverName <;> cases tls.clientCert <;> cases tls.clientKey <;>
    simp [ClientTlsConfig.withClientCert, ClientTlsConfig.withServerName, ClientTlsConfig.new]

/-- An identity that the TLS settings stand for: the one in the files. -/
structure TlsConfig.Configured (w : ClientWorld) (tls : TlsConfig) (identity : Identity) :
    Prop where
  cert : ∃ certPath, tls.clientCert = some certPath ∧ w.readToString certPath = .ok identity.cert
  key : ∃ keyPath, tls.clientKey = some keyPath ∧ w.readToString keyPath = .ok identity.key

/-- Where a TLS configuration comes from; the certificate store gives none. -/
inductive BuiltFrom (w : ClientWorld) (tls : TlsConfig) : Option TonicClientTls → Prop
  | nothing (hca : tls.caCert = none) : BuiltFrom w tls none
  | files {caPath : PathBuf} {config : TonicClientTls}
      (hca : tls.caCert = some caPath) (hstore : tls.windowsCertThumbprint = none)
      (hcreate : createClientTlsConfig w.readToString (tls.fileSetup caPath) = .ok config) :
      BuiltFrom w tls (some config)

/-- It has an identity if the settings have both paths, and then the one in those files. -/
theorem BuiltFrom.identity {w : ClientWorld} {tls : TlsConfig} {config : TonicClientTls}
    (h : BuiltFrom w tls (some config)) :
    (config.identity.isSome ↔ tls.clientCert.isSome ∧ tls.clientKey.isSome) ∧
      ∀ identity, config.identity = some identity → tls.Configured w identity := by
  cases h with
  | @files caPath _ hca hstore hcreate =>
    obtain ⟨hsome, hfiles⟩ := identity_of_create hcreate
    have hpaths : ∀ certPath keyPath, _ := fun certPath keyPath =>
      @TlsConfig.certPath_fileSetup_iff tls caPath certPath keyPath
    refine ⟨?_, fun identity heq => ?_⟩
    · rw [hsome]
      simp only [Option.isSome_iff_exists, ← exists_and_left, ← exists_and_right, hpaths]
    · obtain ⟨certPath, keyPath, hcertPath, hkeyPath, hcert, hkey⟩ := hfiles identity heq
      obtain ⟨hcertPath, hkeyPath⟩ := (hpaths certPath keyPath).mp ⟨hcertPath, hkeyPath⟩
      exact ⟨⟨certPath, hcertPath, hcert⟩, keyPath, hkeyPath, hkey⟩

/-- What `main` comes to before its connection loop: it is done, or it connects with
a configuration. -/
inductive Startup
  | finished
  | running (cfg : ClientConfig) (tlsConfig : Option TonicClientTls)

/-- The configuration that `main` merges the command line into. -/
def loadConfig (w : ClientWorld) (args : Args) : Except ClientError ClientConfig :=
  match args.config with
  | some configPath => ClientConfig.load w configPath
  | none => .ok (ClientConfig.default w.hostname)

/-- A channel to the server, and the identity the client presents on it. -/
structure Channel where
  encrypted : Bool
  identity : Option Identity

/-- The operations of `tonic::transport::Endpoint`. -/
structure ClientTransport where
  fromShared : String → Except String Unit
  tlsConfig : String → TonicClientTls → Except String Unit
  connect : String → Option TonicClientTls → Except String Channel

/-- The scheme of a URL is https. -/
def isHttps (url : String) : Bool :=
  ['h', 't', 't', 'p', 's', ':', '/', '/'].isPrefixOf (url.toList.map Char.toLower)

/-- `GrpcClient::connect_with_tls`. -/
def GrpcClient.connectWithTls (t : ClientTransport) (endpoint : String)
    (tlsConfig : Option TonicClientTls) : Except ClientError Channel :=
  match tlsConfig with
  | some tls => do
    (t.fromShared endpoint).mapError fun e => .connection s!"Invalid endpoint: {e}"
    (t.tlsConfig endpoint tls).mapError fun e => .tls s!"TLS config error: {e}"
    (t.connect endpoint (some tls)).mapError fun e => .connection s!"Failed to connect: {e}"
  | none => do
    (t.fromShared endpoint).mapError fun e => .connection s!"Invalid endpoint: {e}"
    (t.connect endpoint none).mapError fun e => .connection s!"Failed to connect: {e}"

end RemoteSmartcard
