/-
# TLS set-up (`common/src/tls.rs`)

Both programs describe their TLS set-up by paths and turn it into a
configuration of tonic by reading the files.  The files are read through
`ReadToString`, which is whatever the file system answers.
-/
import RemoteSmartcard.ClientConfig
import RemoteSmartcard.ParseDuration

namespace RemoteSmartcard

/-- `fs::read_to_string`: the content of a file, or the text of an error. -/
abbrev ReadToString := PathBuf → Except String String

/-! ## The configurations of tonic -/

/-- `tonic::transport::Identity`: a certificate and its key, as PEM. -/
structure Identity where
  cert : String
  key : String

/-- `tonic::transport::ClientTlsConfig`. -/
structure TonicClientTls where
  caCertificate : Option String := none
  domainName : Option String := none
  identity : Option Identity := none

/-- `tonic::transport::ServerTlsConfig`. -/
structure TonicServerTls where
  identity : Option Identity := none
  clientCaRoot : Option String := none
  clientAuthOptional : Bool := false

/-! ## The configurations of `rsc_common::tls` -/

/-- `ServerTlsConfig`. -/
structure ServerTlsConfig where
  certPath : PathBuf
  keyPath : PathBuf
  caPath : Option PathBuf
  requireClientCert : Bool

/-- `ServerTlsConfig::new`. -/
def ServerTlsConfig.new (certPath keyPath : PathBuf) : ServerTlsConfig :=
  ⟨certPath, keyPath, none, false⟩

/-- `ClientTlsConfig`. -/
structure ClientTlsConfig where
  caPath : PathBuf
  certPath : Option PathBuf
  keyPath : Option PathBuf
  serverName : Option String
  dangerSkipVerify : Bool

/-- `ClientTlsConfig::new`. -/
def ClientTlsConfig.new (caPath : PathBuf) : ClientTlsConfig := ⟨caPath, none, none, none, false⟩

/-- `ClientTlsConfig::with_client_cert`. -/
def ClientTlsConfig.withClientCert (self : ClientTlsConfig) (certPath keyPath : PathBuf) :
    ClientTlsConfig :=
  { self with certPath := some certPath, keyPath := some keyPath }

/-- `ClientTlsConfig::with_server_name`. -/
def ClientTlsConfig.withServerName (self : ClientTlsConfig) (name : String) : ClientTlsConfig :=
  { self with serverName := some name }

/-! ## Reading the files -/

/-- Read a file, with an error that names what it holds. -/
def readPem (read : ReadToString) (what : String) (path : PathBuf) : Except CommonError String :=
  (read path).mapError fun e => .tls s!"Failed to read {what}: {e}"

/-- `create_client_tls_config`. -/
def createClientTlsConfig (read : ReadToString) (config : ClientTlsConfig) :
    Except CommonError TonicClientTls := do
  let caCert ← readPem read "CA certificate" config.caPath
  let tlsConfig : TonicClientTls :=
    { caCertificate := some caCert, domainName := config.serverName }
  match config.certPath, config.keyPath with
  | some certPath, some keyPath => do
    let cert ← readPem read "client certificate" certPath
    let key ← readPem read "client key" keyPath
    pure { tlsConfig with identity := some ⟨cert, key⟩ }
  | _, _ => pure tlsConfig

/-! ## Results -/

theorem mapError_eq_ok_iff {E E' A : Type} {x : Except E A} {f : E → E'} {a : A} :
    x.mapError f = .ok a ↔ x = .ok a := by
  cases x <;> simp [Except.mapError]

/-- A computation in two parts succeeds if both parts do. -/
theorem bind_eq_ok_iff {E A B : Type} {x : Except E A} {f : A → Except E B} {b : B} :
    x >>= f = .ok b ↔ ∃ a, x = .ok a ∧ f a = .ok b := by
  cases x with
  | error e => simp [bind, Except.bind]
  | ok a => simp [bind, Except.bind]

/-- A PEM file is what is read from its path. -/
theorem readPem_eq_ok_iff {read : ReadToString} {what : String} {path : PathBuf}
    {content : String} : readPem read what path = .ok content ↔ read path = .ok content :=
  mapError_eq_ok_iff

/-! ## What is created -/

/-- A client configuration has an identity if it has both paths, and then the one in
those files. -/
theorem identity_of_create {read : ReadToString} {config : ClientTlsConfig}
    {tls : TonicClientTls} (h : createClientTlsConfig read config = .ok tls) :
    (tls.identity.isSome ↔ config.certPath.isSome ∧ config.keyPath.isSome) ∧
      ∀ identity, tls.identity = some identity → ∃ certPath keyPath,
        config.certPath = some certPath ∧ config.keyPath = some keyPath ∧
          read certPath = .ok identity.cert ∧ read keyPath = .ok identity.key := by
  obtain ⟨caCert, -, h⟩ := bind_eq_ok_iff.mp h
  cases hcert : config.certPath with
  | none =>
    rw [hcert] at h
    cases h
    simp
  | some certPath =>
    cases hkey : config.keyPath with
    | none =>
      rw [hcert, hkey] at h
      cases h
      simp
    | some keyPath =>
      rw [hcert, hkey] at h
      obtain ⟨cert, hreadCert, h⟩ := bind_eq_ok_iff.mp h
      obtain ⟨key, hreadKey, h⟩ := bind_eq_ok_iff.mp h
      cases h
      refine ⟨by simp, fun identity hidentity => ?_⟩
      cases hidentity
      exact ⟨certPath, keyPath, rfl, rfl, readPem_eq_ok_iff.mp hreadCert,
        readPem_eq_ok_iff.mp hreadKey⟩

end RemoteSmartcard
