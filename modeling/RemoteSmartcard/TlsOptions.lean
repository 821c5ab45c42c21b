/-
# TLS options fail closed, or do not

A program fails closed if a TLS option that was given leads to an error or to TLS,
never to plaintext.  Whether the client does is decided by its merged settings:
`build_tls_config` looks at nothing but the CA first, reports an error if the
certificate is to come from the Windows store, takes a certificate and a key only
together, and leaves the rest to the scheme of the URL.  The server has TLS only with
both a certificate and a key, and asks for client certificates only with a CA.
-/
import RemoteSmartcard.ClientStartup
import RemoteSmartcard.ServerStartup

namespace RemoteSmartcard

/-! ## The client -/

/-- What the user gives the client: the command line, the configuration in the file it
names, and the host name. -/
structure ClientInput where
  commandLine : CommandLine
  file : ClientConfig
  hostname : Option String

namespace ClientInput

/-- The configuration of the file, or the default one. -/
def loaded (i : ClientInput) : ClientConfig :=
  match i.commandLine.config with
  | some _ => i.file
  | none => .default i.hostname

/-- The merged configuration. -/
def merged (i : ClientInput) : ClientConfig := i.loaded.mergeCliArgs (Args.parse i.commandLine)

/-- The client is answered with this input. -/
structure Answers (i : ClientInput) (w : ClientWorld) : Prop where
  hostname : w.hostname = i.hostname
  file : ∀ path, i.commandLine.config = some path →
    ∃ content, w.readToString path = .ok content ∧ w.parseToml content = .ok i.file

end ClientInput

/-- The channel of an attempt to connect, if it succeeds. -/
def Startup.connect (t : ClientTransport) : Startup → Option Channel
  | .finished => none
  | .running cfg tlsConfig => (GrpcClient.connectWithTls t cfg.server.url tlsConfig).toOption

/-- The configuration that is loaded is the one of the input. -/
theorem ClientInput.Answers.loaded {i : ClientInput} {w : ClientWorld} {cfg : ClientConfig}
    (hw : i.Answers w) (h : loadConfig w (Args.parse i.commandLine) = .ok cfg) :
    cfg = i.loaded := by
  unfold loadConfig at h
  unfold ClientInput.loaded
  show cfg = _
  cases hconfig : i.commandLine.config with
  | none =>
    have hargs : (Args.parse i.commandLine).config = none := hconfig
    rw [hargs] at h
    cases h
    rw [hw.hostname]
  | some path =>
    have hargs : (Args.parse i.commandLine).config = some path := hconfig
    rw [hargs] at h
    obtain ⟨content, hread, hparse⟩ := hw.file path hconfig
    obtain ⟨content', hread', h⟩ := bind_eq_ok_iff.mp h
    obtain ⟨cfg', hparse', h⟩ := bind_eq_ok_iff.mp h
    obtain ⟨-, -, h⟩ := bind_eq_ok_iff.mp h
    cases h
    rw [mapError_eq_ok_iff, hread] at hread'
    cases hread'
    rw [mapError_eq_ok_iff, hparse] at hparse'
    cases hparse'
    rfl

/-- A transport that connects wherever it may. -/
def ClientTransport.connecting (strict : Bool) : ClientTransport where
  fromShared _ := .ok ()
  tlsConfig _ _ := .ok ()
  connect url tls :=
    if strict && isHttps url && tls.isNone then .error "Connecting to HTTPS without TLS enabled"
    else .ok ⟨tls.isSome && isHttps url, tls.bind TonicClientTls.identity⟩

namespace ServerCommandLine

end ServerCommandLine

end RemoteSmartcard
