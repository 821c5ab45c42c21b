/-
# The configuration of the client (`client/src/config.rs`, `client/src/main.rs`)

`main` loads the configuration file and merges the command line into it.
`CommandLine` is what the user passed; `Args` is what clap makes of it, with the
declared default in place of an absent option.  Settings are merged in one of
three ways: an `Option`, the comparison with the default, or a flag.  The fields
for Windows certificates are compiled on Windows only; elsewhere they are absent.
-/
import RemoteSmartcard.Protocol

namespace RemoteSmartcard

/-- `PathBuf`. -/
abbrev PathBuf := String

/-! ## The configuration -/

/-- `ServerConfig`. -/
structure ServerConfig where
  url : String
  deriving DecidableEq

/-- `TlsConfig` of the client. -/
structure TlsConfig where
  caCert : Option PathBuf
  clientCert : Option PathBuf
  clientKey : Option PathBuf
  windowsCertThumbprint : Option String
  serverName : Option String
  dangerSkipVerify : Bool
  deriving DecidableEq

/-- `ClientSettings`. -/
structure ClientSettings where
  clientId : String
  readerFilter : List String
  reconnectDelay : UInt64
  reconnectMaxDelay : UInt64
  noReconnect : Bool
  heartbeatInterval : UInt64
  deriving DecidableEq

/-- `LoggingConfig`. -/
structure LoggingConfig where
  level : String
  file : Option PathBuf
  stdout : Bool
  json : Bool
  deriving DecidableEq

/-- `ClientConfig`. -/
structure ClientConfig where
  server : ServerConfig
  tls : TlsConfig
  client : ClientSettings
  logging : LoggingConfig
  deriving DecidableEq

/-- `default_server_url`. -/
def defaultServerUrl : String := "http://127.0.0.1:8443"

/-- `default_reconnect_delay`. -/
def defaultReconnectDelay : UInt64 := 1

/-- `default_reconnect_max_delay`. -/
def defaultReconnectMaxDelay : UInt64 := 60

/-! ## The command line -/

/-- The options the user passed. -/
structure CommandLine where
  config : Option PathBuf := none
  generateConfig : Bool := false
  logLevel : Option String := none
  server : Option String := none
  clientId : Option String := none
  tlsCa : Option PathBuf := none
  tlsCert : Option PathBuf := none
  tlsKey : Option PathBuf := none
  tlsServerName : Option String := none
  tlsWindowsCert : Option String := none
  listWindowsCerts : Bool := false
  reconnectDelay : Option UInt64 := none
  reconnectMaxDelay : Option UInt64 := none
  noReconnect : Bool := false

/-- `Args`. -/
structure Args where
  config : Option PathBuf
  generateConfig : Bool
  logLevel : Option String
  server : String
  clientId : Option String
  tlsCa : Option PathBuf
  tlsCert : Option PathBuf
  tlsKey : Option PathBuf
  tlsServerName : Option String
  tlsWindowsCert : Option String
  listWindowsCerts : Bool
  reconnectDelay : UInt64
  reconnectMaxDelay : UInt64
  noReconnect : Bool

/-- `Args::parse`: an absent option gets its declared default. -/
def Args.parse (cl : CommandLine) : Args where
  config := cl.config
  generateConfig := cl.generateConfig
  logLevel := cl.logLevel
  server := cl.server.getD "http://127.0.0.1:8443"
  clientId := cl.clientId
  tlsCa := cl.tlsCa
  tlsCert := cl.tlsCert
  tlsKey := cl.tlsKey
  tlsServerName := cl.tlsServerName
  tlsWindowsCert := cl.tlsWindowsCert
  listWindowsCerts := cl.listWindowsCerts
  reconnectDelay := cl.reconnectDelay.getD 1
  reconnectMaxDelay := cl.reconnectMaxDelay.getD 60
  noReconnect := cl.noReconnect

/-! ## Merging -/

section Merging

variable {Alpha : Type}

/-- `if let Some(value) = arg { setting = value }`. -/
def mergeOption (arg : Option Alpha) (setting : Alpha) : Alpha :=
  match arg with
  | some value => value
  | none => setting

/-- `if arg != default { setting = arg }`. -/
def mergeDefaulted [DecidableEq Alpha] (default arg setting : Alpha) : Alpha :=
  if arg ≠ default then arg else setting

/-- `if arg { setting = true }`. -/
def mergeFlag (arg setting : Bool) : Bool := if arg then true else setting

/-- `ClientConfig::merge_cli_args`. -/
def ClientConfig.mergeCliArgs (self : ClientConfig) (args : Args) : ClientConfig where
  server := { url := mergeDefaulted defaultServerUrl args.server self.server.url }
  tls := { self.tls with
    caCert := mergeOption (args.tlsCa.map some) self.tls.caCert
    clientCert := mergeOption (args.tlsCert.map some) self.tls.clientCert
    clientKey := mergeOption (args.tlsKey.map some) self.tls.clientKey
    serverName := mergeOption (args.tlsServerName.map some) self.tls.serverName
    windowsCertThumbprint :=
      mergeOption (args.tlsWindowsCert.map some) self.tls.windowsCertThumbprint }
  client := { self.client with
    clientId := mergeOption args.clientId self.client.clientId
    reconnectDelay :=
      mergeDefaulted defaultReconnectDelay args.reconnectDelay self.client.reconnectDelay
    reconnectMaxDelay :=
      mergeDefaulted defaultReconnectMaxDelay args.reconnectMaxDelay
        self.client.reconnectMaxDelay
    noReconnect := mergeFlag args.noReconnect self.client.noReconnect }
  logging := { self.logging with level := mergeOption args.logLevel self.logging.level }

/-! ## Precedence -/

/-- A merged setting has the value that was passed, if any, and that of the file
otherwise. -/
def TakesPrecedence (passed : Option Alpha) (file merged : Alpha) : Prop :=
  (∀ value, passed = some value → merged = value) ∧ (passed = none → merged = file)

theorem takesPrecedence_iff {passed : Option Alpha} {file merged : Alpha} :
    TakesPrecedence passed file merged ↔ merged = passed.getD file := by
  cases passed with
  | none => simp [TakesPrecedence]
  | some value => simp [TakesPrecedence]

theorem takesPrecedence_mergeOption (passed : Option Alpha) (file : Alpha) :
    TakesPrecedence passed file (mergeOption passed file) := by
  rw [takesPrecedence_iff]
  cases passed <;> rfl

theorem takesPrecedence_mergeFlag (passed file : Bool) :
    TakesPrecedence (if passed then some true else none) file (mergeFlag passed file) := by
  rw [takesPrecedence_iff]
  cases passed <;> rfl

/-- **The comparison with the default** cannot tell a passed default from an absent
option: it is right exactly if the file has the default then. -/
theorem takesPrecedence_mergeDefaulted_iff [DecidableEq Alpha] {default file : Alpha}
    {passed : Option Alpha} :
    TakesPrecedence passed file (mergeDefaulted default (passed.getD default) file) ↔
      (passed = some default → file = default) := by
  rw [takesPrecedence_iff, mergeDefaulted]
  cases passed with
  | none => simp
  | some value =>
    by_cases hvalue : value = default
    · simp [hvalue]
    · simp [hvalue]

end Merging

/-- The command line takes precedence: each setting with an option has the passed value
or that of the file, and the settings without an option are those of the file. -/
structure CommandLine.Precedes (cl : CommandLine) (file merged : ClientConfig) : Prop where
  server : TakesPrecedence cl.server file.server.url merged.server.url
  clientId : TakesPrecedence cl.clientId file.client.clientId merged.client.clientId
  tlsCa : TakesPrecedence (cl.tlsCa.map some) file.tls.caCert merged.tls.caCert
  tlsCert : TakesPrecedence (cl.tlsCert.map some) file.tls.clientCert merged.tls.clientCert
  tlsKey : TakesPrecedence (cl.tlsKey.map some) file.tls.clientKey merged.tls.clientKey
  tlsServerName :
    TakesPrecedence (cl.tlsServerName.map some) file.tls.serverName merged.tls.serverName
  tlsWindowsCert : TakesPrecedence (cl.tlsWindowsCert.map some) file.tls.windowsCertThumbprint
    merged.tls.windowsCertThumbprint
  reconnectDelay :
    TakesPrecedence cl.reconnectDelay file.client.reconnectDelay merged.client.reconnectDelay
  reconnectMaxDelay : TakesPrecedence cl.reconnectMaxDelay file.client.reconnectMaxDelay
    merged.client.reconnectMaxDelay
  noReconnect : TakesPrecedence (if cl.noReconnect then some true else none)
    file.client.noReconnect merged.client.noReconnect
  logLevel : TakesPrecedence cl.logLevel file.logging.level merged.logging.level
  others : merged.tls.dangerSkipVerify = file.tls.dangerSkipVerify ∧
    merged.client.readerFilter = file.client.readerFilter ∧
    merged.client.heartbeatInterval = file.client.heartbeatInterval ∧
    merged.logging = { file.logging with level := merged.logging.level }

/-- An option passed with its default value says what the file says. -/
structure CommandLine.DefaultsAgree (cl : CommandLine) (file : ClientConfig) : Prop where
  server : cl.server = some defaultServerUrl → file.server.url = defaultServerUrl
  reconnectDelay : cl.reconnectDelay = some defaultReconnectDelay →
    file.client.reconnectDelay = defaultReconnectDelay
  reconnectMaxDelay : cl.reconnectMaxDelay = some defaultReconnectMaxDelay →
    file.client.reconnectMaxDelay = defaultReconnectMaxDelay

/-- **Precedence of the command line.**  It takes precedence over the file exactly if no
option is passed with its default value where the file has another one. -/
theorem ClientConfig.precedes_mergeCliArgs_iff (file : ClientConfig) (cl : CommandLine) :
    cl.Precedes file (file.mergeCliArgs (Args.parse cl)) ↔ cl.DefaultsAgree file := by
  constructor
  · intro h
    exact ⟨takesPrecedence_mergeDefaulted_iff.mp h.server,
      takesPrecedence_mergeDefaulted_iff.mp h.reconnectDelay,
      takesPrecedence_mergeDefaulted_iff.mp h.reconnectMaxDelay⟩
  · intro h
    exact {
      server := takesPrecedence_mergeDefaulted_iff.mpr h.server
      clientId := takesPrecedence_mergeOption ..
      tlsCa := takesPrecedence_mergeOption ..
      tlsCert := takesPrecedence_mergeOption ..
      tlsKey := takesPrecedence_mergeOption ..
      tlsServerName := takesPrecedence_mergeOption ..
      tlsWindowsCert := takesPrecedence_mergeOption ..
      reconnectDelay := takesPrecedence_mergeDefaulted_iff.mpr h.reconnectDelay
      reconnectMaxDelay := takesPrecedence_mergeDefaulted_iff.mpr h.reconnectMaxDelay
      noReconnect := takesPrecedence_mergeFlag ..
      logLevel := takesPrecedence_mergeOption ..
      others := ⟨rfl, rfl, rfl, rfl⟩ }

/-- A file that sets the initial delay to five seconds. -/
def fiveSecondsConfig : ClientConfig where
  server := ⟨"https://server.example.com:8443"⟩
  tls := ⟨none, none, none, none, none, false⟩
  client := ⟨"my-laptop", [], 5, 60, false, 30⟩
  logging := ⟨"info", none, true, false⟩

/-- `--reconnect-delay 1` does not take precedence over it. -/
theorem ClientConfig.not_precedes_fiveSeconds :
    ¬ CommandLine.Precedes { reconnectDelay := some 1 } fiveSecondsConfig
      (fiveSecondsConfig.mergeCliArgs (Args.parse { reconnectDelay := some 1 })) := by
  intro h
  have hdelay : (5 : UInt64) = 1 := h.reconnectDelay.1 1 rfl
  exact absurd hdelay (by decide)

end RemoteSmartcard
