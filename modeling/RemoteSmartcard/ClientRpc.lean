/-
# The RPCs of the client (`client/src/grpc_client.rs`)

`GrpcClient` holds the id of its session; its methods are interaction programs over
`ClientOp`, one operation for each point at which the client is answered from outside.

In whatever order the methods are called, an RPC for a session carries the id that the
last `establish_session` was answered, and none is made once a heartbeat has been answered
that this session is not valid (`session_of_calls`).
-/
import RemoteSmartcard.ClientStartup
import RemoteSmartcard.ProtocolTrace
import RemoteSmartcard.System

namespace RemoteSmartcard

open Program hiding pure

/-! ## The messages -/

/-- `ConnectResponse`, the fields the client reads. -/
structure ConnectResponse where
  sessionId : String
  serverVersion : String
  deriving DecidableEq

/-- `HeartbeatRequest`. -/
structure HeartbeatRequest where
  sessionId : String
  timestamp : UInt64
  deriving DecidableEq

/-- `HeartbeatResponse`. -/
structure HeartbeatResponse where
  timestamp : UInt64
  sessionValid : Bool
  deriving DecidableEq

/-! ## The operations -/

/-- The branch that a `select!` of `run_connection` takes. -/
inductive Select
  | tick
  | channelClosed
  | shutdownChanged (value : Bool)
  deriving DecidableEq

/-- What the client asks of its surroundings.  `now` reads the clock, in microseconds;
`spawnChannel` spawns the task of `start_command_channel`. -/
inductive ClientOp
  | getReaderInfo
  | connectWithTls (endpoint : String) (tlsConfig : Option TonicClientTls)
  | establishSession (req : ConnectRequest)
  | listReaders (req : ListReadersRequest)
  | transmit (req : TransmitRequest)
  | now
  | heartbeat (req : HeartbeatRequest)
  | updateReaderInfo (req : UpdateReaderInfoRequest)
  | spawnChannel (sessionId : String)
  | select

/-- The answers to the operations; a failed RPC is answered by the text of its status. -/
abbrev ClientRet : ClientOp → Type
  | .getReaderInfo => List (String × Bytes × Bool)
  | .connectWithTls _ _ => Except ClientError Unit
  | .establishSession _ => Except String ConnectResponse
  | .listReaders _ => Except String ListReadersResponse
  | .transmit _ => Except String TransmitResponse
  | .now => UInt64
  | .heartbeat _ => Except String HeartbeatResponse
  | .updateReaderInfo _ => Except String UpdateReaderInfoResponse
  | .spawnChannel _ => Unit
  | .select => Select

/-- Programs of the client. -/
abbrev ClientProgram := Program ClientOp ClientRet

/-- One operation of the client with its answer. -/
abbrev ClientEvent := Program.Event ClientOp ClientRet

namespace ClientOp

/-! The one-operation programs, at their answer types. -/

abbrev doGetReaderInfo : ClientProgram (List (String × Bytes × Bool)) := .perform getReaderInfo

abbrev doConnectWithTls (endpoint : String) (tlsConfig : Option TonicClientTls) :
    ClientProgram (Except ClientError Unit) := .perform (connectWithTls endpoint tlsConfig)

abbrev doEstablishSession (req : ConnectRequest) :
    ClientProgram (Except String ConnectResponse) := .perform (establishSession req)

abbrev doListReaders (req : ListReadersRequest) :
    ClientProgram (Except String ListReadersResponse) := .perform (listReaders req)

abbrev doTransmit (req : TransmitRequest) : ClientProgram (Except String TransmitResponse) :=
  .perform (transmit req)

abbrev doNow : ClientProgram UInt64 := .perform now

abbrev doHeartbeat (req : HeartbeatRequest) : ClientProgram (Except String HeartbeatResponse) :=
  .perform (heartbeat req)

abbrev doUpdateReaderInfo (req : UpdateReaderInfoRequest) :
    ClientProgram (Except String UpdateReaderInfoResponse) := .perform (updateReaderInfo req)

abbrev doSpawnChannel (sessionId : String) : ClientProgram Unit :=
  .perform (spawnChannel sessionId)

abbrev doSelect : ClientProgram Select := .perform select

/-- The session that an operation is for. -/
def session : ClientOp → Option String
  | .listReaders req => some req.sessionId
  | .transmit req => some req.sessionId
  | .heartbeat req => some req.sessionId
  | .updateReaderInfo req => some req.sessionId
  | .spawnChannel sessionId => some sessionId
  | _ => none

end ClientOp

open ClientOp

/-! ## The methods -/

/-- `GrpcClient`, without the channel. -/
structure GrpcClient where
  sessionId : Option String
  deriving DecidableEq

namespace GrpcClient

/-- The client that `connect_with_tls` returns. -/
def new : GrpcClient := ⟨none⟩

/-- The error of a method that needs a session when there is none. -/
def noSession : ClientError := .connection "No session established"

/-- `establish_session`. -/
def establishSession (c : GrpcClient) (clientId version : String) :
    ClientProgram (Except ClientError ConnectResponse × GrpcClient) := do
  match ← doEstablishSession ⟨clientId, version⟩ with
  | .error e => pure (.error (.connection s!"Session establishment failed: {e}"), c)
  | .ok response => pure (.ok response, { c with sessionId := some response.sessionId })

/-- `list_readers`. -/
def listReaders (c : GrpcClient) :
    ClientProgram (Except ClientError ListReadersResponse × GrpcClient) :=
  match c.sessionId with
  | none => pure (.error noSession, c)
  | some sessionId => do
    match ← doListReaders ⟨sessionId⟩ with
    | .error e => pure (.error (.connection s!"List readers failed: {e}"), c)
    | .ok response => pure (.ok response, c)

/-- `transmit`; the name of the reader is only logged. -/
def transmit (c : GrpcClient) (_readerName : String) (cardHandle : UInt64) (apdu : Bytes) :
    ClientProgram (Except ClientError TransmitResponse × GrpcClient) :=
  match c.sessionId with
  | none => pure (.error noSession, c)
  | some sessionId => do
    match ← doTransmit ⟨sessionId, cardHandle, apdu⟩ with
    | .error e => pure (.error (.connection s!"Transmit failed: {e}"), c)
    | .ok response => pure (.ok response, c)

/-- `heartbeat`: a session that is no longer valid is forgotten. -/
def heartbeat (c : GrpcClient) :
    ClientProgram (Except ClientError HeartbeatResponse × GrpcClient) :=
  match c.sessionId with
  | none => pure (.error noSession, c)
  | some sessionId => do
    let timestamp ← doNow
    match ← doHeartbeat ⟨sessionId, timestamp⟩ with
    | .error e => pure (.error (.connection s!"Heartbeat failed: {e}"), c)
    | .ok response =>
      if !response.sessionValid then pure (.ok response, { c with sessionId := none })
      else pure (.ok response, c)

/-- `register_reader`. -/
def registerReader (c : GrpcClient) (name : String) (atr : Bytes) (cardPresent : Bool) :
    ClientProgram (Except ClientError UpdateReaderInfoResponse × GrpcClient) :=
  match c.sessionId with
  | none => pure (.error noSession, c)
  | some sessionId => do
    match ← doUpdateReaderInfo (registration sessionId (name, atr, cardPresent)) with
    | .error e => pure (.error (.connection s!"Register reader failed: {e}"), c)
    | .ok response => pure (.ok response, c)

/-- `start_command_channel`: the task that it spawns is a `CommandTask`. -/
def startCommandChannel (c : GrpcClient) : ClientProgram (Except ClientError Unit × GrpcClient) :=
  match c.sessionId with
  | none => pure (.error noSession, c)
  | some sessionId => do
    doSpawnChannel sessionId
    pure (.ok (), c)

/-! ## Any order of calls -/

/-- A call of a method. -/
inductive Call
  | establishSession (clientId version : String)
  | listReaders
  | transmit (readerName : String) (cardHandle : UInt64) (apdu : Bytes)
  | heartbeat
  | registerReader (name : String) (atr : Bytes) (cardPresent : Bool)
  | startCommandChannel

/-- Make a call; what it gives beside success is left to the caller. -/
def call (c : GrpcClient) : Call → ClientProgram (Except ClientError Unit × GrpcClient)
  | .establishSession clientId version => do
    let (result, c) ← c.establishSession clientId version
    pure (result.map fun _ => (), c)
  | .listReaders => do
    let (result, c) ← c.listReaders
    pure (result.map fun _ => (), c)
  | .transmit readerName cardHandle apdu => do
    let (result, c) ← c.transmit readerName cardHandle apdu
    pure (result.map fun _ => (), c)
  | .heartbeat => do
    let (result, c) ← c.heartbeat
    pure (result.map fun _ => (), c)
  | .registerReader name atr cardPresent => do
    let (result, c) ← c.registerReader name atr cardPresent
    pure (result.map fun _ => (), c)
  | .startCommandChannel => c.startCommandChannel

/-- Make the calls one after the other. -/
def calls (c : GrpcClient) : List Call → ClientProgram (List (Except ClientError Unit) × GrpcClient)
  | [] => pure ([], c)
  | a :: as => do
    let (result, c) ← c.call a
    let (results, c) ← calls c as
    pure (result :: results, c)

end GrpcClient

/-! ## The protocol -/

/-- The session that is held after an operation. -/
def sessionAfter (held : Option String) : (o : ClientOp) → ClientRet o → Option String
  | .establishSession _, .ok response => some response.sessionId
  | .heartbeat _, .ok response => if response.sessionValid then held else none
  | _, _ => held

/-- An operation for a session is for the one that is held. -/
def sessionProtocol : Protocol ClientOp ClientRet (Option String) :=
  ⟨fun held o => ∀ sessionId, o.session = some sessionId → held = some sessionId, sessionAfter⟩

namespace GrpcClient

/-- `establish_session` holds the session that it is answered with. -/
theorem obeys_establishSession (c : GrpcClient) (clientId version : String) :
    Obeys sessionProtocol (fun result held => held = result.2.sessionId)
      (c.establishSession clientId version) c.sessionId := by
  refine .perform_bind (fun sessionId h => by cases h) fun answer => ?_
  match answer with
  | .error e => exact rfl
  | .ok response => exact rfl

/-- A method that makes one RPC for the session that is held, and keeps this session whatever
the answer is. -/
theorem obeys_rpc (c : GrpcClient) {Alpha : Type} {o : String → ClientOp}
    {f : (sessionId : String) → ClientRet (o sessionId) →
      ClientProgram (Except ClientError Alpha × GrpcClient)}
    (hsession : ∀ sessionId, (o sessionId).session = some sessionId)
    (hkeeps : ∀ sessionId r, sessionAfter (some sessionId) (o sessionId) r = some sessionId)
    (hf : ∀ sessionId r, ∃ result, f sessionId r = pure (result, c)) :
    Obeys sessionProtocol (fun result held => held = result.2.sessionId)
      (match c.sessionId with
        | none => pure (.error noSession, c)
        | some sessionId => (perform (o sessionId)).bind (f sessionId)) c.sessionId := by
  cases hc : c.sessionId with
  | none => exact hc.symm
  | some sessionId =>
    refine .perform_bind (fun sessionId' h => ?_) fun r => ?_
    · rw [hsession] at h
      exact h
    · obtain ⟨result, hresult⟩ := hf sessionId r
      rw [hresult]
      exact (hkeeps sessionId r).trans hc.symm

/-- `list_readers` asks for the session held. -/
theorem obeys_listReaders (c : GrpcClient) :
    Obeys sessionProtocol (fun result held => held = result.2.sessionId)
      c.listReaders c.sessionId :=
  c.obeys_rpc (o := fun sessionId => .listReaders ⟨sessionId⟩) (fun _ => rfl) (fun _ _ => rfl)
    fun _ answer => by cases answer <;> exact ⟨_, rfl⟩

/-- `transmit` asks for it too. -/
theorem obeys_transmit (c : GrpcClient) (readerName : String) (cardHandle : UInt64)
    (apdu : Bytes) :
    Obeys sessionProtocol (fun result held => held = result.2.sessionId)
      (c.transmit readerName cardHandle apdu) c.sessionId :=
  c.obeys_rpc (o := fun sessionId => .transmit ⟨sessionId, cardHandle, apdu⟩) (fun _ => rfl)
    (fun _ _ => rfl) fun _ answer => by cases answer <;> exact ⟨_, rfl⟩

/-- `register_reader` reports for it. -/
theorem obeys_registerReader (c : GrpcClient) (name : String) (atr : Bytes)
    (cardPresent : Bool) :
    Obeys sessionProtocol (fun result held => held = result.2.sessionId)
      (c.registerReader name atr cardPresent) c.sessionId :=
  c.obeys_rpc (o := fun sessionId => .updateReaderInfo
      (registration sessionId (name, atr, cardPresent))) (fun _ => rfl) (fun _ _ => rfl)
    fun _ answer => by cases answer <;> exact ⟨_, rfl⟩

/-- `start_command_channel` opens the stream for it. -/
theorem obeys_startCommandChannel (c : GrpcClient) :
    Obeys sessionProtocol (fun result held => held = result.2.sessionId)
      c.startCommandChannel c.sessionId :=
  c.obeys_rpc (o := .spawnChannel) (fun _ => rfl) (fun _ _ => rfl) fun _ _ => ⟨_, rfl⟩

/-- An answer that the session is not valid ends it, for the client and the protocol alike. -/
theorem obeys_heartbeat (c : GrpcClient) :
    Obeys sessionProtocol (fun result held => held = result.2.sessionId)
      c.heartbeat c.sessionId := by
  obtain ⟨held⟩ := c
  cases held with
  | none => exact rfl
  | some sessionId =>
    refine .perform_bind (fun sessionId' h => by cases h) fun timestamp => ?_
    refine .perform_bind (fun sessionId' h => h) fun answer => ?_
    match answer with
    | .error e => exact rfl
    | .ok ⟨_, true⟩ => exact rfl
    | .ok ⟨_, false⟩ => exact rfl

/-- Every call keeps to the protocol, and holds the session that the protocol says. -/
theorem obeys_call (c : GrpcClient) (a : Call) :
    Obeys sessionProtocol (fun result held => held = result.2.sessionId) (c.call a)
      c.sessionId := by
  cases a with
  | establishSession clientId version =>
    exact (c.obeys_establishSession clientId version).bind fun _ _ hheld => hheld
  | listReaders => exact c.obeys_listReaders.bind fun _ _ hheld => hheld
  | transmit readerName cardHandle apdu =>
    exact (c.obeys_transmit readerName cardHandle apdu).bind fun _ _ hheld => hheld
  | heartbeat => exact c.obeys_heartbeat.bind fun _ _ hheld => hheld
  | registerReader name atr cardPresent =>
    exact (c.obeys_registerReader name atr cardPresent).bind fun _ _ hheld => hheld
  | startCommandChannel => exact c.obeys_startCommandChannel

/-- **Every sequence of calls** keeps to the protocol of the session. -/
theorem obeys_calls (c : GrpcClient) (as : List Call) :
    Obeys sessionProtocol (fun result held => held = result.2.sessionId) (c.calls as)
      c.sessionId := by
  induction as generalizing c with
  | nil => exact rfl
  | cons a as ih =>
    refine (c.obeys_call a).bind fun result held hheld => ?_
    obtain rfl := hheld
    exact (ih result.2).bind fun _ _ hheld => hheld

end GrpcClient

/-! ## Where the session comes from -/

/-- The operation began the session. -/
def ClientEvent.Begins (sessionId : String) (e : ClientEvent) : Prop :=
  ∃ req response, e = ⟨.establishSession req, .ok response⟩ ∧ response.sessionId = sessionId

/-- The operation began a session, or ended the one that was held. -/
def ClientEvent.Changes (e : ClientEvent) : Prop :=
  (∃ req response, e = ⟨.establishSession req, .ok response⟩) ∨
    ∃ req response, e = ⟨.heartbeat req, .ok response⟩ ∧ response.sessionValid = false

/-- An event begins a session, ends the one held, or leaves it. -/
theorem see_sessionProtocol (held : Option String) (e : ClientEvent) :
    (∃ sessionId, sessionProtocol.see held e = some sessionId ∧ e.Begins sessionId) ∨
      (sessionProtocol.see held e = none ∧ e.Changes) ∨
        (sessionProtocol.see held e = held ∧ ¬ e.Changes) := by
  have hsame : ∀ {o : ClientOp} {r : ClientRet o}, sessionAfter held o r = held →
      ¬ ClientEvent.Changes ⟨o, r⟩ → (∃ sessionId, sessionProtocol.see held ⟨o, r⟩ =
        some sessionId ∧ ClientEvent.Begins sessionId ⟨o, r⟩) ∨
      (sessionProtocol.see held ⟨o, r⟩ = none ∧ ClientEvent.Changes ⟨o, r⟩) ∨
        (sessionProtocol.see held ⟨o, r⟩ = held ∧ ¬ ClientEvent.Changes ⟨o, r⟩) :=
    fun hsee hnot => Or.inr (Or.inr ⟨hsee, hnot⟩)
  match e with
  | ⟨.establishSession req, .ok response⟩ => exact Or.inl ⟨_, rfl, req, response, rfl, rfl⟩
  | ⟨.heartbeat req, .ok ⟨timestamp, false⟩⟩ =>
    exact Or.inr (Or.inl ⟨rfl, Or.inr ⟨req, _, rfl, rfl⟩⟩)
  | ⟨.heartbeat req, .ok ⟨timestamp, true⟩⟩ =>
    refine hsame rfl ?_
    rintro (⟨_, _, h⟩ | ⟨_, response, h, hinvalid⟩)
    · cases h
    · cases h
      cases hinvalid
  | ⟨.establishSession _, .error _⟩ | ⟨.heartbeat _, .error _⟩ | ⟨.getReaderInfo, _⟩
  | ⟨.connectWithTls _ _, _⟩ | ⟨.listReaders _, _⟩ | ⟨.transmit _, _⟩ | ⟨.now, _⟩
  | ⟨.updateReaderInfo _, _⟩ | ⟨.spawnChannel _, _⟩ | ⟨.select, _⟩ =>
    refine hsame rfl ?_
    rintro (⟨_, _, h⟩ | ⟨_, _, h, -⟩) <;> cases h

/-- A session that is held after a trace began in it, or was held before, and nothing has
changed that since. -/
theorem after_sessionProtocol {held : Option String} {tr : List ClientEvent} {sessionId : String}
    (h : sessionProtocol.after held tr = some sessionId) :
    (∃ t₁ e t₂, tr = t₁ ++ e :: t₂ ∧ e.Begins sessionId ∧ ∀ e' ∈ t₂, ¬ e'.Changes) ∨
      (held = some sessionId ∧ ∀ e' ∈ tr, ¬ e'.Changes) := by
  induction tr using List.reverseRecOn with
  | nil => exact Or.inr ⟨h, by simp⟩
  | append_singleton tr e ih =>
    rw [after_append, after_cons, after_nil] at h
    rcases see_sessionProtocol (sessionProtocol.after held tr) e with
      ⟨sessionId', hsee, hbegins⟩ | ⟨hsee, -⟩ | ⟨hsee, hnot⟩
    · rw [h] at hsee
      obtain rfl := Option.some.inj hsee
      exact Or.inl ⟨tr, e, [], rfl, hbegins, by simp⟩
    · rw [h] at hsee
      cases hsee
    · have hmem : ∀ {t : List ClientEvent}, (∀ e' ∈ t, ¬ e'.Changes) →
          ∀ e' ∈ t ++ [e], ¬ e'.Changes := by
        intro t ht e' he'
        rcases List.mem_append.mp he' with he' | he'
        · exact ht e' he'
        · rw [List.mem_singleton.mp he']
          exact hnot
      rcases ih (hsee ▸ h) with ⟨t₁, e₀, t₂, rfl, hbegins, ht₂⟩ | ⟨hheld, htr⟩
      · exact Or.inl ⟨t₁, e₀, t₂ ++ [e], by simp, hbegins, hmem ht₂⟩
      · exact Or.inr ⟨hheld, hmem htr⟩

/-- **The session of an RPC.**  Whatever methods of a new client are called and however the
server answers, an operation for a session comes after an `establish_session` that was
answered this session, and since then no other session has been established and no heartbeat
was answered that the session is not valid. -/
theorem GrpcClient.session_of_calls {as : List GrpcClient.Call} {t₁ t₂ : List ClientEvent}
    {e : ClientEvent}
    {p : ClientProgram (List (Except ClientError Unit) × GrpcClient)}
    (h : Follows (GrpcClient.new.calls as) (t₁ ++ e :: t₂) p) {sessionId : String}
    (he : e.op.session = some sessionId) :
    ∃ u₁ e₀ u₂, t₁ = u₁ ++ e₀ :: u₂ ∧ e₀.Begins sessionId ∧ ∀ e' ∈ u₂, ¬ e'.Changes := by
  have hpermits := ((GrpcClient.new.obeys_calls as).follows h).1
  rcases after_sessionProtocol (hpermits.allowed sessionId he) with hbegun | ⟨hheld, -⟩
  · exact hbegun
  · cases hheld

/-- The heartbeat of a session that has been established. -/
theorem GrpcClient.session_of_calls_heartbeat :
    ∃ (u₁ : List ClientEvent) (e₀ : ClientEvent) (u₂ : List ClientEvent),
      [⟨.establishSession ⟨"client", "1"⟩, .ok ⟨"s", "1"⟩⟩, ⟨.now, (7 : UInt64)⟩] =
        u₁ ++ e₀ :: u₂ ∧ e₀.Begins "s" ∧ ∀ e' ∈ u₂, ¬ e'.Changes := by
  have hrun : Follows (GrpcClient.new.calls [.establishSession "client" "1", .heartbeat])
      ([⟨.establishSession ⟨"client", "1"⟩, .ok ⟨"s", "1"⟩⟩, ⟨.now, (7 : UInt64)⟩] ++
        ⟨.heartbeat ⟨"s", 7⟩, .ok ⟨8, true⟩⟩ :: [])
      (.pure ([.ok (), .ok ()], ⟨some "s"⟩)) := .head (.head (.head (.refl _)))
  exact GrpcClient.session_of_calls hrun rfl

end RemoteSmartcard
