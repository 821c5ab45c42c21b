/-
# The server as a transition system
(`server/src/grpc_service.rs`, `server/src/vpcd.rs`)

All tasks of the server over the shared state: the RPC handlers, the handler
task of every `CommandChannel` stream, and the vpcd tasks.  `step` takes one
action; an action is what one task does between two points where it gives up
control, or an input from outside (a client message, bytes from vpcd, time).

The lock of the session table is held within one action, with one exception:
`send_command_async` awaits the bounded queue of the client while its caller
holds the write lock.  `lock` is the sender suspended there, if any; while it is
set, no action that needs the lock is enabled except the resumption of that
sender.

For the statements about runs the state keeps three records that no action
reads: `registrations` (which stream registered for which session, newest
first), `created` (all session ids ever handed out, against which a new UUID is
fresh), and `log` (the operations of the vpcd tasks with their answers).
-/
import RemoteSmartcard.Shared
import RemoteSmartcard.StepRun
import RemoteSmartcard.TcpStream

namespace RemoteSmartcard

/-! ## The state -/

/-- Where the handler task of a `CommandChannel` stream stands. -/
inductive StreamPhase
  | waiting
  | registering (response : CommandResponse)
  | responding (response : CommandResponse)
  | cleanup
  | finished
  deriving DecidableEq

/-- A `CommandChannel` stream: the queue of commands towards the client, and
the handler task of the incoming messages with its `session_id`. -/
structure CommandStream where
  queue : Mpsc CommandRequest
  sessionId : Option String
  phase : StreamPhase

/-- Where a vpcd task stands: about to connect, in the message loop of a
connection with the rest of the current turn, or asleep between connections. -/
inductive TaskPhase
  | connecting
  | connected (stream : TcpStream) (program : VpcdProgram (Bool × VpcdClient))
  | pausing (millis : ℕ)

/-- A task spawned by `VpcdManager::start_client`; `connections` counts its
successful connections to vpcd. -/
structure VpcdTask where
  client : VpcdClient
  vpcdHost : String
  port : UInt16
  consecutiveErrors : UInt32
  connections : ℕ
  phase : TaskPhase

/-- A call of `VpcdManager::start_client` about to be made. -/
structure StartClient where
  sessionId : String
  readerName : String
  vpcdHost : String
  vpcdPort : Option UInt16
  deriving DecidableEq

/-- A vpcd task suspended in `send_command_async` on a full queue. -/
structure BlockedSend where
  task : ℕ
  request : CommandRequest
  stream : ℕ
  rx : ℕ
  deriving DecidableEq

/-- One operation of a vpcd task on one of its connections. -/
structure LogEntry where
  task : ℕ
  connection : ℕ
  event : VpcdEvent

/-- The state of the server. -/
structure Server where
  now : ℕ
  shared : Shared
  streams : List CommandStream
  starting : List StartClient
  tasks : List VpcdTask
  lock : Option BlockedSend
  registrations : List (String × ℕ)
  created : List String
  log : List LogEntry

/-- `SmartcardService`, the settings of the service. -/
structure SmartcardService where
  vpcdHost : String
  vpcdPort : UInt16
  autoVpcd : Bool

/-- A gRPC status, by the only code the handlers use. -/
inductive Status
  | notFound (message : String)
  deriving DecidableEq

/-! ## The RPC handlers -/

namespace Server

/-- The server at start-up. -/
def init : Server := ⟨0, Shared.init, [], [], [], none, [], [], []⟩

/-- A new UUID: no session ever had it and no stream has named it. -/
def FreshId (s : Server) (id : String) : Prop :=
  id ∉ s.created ∧ ∀ st ∈ s.streams, st.sessionId ≠ some id

instance (s : Server) (id : String) : Decidable (s.FreshId id) :=
  inferInstanceAs (Decidable (_ ∧ _))

/-- `establish_session`, with the UUID of the new session. -/
def establishSession (s : Server) (id : String) (req : ConnectRequest) : Server :=
  { s with
    shared := s.shared.createSession id s.now req.clientId
    created := id :: s.created }

/-- `update_reader_info`: the reader goes into the session; a vpcd client is
to be started for a reader seen for the first time with a card in it. -/
def updateReaderInfo (svc : SmartcardService) (s : Server) (req : UpdateReaderInfoRequest) :
    Except Status UpdateReaderInfoResponse × Server :=
  match s.shared.getSession req.sessionId with
  | none => (.error (.notFound "Session not found"), s)
  | some session =>
    let isNewReader := decide (req.readerName ∉ session.readers)
    let s := { s with
      shared := s.shared.updateSession req.sessionId fun session =>
        session.updateReader req.readerName req.atr req.cardPresent }
    let s :=
      -- a reader seen before, without a card then, gets no vpcd client later
      if isNewReader && svc.autoVpcd && req.cardPresent then
        { s with starting :=
          s.starting ++ [⟨req.sessionId, req.readerName, svc.vpcdHost, some svc.vpcdPort⟩] }
      else s
    (.ok ⟨true, s!"Virtual PCD ({req.readerName})"⟩, s)

/-- `heartbeat`: the answer `session_valid`. -/
def heartbeat (s : Server) (sessionId : String) : Bool × Server :=
  ((s.shared.sessions.touchSession sessionId s.now).1,
    { s with shared := s.shared.updateSession sessionId fun session => session.touch s.now })

/-- `list_readers`; it changes nothing. -/
def listReaders (s : Server) (req : ListReadersRequest) : Except Status ListReadersResponse :=
  match s.shared.getSession req.sessionId with
  | none => .error (.notFound "Session not found")
  | some session =>
    .ok ⟨session.readers.entries.map fun e => ⟨e.1, e.2.atr, e.2.cardPresent, 0, "", ""⟩⟩

/-- `transmit`: a dummy response for every session of the table; it changes
nothing. -/
def transmit (s : Server) (req : TransmitRequest) : Except Status TransmitResponse :=
  match s.shared.getSession req.sessionId with
  | none => .error (.notFound "Session not found")
  | some _ => .ok ⟨[], 0x6D, 0x00, [0x6D, 0x00]⟩

/-- `send_command_response`: the response handled for the session it names. -/
def sendCommandResponse (s : Server) (response : CommandResponse) : SendResponseAck × Server :=
  if 0 < response.commandId then
    match s.shared.handleResponse response.sessionId response with
    | (some (.ok ()), shared) => (⟨true, ""⟩, { s with shared := shared })
    | (some (.error e), shared) => (⟨false, e⟩, { s with shared := shared })
    | (none, shared) =>
      (⟨false, s!"Session not found: {response.sessionId}"⟩, { s with shared := shared })
  else (⟨true, ""⟩, s)

/-- `command_channel`: a queue for 100 commands and the handler task. -/
def commandChannel (s : Server) : Server :=
  { s with streams := s.streams ++ [⟨Mpsc.new 100, none, .waiting⟩] }

/-! ## The handler task of a stream -/

/-- After the registration: a response with a positive command id is to be
handled, any other message is not. -/
def afterRegistration (response : CommandResponse) : StreamPhase :=
  if 0 < response.commandId then .responding response else .waiting

/-- `stream.next()`: a message, an error, or the end of the stream.  The first
message binds the stream to the session it names. -/
def streamNext (st : CommandStream) : Option (Except String CommandResponse) → CommandStream
  | some (.ok response) =>
    match st.sessionId with
    | none => { st with sessionId := some response.sessionId, phase := .registering response }
    | some _ => { st with phase := afterRegistration response }
  | some (.error _) => { st with phase := .cleanup }
  | none => { st with phase := .cleanup }

/-- Replace the handler task of the stream `i`. -/
def setStream (s : Server) (i : ℕ) (st : CommandStream) : Server :=
  { s with streams := s.streams.set i st }

/-- The handler task of the stream `i` takes the lock and does what it took it
for: register the stream's queue, handle a response for the session the stream
is bound to, or clean up after the end of the stream. -/
def streamTurn (s : Server) (i : ℕ) (st : CommandStream) : Option Server :=
  match st.phase with
  | .waiting => none
  | .finished => none
  | .registering response =>
    if s.lock.isSome then none
    else
      match s.shared.getSession response.sessionId with
      | some _ =>
        some { s with
          shared := s.shared.setCommandChannel response.sessionId i
          streams := s.streams.set i { st with phase := afterRegistration response }
          registrations := (response.sessionId, i) :: s.registrations }
      -- a message that names no session of the table ends the handler task
      | none => some (s.setStream i { st with phase := .cleanup })
  | .responding response =>
    if s.lock.isSome then none
    else
      match st.sessionId with
      | some sid =>
        some { s with
          shared := (s.shared.handleResponse sid response).2
          streams := s.streams.set i { st with phase := .waiting } }
      | none => none
  | .cleanup =>
    match st.sessionId with
    | some sid =>
      if s.lock.isSome then none
      else
        -- by session, whatever stream the channel of the session belongs to
        some { s with
          shared := s.shared.clearCommandChannel sid
          streams := s.streams.set i { st with phase := .finished } }
    | none => some (s.setStream i { st with phase := .finished })

/-! ## The vpcd tasks -/

/-- How the surroundings answer where they have a choice: go on, or fail (a
write error with its text, a timeout). -/
inductive Outcome
  | proceed
  | fail (text : String)

/-- `start_client`: spawn the task of a session and reader. -/
def startClient (s : Server) (start : StartClient) : Server :=
  { s with tasks := s.tasks ++ [{
      client := VpcdClient.new.setTarget start.sessionId start.readerName
      vpcdHost := start.vpcdHost
      port := start.vpcdPort.getD 35963
      consecutiveErrors := 0
      connections := 0
      phase := .connecting }] }

/-- Hand a request to the queue of a stream: `send(..).await` of
`send_command_async`, and its return.  The answer is `none` while the queue is
full; then the caller stays suspended with the lock. -/
def enqueue (s : Server) (b : BlockedSend) :
    Option (Option (Option (Except String ℕ)) × Server) :=
  match s.streams[b.stream]? with
  | none => none
  | some st =>
    match st.queue.send b.request with
    | .closed =>
      -- the sender stays in the pending map; the receiver goes with the error
      some (some (some (.error "Failed to send command: channel closed")),
        { s with shared := s.shared.dropReceiver b.rx, lock := none })
    | .full => some (none, { s with lock := some b })
    | .sent queue =>
      some (some (some (.ok b.rx)),
        { s with streams := s.streams.set b.stream { st with queue := queue }, lock := none })

/-- The operation `sendCommand` of the task `i`: take the write lock and begin,
or resume when suspended. -/
def sendCommand (s : Server) (i : ℕ) (sessionId : String) (command : Command)
    (readerName : String) : Option (Option (Option (Except String ℕ)) × Server) :=
  match s.lock with
  | some b => if b.task = i then s.enqueue b else none
  | none =>
    match s.shared.issue sessionId command readerName with
    | none => some (some none, s)
    | some (.error e) => some (some (some (.error e)), s)
    | some (.ok issued) =>
      { s with shared := issued.shared }.enqueue ⟨i, issued.request, issued.stream, issued.rx⟩

/-- The operation `recvResponse`: the value, the error that the sender is gone,
or, when there is neither, the timeout.  The receiver is gone afterwards. -/
def recvResponse (s : Server) (rx : ℕ) (outcome : Outcome) :
    Option (Except RecvFailure CommandResponse × Server) :=
  match s.shared.waiters[rx]? with
  | none => none
  | some w =>
    if w.oneshot.receiverAlive then
      let s := { s with shared := s.shared.dropReceiver rx }
      -- `timeout` polls the receiver first, so a response that is there wins
      match w.oneshot.poll, outcome with
      | some (.ok response), .proceed => some (.ok response, s)
      | some (.error ()), .proceed => some (.error .closed, s)
      | none, .fail _ => some (.error .elapsed, s)
      | _, _ => none
    else none

/-- The outcome of a write. -/
def writeAnswer : Outcome → Except String Unit
  | .proceed => .ok ()
  | .fail text => .error text

/-- One operation of the vpcd task `i` on its connection: the answer (`none`
when the task stays suspended), the connection and the server afterwards. -/
def perform (s : Server) (i : ℕ) (stream : TcpStream) (outcome : Outcome) :
    (o : VpcdOp) → Option (Option (VpcdRet o) × TcpStream × Server)
  | .readExact n => some (some (stream.readExact n).1, (stream.readExact n).2, s)
  | .writeAll _ => some (some (writeAnswer outcome), stream, s)
  | .flush => some (some (writeAnswer outcome), stream, s)
  | .received _ => some (some (), stream, s)
  | .sending _ => some (some (), stream, s)
  | .getSession sid =>
    if s.lock.isSome then none else some (some (s.shared.getSession sid), stream, s)
  | .sleep _ => some (some (), stream, s)
  | .sendCommand sid command readerName =>
    (s.sendCommand i sid command readerName).map fun r => (r.1, stream, r.2)
  | .recvResponse rx => (s.recvResponse rx outcome).map fun r => (some r.1, stream, r.2)

/-- Replace the vpcd task `i`. -/
def setTask (s : Server) (i : ℕ) (t : VpcdTask) : Server := { s with tasks := s.tasks.set i t }

/-- Add an operation of a vpcd task to the log. -/
def record (s : Server) (e : LogEntry) : Server := { s with log := s.log ++ [e] }

/-- One step of the vpcd task `i` on its connection: the next operation of the
current turn of the message loop, the next turn, or the return of `connect`. -/
def taskRun (s : Server) (i : ℕ) (t : VpcdTask) (outcome : Outcome) : Option Server :=
  match t.phase with
  | .connected stream (.op o k) =>
    match s.perform i stream outcome o with
    | none => none
    | some (none, _, s') => some s'
    | some (some answer, stream', s') =>
      some ((s'.setTask i { t with phase := .connected stream' (k answer) }).record
        ⟨i, t.connections, ⟨o, answer⟩⟩)
  | .connected stream (.pure (true, client)) =>
    some (s.setTask i
      { t with client := client, phase := .connected stream client.messageLoopBody })
  -- `connect` returns without an error, whichever way its loop ended
  | .connected _ (.pure (false, client)) =>
    some (s.setTask i { t with client := client, consecutiveErrors := 0, phase := .pausing 100 })
  | _ => none

/-- `TcpStream::connect` in `VpcdClient::connect`, and what follows its
failure. -/
def taskConnect (s : Server) (i : ℕ) (t : VpcdTask) : Except String TcpStream → Option Server
  | .ok stream =>
    match t.phase with
    | .connecting =>
      let client := { t.client with powered := true }
      some (s.setTask i { t with
        client := client
        connections := t.connections + 1
        phase := .connected stream client.messageLoopBody })
    | _ => none
  | .error _ =>
    match t.phase with
    | .connecting =>
      let errors := t.consecutiveErrors + 1
      some (s.setTask i { t with
        consecutiveErrors := errors
        phase := .pausing (min errors.toNat 5 * 1000) })
    | _ => none

/-- The end of the pause between two connections. -/
def taskWake (s : Server) (i : ℕ) (t : VpcdTask) : Option Server :=
  match t.phase with
  | .pausing _ => some (s.setTask i { t with phase := .connecting })
  | _ => none

end Server

/-! ## The steps -/

/-- The actions.  `removeSession` is offered by the session manager, but no
handler calls it (nor `cleanup_expired`, which removes one session after the
other). -/
inductive Action
  | tick (nanos : ℕ)
  | establishSession (id : String) (req : ConnectRequest)
  | updateReaderInfo (req : UpdateReaderInfoRequest)
  | heartbeat (sessionId : String)
  | removeSession (sessionId : String)
  | sendCommandResponse (response : CommandResponse)
  | commandChannel
  | streamNext (i : ℕ) (item : Option (Except String CommandResponse))
  | streamTurn (i : ℕ)
  | takeCommand (i : ℕ)
  | closeReceiver (i : ℕ)
  | startClient (k : ℕ)
  | taskConnect (i : ℕ) (outcome : Except String TcpStream)
  | taskRun (i : ℕ) (outcome : Server.Outcome)
  | taskWake (i : ℕ)

namespace Server

/-- Do something that needs the lock. -/
def locked (s : Server) (s' : Server) : Option Server := if s.lock.isSome then none else some s'

/-- One step of the server. -/
def step (svc : SmartcardService) (s : Server) : Action → Option Server
  | .tick nanos => some { s with now := s.now + nanos }
  | .establishSession id req =>
    if s.FreshId id then s.locked (s.establishSession id req) else none
  | .updateReaderInfo req => s.locked (s.updateReaderInfo svc req).2
  | .heartbeat sid => s.locked (s.heartbeat sid).2
  | .removeSession sid => s.locked { s with shared := s.shared.removeSession sid }
  | .sendCommandResponse response =>
    if response.commandId = 0 then some s else s.locked (s.sendCommandResponse response).2
  | .commandChannel => some s.commandChannel
  | .streamNext i item =>
    match s.streams[i]? with
    | some st =>
      match st.phase with
      | .waiting => some (s.setStream i (streamNext st item))
      | _ => none
    | none => none
  | .streamTurn i =>
    match s.streams[i]? with
    | some st => s.streamTurn i st
    | none => none
  | .takeCommand i =>
    match s.streams[i]? with
    | some st =>
      match st.queue.recv with
      | some (_, queue) => some (s.setStream i { st with queue := queue })
      | none => none
    | none => none
  | .closeReceiver i =>
    match s.streams[i]? with
    | some st => some (s.setStream i { st with queue := st.queue.close })
    | none => none
  | .startClient k =>
    match s.starting[k]? with
    | some start => some ({ s with starting := s.starting.eraseIdx k }.startClient start)
    | none => none
  | .taskConnect i outcome =>
    match s.tasks[i]? with
    | some t => s.taskConnect i t outcome
    | none => none
  | .taskRun i outcome =>
    match s.tasks[i]? with
    | some t => s.taskRun i t outcome
    | none => none
  | .taskWake i =>
    match s.tasks[i]? with
    | some t => s.taskWake i t
    | none => none

/-- The states the server can get into. -/
def Reachable (svc : SmartcardService) (s : Server) : Prop :=
  StepRun.Reaches (step svc) init s

end Server

end RemoteSmartcard
