/-
# Sessions and the session table (`server/src/session_manager.rs`)

`Session` and `SessionManager` with their methods.  Rust's `&mut self` is state
passing; a value that goes out of scope is visible where it matters: the
senders of the pending commands are handles into the heap of oneshot channels
(`Shared.lean`), and the methods that drop a `CommandChannel` leave it to their
caller to close the senders it held.

Instants are nanoseconds on the server's monotonic clock.
-/
import Mathlib.Data.Finmap
import RemoteSmartcard.Protocol

namespace RemoteSmartcard

/-- `next_command_id`: `fetch_add(1)` on the global counter, which wraps. -/
def nextCommandId (counter : UInt64) : UInt64 × UInt64 := (counter, counter + 1)

/-- `ReaderInfo`: what a session knows about one reader. -/
structure ReaderInfo where
  name : String
  atr : Bytes
  cardPresent : Bool
  deriving DecidableEq

/-- The pending map: command id to the handle of the waiter's oneshot sender. -/
abbrev PendingMap := Finmap fun _ : UInt64 => ℕ

/-- `CommandChannel`: the handle of the queue towards the client, and the
commands waiting for a response. -/
structure CommandChannel where
  commandTx : ℕ
  pending : PendingMap

/-- `Session`. -/
structure Session where
  id : String
  clientId : String
  createdAt : ℕ
  lastActivity : ℕ
  readers : Finmap fun _ : String => ReaderInfo
  commandChannel : Option CommandChannel

namespace Session

/-- `Session::new`, with the fresh UUID and the instant it reads. -/
def new (id : String) (now : ℕ) (clientId : String) : Session where
  id := id
  clientId := clientId
  createdAt := now
  lastActivity := now
  readers := ∅
  commandChannel := none

/-- `Session::touch`. -/
def touch (s : Session) (now : ℕ) : Session := { s with lastActivity := now }

/-- `Session::is_expired`: whole seconds since the last activity. -/
def isExpired (s : Session) (now : ℕ) (timeoutSecs : ℕ) : Bool :=
  timeoutSecs < (now - s.lastActivity) / 1000000000

/-- `Session::update_reader`. -/
def updateReader (s : Session) (name : String) (atr : Bytes) (cardPresent : Bool) : Session :=
  { s with readers := s.readers.insert name ⟨name, atr, cardPresent⟩ }

/-- `Session::set_command_channel`: a new channel with nothing pending; the one
that was there is dropped. -/
def setCommandChannel (s : Session) (tx : ℕ) : Session :=
  { s with commandChannel := some ⟨tx, ∅⟩ }

/-- `Session::clear_command_channel`. -/
def clearCommandChannel (s : Session) : Session := { s with commandChannel := none }

/-- The pending map of the session's channel; empty when there is no channel. -/
def pending (s : Session) : PendingMap := (s.commandChannel.map (·.pending)).getD ∅

/-- `Session::send_command_async` up to the point where it hands the request to
the queue: the session with the sender `rx` stored, the request, and the queue
it goes to. -/
def sendCommandAsync (s : Session) (counter : UInt64) (rx : ℕ) (command : Command)
    (readerName : String) : Except String (Session × CommandRequest × ℕ) :=
  match s.commandChannel with
  | none => .error "Client command channel not connected"
  | some channel =>
    let commandId := (nextCommandId counter).1
    let channel' := { channel with pending := channel.pending.insert commandId rx }
    .ok ({ s with commandChannel := some channel' },
      ⟨commandId, some command, readerName⟩, channel.commandTx)

/-- `Session::handle_response` up to the send on the oneshot channel: the
session without the entry, and the sender that was stored. -/
def handleResponse (s : Session) (response : CommandResponse) : Except String (Session × ℕ) :=
  match s.commandChannel with
  | none => .error "No command channel"
  | some channel =>
    match channel.pending.lookup response.commandId with
    | some tx =>
      let channel' := { channel with pending := channel.pending.erase response.commandId }
      .ok ({ s with commandChannel := some channel' }, tx)
    | none => .error s!"Unknown command ID: {response.commandId}"

end Session

/-- `SessionManager`. -/
structure SessionManager where
  sessions : Finmap fun _ : String => Session
  sessionTimeoutSecs : ℕ

namespace SessionManager

/-- `SessionManager::new`: no session, five minutes timeout. -/
def new : SessionManager := ⟨∅, 300⟩

/-- `SessionManager::create_session` with the UUID and the instant it reads. -/
def createSession (m : SessionManager) (id : String) (now : ℕ) (clientId : String) :
    SessionManager :=
  { m with sessions := m.sessions.insert id (Session.new id now clientId) }

/-- `SessionManager::get_session` (and `get_session_mut`). -/
def getSession (m : SessionManager) (sessionId : String) : Option Session :=
  m.sessions.lookup sessionId

/-- Write back a session reached through `get_session_mut`. -/
def putSession (m : SessionManager) (sessionId : String) (s : Session) : SessionManager :=
  { m with sessions := m.sessions.insert sessionId s }

/-- `SessionManager::touch_session`. -/
def touchSession (m : SessionManager) (sessionId : String) (now : ℕ) : Bool × SessionManager :=
  match m.getSession sessionId with
  | some session => (true, m.putSession sessionId (session.touch now))
  | none => (false, m)

/-- `SessionManager::remove_session`. -/
def removeSession (m : SessionManager) (sessionId : String) : Option Session × SessionManager :=
  (m.getSession sessionId, { m with sessions := m.sessions.erase sessionId })

/-- `SessionManager::cleanup_expired`.  `examined` is the order in which the iteration
over the map meets the sessions, each with the instant its `is_expired` reads. -/
def cleanupExpired (m : SessionManager) (examined : List (String × ℕ)) :
    List String × SessionManager :=
  let expired := (examined.filter fun e =>
    (m.getSession e.1).any fun session => session.isExpired e.2 m.sessionTimeoutSecs).map (·.1)
  (expired, expired.foldl (fun m id => (m.removeSession id).2) m)

@[simp] theorem getSession_new (id : String) : new.getSession id = none := by
  simp [getSession, new]

/-- Putting a session back changes the table at its id alone. -/
theorem getSession_putSession (m : SessionManager) (id id' : String) (s : Session) :
    (m.putSession id s).getSession id' = if id' = id then some s else m.getSession id' := by
  unfold getSession putSession
  by_cases h : id' = id
  · subst h
    simp
  · simp [Finmap.lookup_insert_of_ne _ h, h]

/-- Removing a session takes it out, and leaves the others. -/
theorem getSession_removeSession (m : SessionManager) (id id' : String) :
    (m.removeSession id).2.getSession id' = if id' = id then none else m.getSession id' := by
  unfold getSession removeSession
  by_cases h : id' = id
  · subst h
    simp
  · simp [Finmap.lookup_erase_ne h, h]

end SessionManager

end RemoteSmartcard
