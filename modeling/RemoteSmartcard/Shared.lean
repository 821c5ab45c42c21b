/-
# The shared state of the server

The session table (behind the `RwLock`), the global command id counter and the
heap of oneshot channels.  A handle in a pending map is an index into
`waiters`.  Each entry of the heap also records, for the statements below, the
session and the request the channel was created for and the queue the request
was handed to; `handled` is the history of the calls of `handle_response` on
sessions of the table.  No operation reads these records.
-/
import Mathlib.Data.Finmap
import RemoteSmartcard.AsyncChannel
import RemoteSmartcard.SessionManager

namespace RemoteSmartcard

/-- One issued command with the oneshot channel of its waiter. -/
structure Waiter where
  sessionId : String
  request : CommandRequest
  stream : ℕ
  oneshot : Oneshot CommandResponse

/-- The shared state. -/
structure Shared where
  sessions : SessionManager
  commandIdCounter : UInt64
  waiters : List Waiter
  handled : List (String × CommandResponse)

/-- `tx` is one of the senders of a pending map. -/
def PendingMap.Holds (pending : PendingMap) (tx : ℕ) : Prop :=
  tx ∈ pending.entries.map fun e => (e.2 : ℕ)

instance (pending : PendingMap) (tx : ℕ) : Decidable (pending.Holds tx) :=
  inferInstanceAs (Decidable (tx ∈ pending.entries.map fun e => (e.2 : ℕ)))

theorem PendingMap.holds_iff {pending : PendingMap} {tx : ℕ} :
    pending.Holds tx ↔ ∃ c, pending.lookup c = some tx := by
  unfold Holds
  rw [Multiset.mem_map]
  constructor
  · rintro ⟨⟨c, tx⟩, he, rfl⟩
    exact ⟨c, Option.mem_def.mp (Finmap.mem_lookup_iff.mpr he)⟩
  · rintro ⟨c, hc⟩
    exact ⟨⟨c, tx⟩, Finmap.mem_lookup_iff.mp (Option.mem_def.mpr hc), rfl⟩

namespace Waiter

/-- The waiter of a command just issued. -/
def new (sessionId : String) (request : CommandRequest) (stream : ℕ) : Waiter :=
  ⟨sessionId, request, stream, Oneshot.new⟩

/-- Apply a change to the oneshot channel. -/
def mapOneshot (f : Oneshot CommandResponse → Oneshot CommandResponse) (w : Waiter) : Waiter :=
  { w with oneshot := f w.oneshot }

end Waiter

/-- Drop all senders of a pending map. -/
def closeSenders (pending : PendingMap) (waiters : List Waiter) : List Waiter :=
  waiters.mapIdx fun tx w =>
    if pending.Holds tx then w.mapOneshot Oneshot.dropSender else w

/-- Drop one sender, if there is one. -/
def closeSender (tx : Option ℕ) (waiters : List Waiter) : List Waiter :=
  match tx with
  | some tx => waiters.modify tx (Waiter.mapOneshot Oneshot.dropSender)
  | none => waiters

/-- What `send_command_async` has prepared when it hands the request over. -/
structure Issued where
  shared : Shared
  request : CommandRequest
  stream : ℕ
  rx : ℕ

namespace Shared

/-- The state at start-up; the first command id is 1. -/
def init : Shared := ⟨SessionManager.new, 1, [], []⟩

/-- The session stored under an id. -/
def getSession (t : Shared) (sessionId : String) : Option Session :=
  t.sessions.getSession sessionId

/-- Insert a new session. -/
def createSession (t : Shared) (id : String) (now : ℕ) (clientId : String) : Shared :=
  { t with sessions := t.sessions.createSession id now clientId }

/-- Update a session through `get_session_mut`, where its channel is not
touched. -/
def updateSession (t : Shared) (sessionId : String) (f : Session → Session) : Shared :=
  match t.getSession sessionId with
  | some session => { t with sessions := t.sessions.putSession sessionId (f session) }
  | none => t

/-- `set_command_channel` on a session of the table; the senders of the channel
it replaces are dropped. -/
def setCommandChannel (t : Shared) (sessionId : String) (tx : ℕ) : Shared :=
  match t.getSession sessionId with
  | some session =>
    { t with
      sessions := t.sessions.putSession sessionId (session.setCommandChannel tx)
      waiters := closeSenders session.pending t.waiters }
  | none => t

/-- `clear_command_channel` on a session of the table. -/
def clearCommandChannel (t : Shared) (sessionId : String) : Shared :=
  match t.getSession sessionId with
  | some session =>
    { t with
      sessions := t.sessions.putSession sessionId session.clearCommandChannel
      waiters := closeSenders session.pending t.waiters }
  | none => t

/-- `remove_session`; the removed session is dropped. -/
def removeSession (t : Shared) (sessionId : String) : Shared :=
  match t.sessions.removeSession sessionId with
  | (some session, sessions) =>
    { t with sessions := sessions, waiters := closeSenders session.pending t.waiters }
  | (none, sessions) => { t with sessions := sessions }

/-- `get_session_mut` and `send_command_async` up to the handing over of the
request; `none` when the session is not in the table.  `HashMap::insert` drops
the sender it replaces. -/
def issue (t : Shared) (sessionId : String) (command : Command) (readerName : String) :
    Option (Except String Issued) :=
  match t.getSession sessionId with
  | none => none
  | some session =>
    match session.sendCommandAsync t.commandIdCounter t.waiters.length command readerName with
    | .error e => some (.error e)
    | .ok (session', request, stream) =>
      some (.ok {
        shared := { t with
          sessions := t.sessions.putSession sessionId session'
          commandIdCounter := (nextCommandId t.commandIdCounter).2
          waiters := closeSender (session.pending.lookup request.commandId) t.waiters ++
            [Waiter.new sessionId request stream] }
        request := request
        stream := stream
        rx := t.waiters.length })

/-- `get_session_mut` and `handle_response`; `none` when the session is not in
the table.  That the receiver may be gone does not change the result. -/
def handleResponse (t : Shared) (sessionId : String) (response : CommandResponse) :
    Option (Except String Unit) × Shared :=
  match t.getSession sessionId with
  | none => (none, t)
  | some session =>
    let t := { t with handled := (sessionId, response) :: t.handled }
    match session.handleResponse response with
    | .error e => (some (.error e), t)
    | .ok (session', tx) =>
      (some (.ok ()),
        { t with
          sessions := t.sessions.putSession sessionId session'
          waiters := t.waiters.modify tx (Waiter.mapOneshot fun c => (c.send response).2) })

/-- The receiver `rx` goes out of scope. -/
def dropReceiver (t : Shared) (rx : ℕ) : Shared :=
  { t with waiters := t.waiters.modify rx (Waiter.mapOneshot Oneshot.dropReceiver) }

end Shared

end RemoteSmartcard
