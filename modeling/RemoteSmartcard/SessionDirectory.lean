/-
# What the server knows of its sessions

A `Directory` says what the session table is for: for each session who has established it
and when, when it was last heard of, and the last report on each of its readers.  It is a
function, and three RPCs change it, besides the removal of a session, for which no RPC
calls.

The table of the server is this directory along every run (`directory_of_run`): the streams
and their responses, the commands and the vpcd tasks, which all go through the same table,
leave it alone, and the RPCs are answered from it.
-/
import RemoteSmartcard.SessionLifetime

namespace RemoteSmartcard

/-! ## The directory -/

/-- What is known of a session. -/
structure DirectoryEntry where
  clientId : String
  createdAt : ℕ
  lastActivity : ℕ
  readers : String → Option (Bytes × Bool)

/-- The sessions, by their ids. -/
abbrev Directory := String → Option DirectoryEntry

namespace Directory

/-- No session. -/
def empty : Directory := fun _ => none

/-- A session begins, without readers. -/
def establish (d : Directory) (id clientId : String) (now : ℕ) : Directory :=
  Function.update d id (some ⟨clientId, now, now, fun _ => none⟩)

/-- Change what is known of a session, if there is this session. -/
def modify (d : Directory) (id : String) (f : DirectoryEntry → DirectoryEntry) : Directory :=
  Function.update d id ((d id).map f)

/-- A session ends. -/
def remove (d : Directory) (id : String) : Directory := Function.update d id none

end Directory

/-- A report on a reader replaces the one before. -/
def DirectoryEntry.report (e : DirectoryEntry) (readerName : String) (atr : Bytes)
    (cardPresent : Bool) : DirectoryEntry :=
  { e with readers := Function.update e.readers readerName (some (atr, cardPresent)) }

/-- The session has been heard of. -/
def DirectoryEntry.touch (e : DirectoryEntry) (now : ℕ) : DirectoryEntry :=
  { e with lastActivity := now }

/-- The directory after an action that is taken at the time `now`. -/
def Directory.after (d : Directory) (now : ℕ) : Action → Directory
  | .establishSession id req => d.establish id req.clientId now
  | .updateReaderInfo req =>
    d.modify req.sessionId fun e => e.report req.readerName req.atr req.cardPresent
  | .heartbeat id => d.modify id fun e => e.touch now
  | .removeSession id => d.remove id
  | _ => d

/-! ## The directory of a table -/

/-- What a session of the table says, apart from its command channel. -/
def Session.entry (session : Session) : DirectoryEntry where
  clientId := session.clientId
  createdAt := session.createdAt
  lastActivity := session.lastActivity
  readers := fun readerName =>
    (session.readers.lookup readerName).map fun info => (info.atr, info.cardPresent)

/-- A new session has no readers, and has just been heard of. -/
theorem Session.entry_new (id : String) (now : ℕ) (clientId : String) :
    (Session.new id now clientId).entry = ⟨clientId, now, now, fun _ => none⟩ := by
  refine congrArg (DirectoryEntry.mk clientId now now) (funext fun readerName => ?_)
  show ((∅ : Finmap fun _ : String => ReaderInfo).lookup readerName).map _ = none
  rw [Finmap.lookup_empty, Option.map_none]

/-- A report on a reader at the session is the one of its entry. -/
theorem Session.entry_updateReader (session : Session) (readerName : String) (atr : Bytes)
    (cardPresent : Bool) : (session.updateReader readerName atr cardPresent).entry =
      session.entry.report readerName atr cardPresent := by
  have hreaders : (session.updateReader readerName atr cardPresent).entry.readers =
      (session.entry.report readerName atr cardPresent).readers := by
    funext name
    show ((session.readers.insert readerName ⟨readerName, atr, cardPresent⟩).lookup name).map _ =
      Function.update session.entry.readers readerName (some (atr, cardPresent)) name
    by_cases hname : name = readerName
    · subst hname
      rw [Finmap.lookup_insert, Function.update_self]
      rfl
    · rw [Finmap.lookup_insert_of_ne _ hname, Function.update_of_ne hname]
      rfl
  exact congrArg (DirectoryEntry.mk session.clientId session.createdAt session.lastActivity)
    hreaders

namespace Shared

/-- The directory of a table. -/
def directory (t : Shared) : Directory := fun sid => (t.getSession sid).map Session.entry

/-- The directory is one of the sessions alone. -/
theorem directory_congr {t t' : Shared} (h : t'.sessions = t.sessions) :
    t'.directory = t.directory := by
  unfold directory getSession
  rw [h]

/-- Putting a session back changes the entry at its id. -/
theorem directory_putSession (t : Shared) {t' : Shared} {id : String} {session : Session}
    (hm : t'.sessions = t.sessions.putSession id session) :
    t'.directory = Function.update t.directory id (some session.entry) := by
  funext sid
  show (t'.getSession sid).map _ = _
  rw [getSession_putSession t id hm, Function.update_apply]
  split_ifs <;> rfl

/-- A change of the command channel is not seen. -/
theorem directory_of_channel {t t' : Shared} {id : String} {session : Session}
    {channel : Option CommandChannel} (hs : t.getSession id = some session)
    (hm : t'.sessions = t.sessions.putSession id { session with commandChannel := channel }) :
    t'.directory = t.directory := by
  have hsame : some session.entry = t.directory id := by
    rw [directory, hs]
    rfl
  rw [directory_putSession t hm]
  show Function.update t.directory id (some session.entry) = _
  rw [hsame, Function.update_eq_self]

/-- A new session is established in the directory. -/
theorem directory_createSession (t : Shared) (id : String) (now : ℕ) (clientId : String) :
    (t.createSession id now clientId).directory = t.directory.establish id clientId now := by
  rw [Directory.establish, ← Session.entry_new id now clientId]
  exact directory_putSession t rfl

/-- A change of a session is the change of its entry, and nothing if there is no such
session. -/
theorem directory_updateSession (t : Shared) (id : String) {f : Session → Session}
    {g : DirectoryEntry → DirectoryEntry} (hf : ∀ session, (f session).entry = g session.entry) :
    (t.updateSession id f).directory = t.directory.modify id g := by
  unfold updateSession
  cases hs : t.getSession id with
  | none =>
    have hnone : t.directory id = none := by rw [directory, hs]; rfl
    rw [Directory.modify, hnone, Option.map_none, ← hnone, Function.update_eq_self]
  | some session =>
    have hsome : t.directory id = some session.entry := by rw [directory, hs]; rfl
    rw [Directory.modify, hsome, Option.map_some, ← hf session]
    exact directory_putSession t rfl

/-- A removed session leaves the directory. -/
theorem directory_removeSession (t : Shared) (id : String) :
    (t.removeSession id).directory = t.directory.remove id := by
  funext sid
  show ((t.removeSession id).getSession sid).map _ = _
  rw [getSession_removeSession, Directory.remove, Function.update_apply]
  split_ifs <;> rfl

/-- The directory does not see a registration. -/
theorem directory_setCommandChannel (t : Shared) (id : String) (tx : ℕ) :
    (t.setCommandChannel id tx).directory = t.directory := by
  unfold setCommandChannel
  cases hs : t.getSession id with
  | none => rfl
  | some session => exact directory_of_channel hs rfl

/-- It does not see a clean-up either. -/
theorem directory_clearCommandChannel (t : Shared) (id : String) :
    (t.clearCommandChannel id).directory = t.directory := by
  unfold clearCommandChannel
  cases hs : t.getSession id with
  | none => rfl
  | some session => exact directory_of_channel hs rfl

/-- Nor a response, which changes the pending map of a channel. -/
theorem directory_handleResponse (t : Shared) (id : String) (response : CommandResponse) :
    (t.handleResponse id response).2.directory = t.directory := by
  rcases handleResponse_cases t id response with
    heq | heq | ⟨session, channel, tx, hs, -, -, heq⟩
  · rw [heq]
  · rw [heq]
    exact directory_congr rfl
  · rw [heq]
    exact directory_of_channel hs rfl

/-- Nor a command that is issued. -/
theorem directory_issue {t : Shared} {id : String} {command : Command} {readerName : String}
    {issued : Issued} (hi : t.issue id command readerName = some (.ok issued)) :
    issued.shared.directory = t.directory := by
  obtain ⟨session, channel, hs, -, -, -, -, hshared⟩ := issue_eq_ok hi
  rw [hshared]
  exact directory_of_channel hs rfl

end Shared

/-! ## The directory along a run -/

namespace Server

/-- Handing a command over does not concern the directory. -/
theorem Handed.directory {s s' : Server} {b : BlockedSend}
    {answer : Option (Option (Except String ℕ))} (h : Handed s b answer s') :
    s'.shared.directory = s.shared.directory := by
  cases h with
  | closed => exact Shared.directory_congr rfl
  | _ => rfl

/-- No operation of a vpcd task does. -/
theorem Performed.directory {s s' : Server} {i : ℕ} {outcome : Outcome} {o : VpcdOp}
    {answer : Option (VpcdRet o)} (h : Performed s i outcome o answer s') :
    s'.shared.directory = s.shared.directory := by
  cases h with
  | issued hlock hissue h => exact h.directory.trans (Shared.directory_issue hissue)
  | resumed hlock htask h => exact h.directory
  | response | released | elapsed => exact Shared.directory_congr rfl
  | _ => rfl

/-- **One step** changes the table as it changes the directory. -/
theorem Transition.directory {svc : SmartcardService} {s s' : Server} {a : Action}
    (h : Transition svc s a s') : s'.shared.directory = s.shared.directory.after s.now a := by
  cases h with
  | establish hlock hfresh => exact Shared.directory_createSession ..
  | @unknownReport req hlock hs =>
    have hnone : s.shared.directory req.sessionId = none := by rw [Shared.directory, hs]; rfl
    rw [Directory.after, Directory.modify, hnone, Option.map_none, ← hnone,
      Function.update_eq_self]
  | report hlock hs =>
    exact Shared.directory_updateSession _ _ fun session => session.entry_updateReader ..
  | heartbeat hlock => exact Shared.directory_updateSession _ _ fun session => rfl
  | remove hlock => exact Shared.directory_removeSession ..
  | handle hlock hid => exact Shared.directory_handleResponse ..
  | register hlock hi hp hs => exact Shared.directory_setCommandChannel ..
  | respond hlock hi hp hsid => exact Shared.directory_handleResponse ..
  | cleanup hlock hi hp hsid => exact Shared.directory_clearCommandChannel ..
  | suspend ht hp hperform h => exact h.directory
  | answer ht hp hperform h => exact h.directory
  | _ => rfl

/-- The directory that the actions of a run lead to. -/
def directoryOf (svc : SmartcardService) (as : List Action) : Directory :=
  StepRun.record (step svc) (fun s a d => d.after s.now a) init as .empty

/-! ## The RPCs -/

/-- The readers of an entry as `list_readers` shows them: each one once. -/
def Lists (e : DirectoryEntry) (response : ListReadersResponse) : Prop :=
  (response.readers.map (·.name)).Nodup ∧ ∀ reader : Reader, reader ∈ response.readers ↔
    ∃ atr cardPresent, e.readers reader.name = some (atr, cardPresent) ∧
      reader = ⟨reader.name, atr, cardPresent, 0, "", ""⟩

/-- The RPCs of a session are answered from what the directory says of it. -/
inductive AnswersFrom (svc : SmartcardService) (s : Server) (sid : String) :
    Option DirectoryEntry → Prop
  | unknown (hheartbeat : (s.heartbeat sid).1 = false)
      (hlist : s.listReaders ⟨sid⟩ = .error (.notFound "Session not found"))
      (hreport : ∀ req, req.sessionId = sid →
        (s.updateReaderInfo svc req).1 = .error (.notFound "Session not found"))
      (htransmit : ∀ req, req.sessionId = sid →
        s.transmit req = .error (.notFound "Session not found")) :
      AnswersFrom svc s sid none
  | known {e : DirectoryEntry} {response : ListReadersResponse}
      (hheartbeat : (s.heartbeat sid).1 = true)
      (hlist : s.listReaders ⟨sid⟩ = .ok response) (hlists : Lists e response)
      (hreport : ∀ req, req.sessionId = sid → (s.updateReaderInfo svc req).1 =
        .ok ⟨true, s!"Virtual PCD ({req.readerName})"⟩)
      (htransmit : ∀ req, req.sessionId = sid →
        s.transmit req = .ok ⟨[], 0x6D, 0x00, [0x6D, 0x00]⟩) :
      AnswersFrom svc s sid (some e)

/-- `list_readers` shows the readers of a session. -/
theorem lists_entry (session : Session) : Lists session.entry
    ⟨session.readers.entries.map fun e => ⟨e.1, e.2.atr, e.2.cardPresent, 0, "", ""⟩⟩ := by
  constructor
  · show ((session.readers.entries.map _).map _).Nodup
    rw [Multiset.map_map]
    exact Multiset.nodup_keys.mpr session.readers.nodupKeys
  · intro reader
    show reader ∈ session.readers.entries.map _ ↔ _
    rw [Multiset.mem_map]
    constructor
    · rintro ⟨⟨name, info⟩, hmem, rfl⟩
      have hlookup : session.readers.lookup name = some info :=
        Option.mem_def.mp (Finmap.mem_lookup_iff.mpr hmem)
      exact ⟨info.atr, info.cardPresent, by simp [Session.entry, hlookup], rfl⟩
    · rintro ⟨atr, cardPresent, hentry, hreader⟩
      obtain ⟨info, hlookup, hinfo⟩ := Option.map_eq_some_iff.mp hentry
      obtain ⟨rfl, rfl⟩ := Prod.mk.inj hinfo
      exact ⟨⟨reader.name, info⟩, Finmap.mem_lookup_iff.mp (Option.mem_def.mpr hlookup),
        hreader.symm⟩

/-- In any state the RPCs are answered from the entry of their session. -/
theorem answersFrom_directory (svc : SmartcardService) (s : Server) (sid : String) :
    s.AnswersFrom svc sid (s.shared.directory sid) := by
  unfold Shared.directory
  cases hs : s.shared.getSession sid with
  | none =>
    have hrefused := refused_of_getSession svc hs
    exact .unknown (congrArg Prod.fst hrefused.heartbeat) hrefused.listReaders
      (fun req hreq => congrArg Prod.fst (hrefused.updateReaderInfo req hreq)) hrefused.transmit
  | some session =>
    have haccepted := accepted_of_getSession svc hs
    exact .known haccepted.heartbeat (by simp [listReaders, hs]) (lists_entry session)
      haccepted.updateReaderInfo haccepted.transmit

/-- **The refinement** along every run. -/
theorem directory_eq_of_run {svc : SmartcardService} {as : List Action} {s : Server}
    (hrun : StepRun.run (step svc) init as = some s) :
    s.shared.directory = directoryOf svc as :=
  StepRun.invariant_record (P := fun s d => s.shared.directory = d)
    (fun s a s' d hd hstep => by rw [(step_transition hstep).directory, hd]) rfl hrun

/-- **The session table is the directory.**  In every run of the server, whatever the
streams, the responses and the vpcd tasks do with the same table: the table says what the
directory of the three RPCs and the removal says, and each RPC for a session is answered
from it; in particular `list_readers` shows every reader of the session once, as it was
last reported. -/
theorem directory_of_run {svc : SmartcardService} {as : List Action} {s : Server}
    (hrun : StepRun.run (step svc) init as = some s) (sid : String) :
    s.shared.directory sid = directoryOf svc as sid ∧
      s.AnswersFrom svc sid (directoryOf svc as sid) := by
  rw [← directory_eq_of_run hrun]
  exact ⟨rfl, answersFrom_directory svc s sid⟩

/-- A client connects, reports its card and answers an APDU of vpcd on its command
channel, and reports after 7 ns that the card is gone. -/
def reportedRun : List Action :=
  [.establishSession "s" ⟨"client", "1"⟩, .updateReaderInfo ⟨"s", "r", [0x3B], true⟩,
    .startClient 0, .commandChannel, .streamNext 0 (some (.ok ⟨0, "s", true, "", none⟩)),
    .streamTurn 0, .taskConnect 0 (.ok ⟨[[0, 2, 0x00], [0xA4]], .unexpectedEof⟩)] ++
  List.replicate 5 (.taskRun 0 .proceed) ++
  [.takeCommand 0, .streamNext 0 (some (.ok ⟨1, "s", true, "", some (.apdu ⟨[], 0x90, 0x00⟩)⟩)),
    .streamTurn 0, .taskRun 0 .proceed, .taskRun 0 .proceed,
    .tick 7, .updateReaderInfo ⟨"s", "r", [], false⟩, .heartbeat "s"]

/-- The directory of `reportedRun` has the last report and the time of the heartbeat, and
nothing of the APDU. -/
theorem directory_of_run_reported :
    ∃ s, StepRun.run (step ⟨"127.0.0.1", 35963, true⟩) init reportedRun = some s ∧
      s.AnswersFrom ⟨"127.0.0.1", 35963, true⟩ "s"
        (directoryOf ⟨"127.0.0.1", 35963, true⟩ reportedRun "s") ∧
      (directoryOf ⟨"127.0.0.1", 35963, true⟩ reportedRun "s").map
        (fun e => (e.clientId, e.createdAt, e.lastActivity, e.readers "r")) =
        some ("client", 0, 7, some ([], false)) := by
  have hrun : (StepRun.run (step ⟨"127.0.0.1", 35963, true⟩) init reportedRun).isSome := by
    decide
  obtain ⟨s, hs⟩ := Option.isSome_iff_exists.mp hrun
  exact ⟨s, hs, (directory_of_run hs "s").2, rfl⟩

end Server

end RemoteSmartcard
