/-
# A failed send

`send_command_async` stores the sender of the response before it hands the request to
the queue of the client, and the handing over can suspend the caller and can fail.
While it is suspended the caller holds the lock, so the session is the one it began
with, and the new entry.  When the queue has lost its receiver the call fails and the
entry stays; when there is no channel the call fails before anything is stored.
-/
import RemoteSmartcard.Receivers

namespace RemoteSmartcard

namespace Server

/-! ## The call -/

/-- The call of `send_command_async` that the vpcd task `i` begins in `s` is still
going on in `s₁`: it begins now, or the task was suspended in it and nobody has
released the lock since. -/
inductive Calling (svc : SmartcardService) (s : Server) (i : ℕ) : Server → Prop
  | begins : Calling svc s i s
  | suspended {outcome : Outcome} {s₁ : Server} (hstep : step svc s (.taskRun i outcome) = some s₁)
      (hheld : s₁.lock.isSome) : Calling svc s i s₁
  | waits {a : Action} {s₁ s₂ : Server} (h : Calling svc s i s₁) (hsuspended : s₁.lock.isSome)
      (hstep : step svc s₁ a = some s₂) (hheld : s₂.lock.isSome) : Calling svc s i s₂

/-- What is known while the task is suspended in the call: the lock is its own, and the
session table is the one that `issue` left. -/
def Suspended (s : Server) (i : ℕ) (sid : String) (command : Command) (readerName : String)
    (s₁ : Server) : Prop :=
  ∃ issued, s.shared.issue sid command readerName = some (.ok issued) ∧
    s₁.lock = some ⟨i, issued.request, issued.stream, issued.rx⟩ ∧
    s₁.shared.sessions = issued.shared.sessions

/-- The task is suspended when its command has been issued and the queue is full. -/
theorem Performed.suspended_of_lock {s s₁ : Server} {i : ℕ} {outcome : Outcome} {sid : String}
    {command : Command} {readerName : String}
    {answer : Option (VpcdRet (.sendCommand sid command readerName))}
    (h : Performed s i outcome (.sendCommand sid command readerName) answer s₁)
    (hfree : s.lock = none) (hheld : s₁.lock.isSome) : s.Suspended i sid command readerName s₁ := by
  cases h with
  | onConnection ho => exact ho.elim
  | notFound | notConnected =>
    rw [hfree] at hheld
    cases hheld
  | issued hlock hissue hhanded =>
    cases hhanded with
    | full => exact ⟨_, hissue, rfl, rfl⟩
    | closed | sent => cases hheld
  | resumed hlock =>
    rw [hfree] at hlock
    cases hlock

/-- A call that goes on has just begun or is suspended. -/
theorem Calling.begins_or_suspended {svc : SmartcardService} {s s₁ : Server} {i : ℕ}
    {sid : String} {command : Command} {readerName : String} (h : Calling svc s i s₁)
    (hfree : s.lock = none) (hop : s.nextOp i = some (.sendCommand sid command readerName)) :
    s₁ = s ∨ s.Suspended i sid command readerName s₁ := by
  induction h with
  | begins => exact Or.inl rfl
  | suspended hstep hheld =>
    right
    cases step_transition hstep with
    | suspend ht hp hperform hperformed =>
      rw [nextOp_eq_some ht hp] at hop
      cases hop
      exact hperformed.suspended_of_lock hfree hheld
    | answer ht hp hperform hperformed =>
      rw [nextOp_eq_some ht hp] at hop
      cases hop
      exact hperformed.suspended_of_lock hfree hheld
    | turn ht hp | disconnected ht hp =>
      rw [show (Server.setTask s i _).lock = none from hfree] at hheld
      cases hheld
  | @waits a s₁ s₂ _ hsuspended hstep hheld ih =>
    rcases ih with rfl | ⟨issued, hissue, hlock, hsessions⟩
    · rw [hfree] at hsuspended
      cases hsuspended
    · obtain ⟨b, hb⟩ := Option.isSome_iff_exists.mp hheld
      refine Or.inr ⟨issued, hissue, ?_⟩
      -- nobody else acts on the table
      rcases (step_transition hstep).holds hb with ⟨hlock', hsh⟩ | ⟨_, _, _, _, _, hnone, _⟩
      · obtain rfl := Option.some.inj (hlock.symm.trans hlock')
        refine ⟨hb, ?_⟩
        rcases hsh with hsh | ⟨rx, hsh⟩
        · rw [hsh, hsessions]
        · rw [hsh]
          exact hsessions
      · rw [hlock] at hnone
        cases hnone

/-! ## The return -/

/-- The queue of the session's channel, if it has one, still has its receiver. -/
def QueueOpen (s : Server) (sid : String) : Prop :=
  ∀ (j : ℕ) (st : CommandStream), s.shared.channelOf sid = some j → s.streams[j]? = some st →
    st.queue.receiverAlive = true

/-- The call that began in `s` and returned `result` in `s'` left the session as it was,
if it failed. -/
def LeavesSession (s s' : Server) (sid : String) (result : Except String ℕ) : Prop :=
  ∀ e, result = .error e → s'.shared.getSession sid = s.shared.getSession sid

/-- An issued command goes to the channel of its session. -/
theorem channelOf_issue {t : Shared} {sid : String} {command : Command} {readerName : String}
    {issued : Issued} (hi : t.issue sid command readerName = some (.ok issued)) :
    t.channelOf sid = some issued.stream ∧ issued.shared.channelOf sid = some issued.stream := by
  obtain ⟨session, channel, hs, hch, hst, -, -, -⟩ := Shared.issue_eq_ok hi
  have hchannel : t.channelOf sid = some issued.stream := by
    rw [Shared.channelOf, hs]
    simp [hch, hst]
  exact ⟨hchannel, (Shared.Traffic.issue hi).channelOf sid |>.1.trans hchannel⟩

/-- Issuing a command changes its session: there is an entry that was not there. -/
theorem getSession_issue_ne {t : Shared} (hc : t.Consistent) {sid : String} {command : Command}
    {readerName : String} {issued : Issued}
    (hi : t.issue sid command readerName = some (.ok issued)) :
    issued.shared.getSession sid ≠ t.getSession sid := by
  obtain ⟨session, channel, hs, hch, -, -, -, hshared⟩ := Shared.issue_eq_ok hi
  intro hsame
  rw [hshared, Shared.getSession_putSession t sid rfl, if_pos rfl] at hsame
  have hstored : t.Stored sid channel.commandTx t.commandIdCounter t.waiters.length :=
    ⟨_, _, hsame.symm, rfl, rfl, by simp⟩
  obtain ⟨w, hw, -⟩ := hc.pending _ _ _ _ hstored
  rw [List.getElem?_eq_none le_rfl] at hw
  cases hw

/-- The request is handed over after the command was issued in `s`: the session is left
as it was exactly when the queue has its receiver. -/
theorem Handed.leavesSession_iff {s s₁ s' : Server} {i : ℕ} {sid : String} {command : Command}
    {readerName : String} {issued : Issued} {result : Except String ℕ}
    (h : Handed s₁ ⟨i, issued.request, issued.stream, issued.rx⟩ (some (some result)) s')
    (hc : s.shared.Consistent) (hissue : s.shared.issue sid command readerName = some (.ok issued))
    (hsessions : s₁.shared.sessions = issued.shared.sessions) :
    s.LeavesSession s' sid result ↔ ∀ st : CommandStream,
      s₁.streams[issued.stream]? = some st → st.queue.receiverAlive = true := by
  have hchanged := getSession_issue_ne hc hissue
  cases h with
  | closed hst hclosed =>
    refine iff_of_false (fun hleaves => hchanged ?_) fun hopen => ?_
    · rw [← hleaves _ rfl]
      exact (congrArg (SessionManager.getSession · sid) hsessions).symm
    · rw [hopen _ hst] at hclosed
      cases hclosed
  | sent hst hq =>
    refine iff_of_true (fun e he => by cases he) fun st hst' => ?_
    obtain rfl := Option.some.inj (hst.symm.trans hst')
    exact (Mpsc.send_eq_sent hq).1

/-- A failure before anything is stored: the session has no channel. -/
theorem channelOf_of_issue_error {t : Shared} {sid : String} {command : Command}
    {readerName e : String} (hi : t.issue sid command readerName = some (.error e)) :
    t.channelOf sid = none := by
  unfold Shared.issue Session.sendCommandAsync at hi
  unfold Shared.channelOf
  cases hs : t.getSession sid with
  | none => rfl
  | some session =>
    cases hch : session.commandChannel with
    | none => simp [hch]
    | some channel => simp [hs, hch] at hi

/-- **A failed send leaves the session as it was** exactly when the session has no
channel, or its queue has not lost its receiver by the time the request is handed
over. -/
theorem Reachable.leavesSession_iff_queueOpen {svc : SmartcardService} {s s₁ s' : Server}
    (hs : s.Reachable svc) (hfree : s.lock = none) {i : ℕ} {sid : String} {command : Command}
    {readerName : String} (hop : s.nextOp i = some (.sendCommand sid command readerName))
    (hcall : Calling svc s i s₁) {result : Except String ℕ}
    (hreturn : s₁.sendCommand i sid command readerName = some (some (some result), s')) :
    s.LeavesSession s' sid result ↔ s₁.QueueOpen sid := by
  have hc := hs.sound.consistent
  have hperformed : Performed s₁ i .proceed (.sendCommand sid command readerName)
      (some (some result)) s' := sendCommand_performed hreturn
  have hopen : ∀ {issued : Issued}, s₁.shared.channelOf sid = some issued.stream →
      ((∀ st : CommandStream, s₁.streams[issued.stream]? = some st →
        st.queue.receiverAlive = true) ↔ s₁.QueueOpen sid) := by
    intro issued hchannel
    constructor
    · intro h j st hj hst
      rw [hchannel] at hj
      cases hj
      exact h st hst
    · intro h st hst
      exact h _ st hchannel hst
  rcases hcall.begins_or_suspended hfree hop with rfl | ⟨issued, hissue, hlock, hsessions⟩
  · cases hperformed with
    | onConnection ho => exact ho.elim
    | notConnected hlock hissue =>
      refine iff_of_true (fun _ _ => rfl) fun j st hchannel => ?_
      rw [channelOf_of_issue_error hissue] at hchannel
      cases hchannel
    | issued hlock hissue hhanded =>
      rw [hhanded.leavesSession_iff hc hissue rfl]
      exact hopen (channelOf_issue hissue).1
    | resumed hlock =>
      rw [hfree] at hlock
      cases hlock
  · cases hperformed with
    | onConnection ho => exact ho.elim
    | resumed hlock' htask hhanded =>
      obtain rfl := Option.some.inj (hlock.symm.trans hlock')
      rw [hhanded.leavesSession_iff hc hissue hsessions]
      refine hopen ?_
      rw [← (channelOf_issue hissue).2]
      unfold Shared.channelOf Shared.getSession
      rw [hsessions]
    | notConnected hnone | issued hnone =>
      rw [hlock] at hnone
      cases hnone

/-- An APDU has come from vpcd, and the task has seen the command channel; then `as`
happens before the task sends its command. -/
def beforeSendRun (as : List Action) : List Action :=
  [.establishSession "s" ⟨"client", "1"⟩, .updateReaderInfo ⟨"s", "r", [0x3B], true⟩,
    .startClient 0, .commandChannel, .streamNext 0 (some (.ok ⟨0, "s", true, "", none⟩)),
    .streamTurn 0, .taskConnect 0 (.ok ⟨[[0, 2, 0x00], [0xA4]], .unexpectedEof⟩)] ++
  List.replicate 4 (.taskRun 0 .proceed) ++ as

/-- The stream ends and the channel is cleared: the send fails and changes nothing. -/
theorem leavesSession_clearedChannel :
    ∃ s s' e, StepRun.run (step ⟨"127.0.0.1", 35963, true⟩) init
        (beforeSendRun [.streamNext 0 none, .streamTurn 0]) = some s ∧
      s.sendCommand 0 "s" (.apdu ⟨[0x00, 0xA4]⟩) "r" = some (some (some (.error e)), s') ∧
      s.LeavesSession s' "s" (.error e) := by
  have hstate : (StepRun.run (step ⟨"127.0.0.1", 35963, true⟩) init
      (beforeSendRun [.streamNext 0 none, .streamTurn 0])).map (fun s => (s.lock.isNone,
        s.nextOp 0, s.shared.channelOf "s")) =
      some (true, some (.sendCommand "s" (.apdu ⟨[0x00, 0xA4]⟩) "r"), none) := by decide
  have hanswer : (StepRun.run (step ⟨"127.0.0.1", 35963, true⟩) init
      (beforeSendRun [.streamNext 0 none, .streamTurn 0])).bind (fun s =>
        (s.sendCommand 0 "s" (.apdu ⟨[0x00, 0xA4]⟩) "r").map fun r => r.1) =
      some (some (some (.error "Client command channel not connected"))) := by decide
  obtain ⟨s, hs, hstate⟩ := Option.map_eq_some_iff.mp hstate
  obtain ⟨hfree, hop, hchannel⟩ := by simpa only [Prod.mk.injEq] using hstate
  rw [hs] at hanswer
  obtain ⟨⟨answer, s'⟩, hsend, rfl⟩ := Option.map_eq_some_iff.mp hanswer
  have hreach : s.Reachable ⟨"127.0.0.1", 35963, true⟩ := ⟨_, hs⟩
  refine ⟨s, s', _, hs, hsend, (hreach.leavesSession_iff_queueOpen (by simpa using hfree) hop
    .begins hsend).mpr fun j st hj _ => ?_⟩
  rw [hchannel] at hj
  cases hj

/-- A send on a stream that has stopped receiving fails, and its command stays
pending. -/
theorem not_leavesSession_closedReceiver :
    ∃ s s' e, StepRun.run (step ⟨"127.0.0.1", 35963, true⟩) init
        (beforeSendRun [.closeReceiver 0]) = some s ∧
      s.sendCommand 0 "s" (.apdu ⟨[0x00, 0xA4]⟩) "r" = some (some (some (.error e)), s') ∧
      ¬ s.LeavesSession s' "s" (.error e) := by
  have hstate : (StepRun.run (step ⟨"127.0.0.1", 35963, true⟩) init
      (beforeSendRun [.closeReceiver 0])).bind (fun s =>
        (s.sendCommand 0 "s" (.apdu ⟨[0x00, 0xA4]⟩) "r").map fun r => (r.1,
          ((s.shared.getSession "s").map fun session => session.pending.keys.card),
          ((r.2.shared.getSession "s").map fun session => session.pending.keys.card))) =
      some (some (some (.error "Failed to send command: channel closed")), some 0, some 1) := by
    decide
  obtain ⟨s, hs, hsend⟩ := Option.bind_eq_some_iff.mp hstate
  obtain ⟨⟨answer, s'⟩, hsend, hpending⟩ := Option.map_eq_some_iff.mp hsend
  obtain ⟨rfl, hbefore, hafter⟩ := by simpa only [Prod.mk.injEq] using hpending
  refine ⟨s, s', _, hs, hsend, fun hleaves => ?_⟩
  rw [hleaves _ rfl, hbefore] at hafter
  cases hafter

end Server

end RemoteSmartcard
