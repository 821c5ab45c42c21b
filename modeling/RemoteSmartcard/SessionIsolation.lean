/-
# Sessions do not touch each other

An event concerns a session when it names the session (an RPC), when it happens on
a stream whose first message named it, or when it is a step of a vpcd task started
for it.  The session table, the senders and receivers of the commands, and the
streams of every other session are the same before and after (`Isolated`), whether
or not the session named exists.
-/
import RemoteSmartcard.ClosedSession

namespace RemoteSmartcard

open VpcdOp
open Program hiding pure

namespace Shared

/-! ## The operations on the shared state -/

/-- Nothing of the session `sid` differs between `t` and `t'`: its entry in the
table, and its commands with the two halves of their channels. -/
structure Untouched (t t' : Shared) (sid : String) : Prop where
  session : t'.getSession sid = t.getSession sid
  waiters : ∀ (rx : ℕ) (w : Waiter), w.sessionId = sid →
    (t'.waiters[rx]? = some w ↔ t.waiters[rx]? = some w)

theorem Untouched.refl (t : Shared) (sid : String) : t.Untouched t sid :=
  ⟨rfl, fun _ _ _ => Iff.rfl⟩

/-- Two steps that do not touch the session. -/
theorem Untouched.trans {t t' t'' : Shared} {sid : String} (h : t.Untouched t' sid)
    (h' : t'.Untouched t'' sid) : t.Untouched t'' sid where
  session := h'.session.trans h.session
  waiters := fun rx w hw => (h'.waiters rx w hw).trans (h.waiters rx w hw)

/-- The channels are changed one by one, those of the session not at all. -/
theorem Untouched.of_map {t t' : Shared} {sid : String}
    (hsession : t'.getSession sid = t.getSession sid)
    (f : ℕ → Oneshot CommandResponse → Oneshot CommandResponse)
    (hwaiters : ∀ rx, t'.waiters[rx]? = t.waiters[rx]?.map (Waiter.mapOneshot (f rx)))
    (hf : ∀ (rx : ℕ) (w : Waiter), t.waiters[rx]? = some w → w.sessionId = sid → f rx = id) :
    t.Untouched t' sid where
  session := hsession
  waiters := by
    rintro rx w rfl
    rw [hwaiters, Option.map_eq_some_iff]
    constructor
    · rintro ⟨w₀, hw₀, rfl⟩
      rw [hf rx w₀ hw₀ rfl]
      exact hw₀
    · intro hw
      exact ⟨w, hw, by rw [hf rx w hw rfl]; rfl⟩

/-- Another session is written back. -/
theorem getSession_putSession_of_ne (t : Shared) {t' : Shared} {named sid : String}
    {session : Session} (hm : t'.sessions = t.sessions.putSession named session)
    (hne : sid ≠ named) : t'.getSession sid = t.getSession sid := by
  rw [getSession_putSession t named hm, if_neg hne]

/-- Creating one session does not touch another. -/
theorem untouched_createSession (t : Shared) {named sid : String} (now : ℕ) (clientId : String)
    (hne : sid ≠ named) : t.Untouched (t.createSession named now clientId) sid :=
  ⟨getSession_putSession_of_ne t rfl hne, fun _ _ _ => Iff.rfl⟩

/-- Nor does a change of it. -/
theorem untouched_updateSession (t : Shared) {named sid : String} (f : Session → Session)
    (hne : sid ≠ named) : t.Untouched (t.updateSession named f) sid := by
  unfold updateSession
  split
  · exact ⟨getSession_putSession_of_ne t rfl hne, fun _ _ _ => Iff.rfl⟩
  · exact .refl t sid

/-- The senders of another session are dropped. -/
theorem Untouched.of_closeSenders {t t' : Shared} (hc : t.Consistent) {named sid : String}
    {session : Session} (hs : t.getSession named = some session)
    (hsession : t'.getSession sid = t.getSession sid)
    (hwaiters : t'.waiters = closeSenders session.pending t.waiters) (hne : sid ≠ named) :
    t.Untouched t' sid := by
  refine .of_map hsession (fun rx => if session.pending.Holds rx then Oneshot.dropSender else id)
    (fun rx => by rw [hwaiters, getElem?_closeSenders]) ?_
  rintro rx w hw rfl
  rw [if_neg]
  intro hholds
  -- a sender in the pending map belongs to a command of that session
  obtain ⟨st, c, hst⟩ := (holds_pending_iff hs).mp hholds
  obtain ⟨w', hw', hsid, -⟩ := hc.pending _ _ _ _ hst
  obtain rfl := Option.some.inj (hw.symm.trans hw')
  exact hne hsid

/-- A registration for one session does not touch another. -/
theorem untouched_setCommandChannel {t : Shared} (hc : t.Consistent) {named sid : String} (tx : ℕ)
    (hne : sid ≠ named) : t.Untouched (t.setCommandChannel named tx) sid := by
  unfold setCommandChannel
  cases hs : t.getSession named with
  | none => exact .refl t sid
  | some session => exact .of_closeSenders hc hs (getSession_putSession_of_ne t rfl hne) rfl hne

/-- Nor does a clean-up for it. -/
theorem untouched_clearCommandChannel {t : Shared} (hc : t.Consistent) {named sid : String}
    (hne : sid ≠ named) : t.Untouched (t.clearCommandChannel named) sid := by
  unfold clearCommandChannel
  cases hs : t.getSession named with
  | none => exact .refl t sid
  | some session => exact .of_closeSenders hc hs (getSession_putSession_of_ne t rfl hne) rfl hne

/-- Nor does its removal. -/
theorem untouched_removeSession {t : Shared} (hc : t.Consistent) {named sid : String}
    (hne : sid ≠ named) : t.Untouched (t.removeSession named) sid := by
  have hsession : (t.removeSession named).getSession sid = t.getSession sid := by
    rw [getSession_removeSession, if_neg hne]
  cases hs : t.getSession named with
  | none =>
    refine ⟨hsession, fun rx w _ => ?_⟩
    rw [removeSession_of_none hs]
  | some session =>
    refine .of_closeSenders hc hs hsession ?_ hne
    rw [removeSession_of_some hs]

/-- Nor does a response for it, which goes to a waiter of its own. -/
theorem untouched_handleResponse {t : Shared} (hc : t.Consistent) {named sid : String}
    (response : CommandResponse) (hne : sid ≠ named) :
    t.Untouched (t.handleResponse named response).2 sid := by
  rcases handleResponse_cases t named response with
    heq | heq | ⟨session, channel, tx, hs, hch, hl, heq⟩
  · rw [heq]
    exact .refl t sid
  · rw [heq]
    exact ⟨rfl, fun _ _ _ => Iff.rfl⟩
  · rw [heq]
    refine .of_map (getSession_putSession_of_ne t rfl hne) _
      (fun rx => getElem?_modifyOneshot ..) ?_
    rintro rx w hw rfl
    rw [if_neg]
    rintro rfl
    obtain ⟨w', hw', hsid, -⟩ := hc.pending named _ _ tx ⟨session, channel, hs, hch, rfl, hl⟩
    obtain rfl := Option.some.inj (hw.symm.trans hw')
    exact hne hsid

/-- Nor does a command issued for it. -/
theorem untouched_issue {t : Shared} (hc : t.Consistent) {named sid : String} {command : Command}
    {readerName : String} {issued : Issued}
    (hi : t.issue named command readerName = some (.ok issued)) (hne : sid ≠ named) :
    t.Untouched issued.shared sid := by
  obtain ⟨session, channel, hs, hch, -, -, -, hshared⟩ := issue_eq_ok hi
  have hclosed : t.Untouched { t with
      waiters := closeSender (channel.pending.lookup t.commandIdCounter) t.waiters } sid := by
    refine .of_map rfl _ (fun rx => getElem?_closeSender ..) ?_
    rintro rx w hw rfl
    rw [if_neg]
    intro hl
    -- the sender that the new one replaces is of the same session
    obtain ⟨w', hw', hsid, -⟩ := hc.pending named _ _ rx ⟨session, channel, hs, hch, rfl, hl⟩
    obtain rfl := Option.some.inj (hw.symm.trans hw')
    exact hne hsid
  refine hclosed.trans ⟨?_, ?_⟩
  · rw [hshared]
    exact getSession_putSession_of_ne t rfl hne
  · rintro rx w rfl
    rw [hshared, StepRun.getElem?_concat]
    split_ifs with hrx
    · subst hrx
      rw [List.getElem?_eq_none (le_refl _)]
      constructor
      · rintro hw
        cases hw
        exact absurd rfl hne
      · exact nofun
    · rfl

/-- The receiver of a command of another session is dropped. -/
theorem untouched_dropReceiver {t : Shared} {rx : ℕ} {w : Waiter} {sid : String}
    (hw : t.waiters[rx]? = some w) (hne : sid ≠ w.sessionId) :
    t.Untouched (t.dropReceiver rx) sid := by
  refine .of_map rfl _ (fun rx' => getElem?_modifyOneshot ..) ?_
  rintro rx' w' hw' rfl
  rw [if_neg]
  rintro rfl
  obtain rfl := Option.some.inj (hw.symm.trans hw')
  exact hne rfl

end Shared

namespace Server

/-! ## Whose receiver a task awaits -/

/-- A vpcd task awaits the response to a command of its own session. -/
def OwnReceivers (s : Server) : Prop :=
  ∀ (i : ℕ) (t : VpcdTask) (rx : ℕ), s.tasks[i]? = some t → t.awaiting = some rx →
    ∃ w, s.shared.waiters[rx]? = some w ∧ t.client.sessionId = some w.sessionId

/-- At the start nobody awaits a receiver. -/
theorem ownReceivers_init : init.OwnReceivers := by
  intro i t rx ht
  simp [init] at ht

/-- The commands there were are still those of the same sessions. -/
theorem OwnReceivers.later {s s' : Server} (h : s.OwnReceivers) (hl : s.shared.Later s'.shared)
    {i : ℕ} {t : VpcdTask} {rx : ℕ} (ht : s.tasks[i]? = some t) (hrx : t.awaiting = some rx) :
    ∃ w, s'.shared.waiters[rx]? = some w ∧ t.client.sessionId = some w.sessionId := by
  obtain ⟨w, hw, hsid⟩ := h i t rx ht hrx
  obtain ⟨w', hw', hlater⟩ := hl.waiters rx w hw
  exact ⟨w', hw', by rw [hsid, hlater.sessionId]⟩

/-- One task moves on. -/
theorem OwnReceivers.of_setTask {s s' : Server} (h : s.OwnReceivers)
    (hl : s.shared.Later s'.shared) {i : ℕ} {t' : VpcdTask}
    (htasks : s'.tasks = s.tasks.set i t')
    (hnew : ∀ rx, t'.awaiting = some rx →
      ∃ w, s'.shared.waiters[rx]? = some w ∧ t'.client.sessionId = some w.sessionId) :
    s'.OwnReceivers := by
  intro j t rx ht hrx
  rw [htasks, List.getElem?_set] at ht
  split_ifs at ht with hij hlt
  · cases ht
    exact hnew rx hrx
  · exact h.later hl ht hrx

/-- A task at the beginning of a round awaits nothing. -/
theorem awaiting_begin {t : VpcdTask} {stream : TcpStream} {c : VpcdClient}
    (hp : t.phase = .connected stream c.messageLoopBody) : t.awaiting = none := by
  rw [VpcdTask.awaiting_connected hp]
  exact awaitingOf_of_obeys (obeysRound_messageLoopBody c)

/-- The receiver that is awaited after an answer is that of the command just accepted. -/
theorem roundNext_eq_some {h : Option ℕ} {o : VpcdOp} {r : VpcdRet o} {rx : ℕ}
    (hnext : roundNext h o r = some rx) :
    ∃ sid command readerName, (⟨o, r⟩ : VpcdEvent) =
      ⟨.sendCommand sid command readerName, some (.ok rx)⟩ := by
  cases o with
  | sendCommand sid command readerName =>
    rcases r with _ | _ | rx'
    · cases hnext
    · cases hnext
    · cases hnext
      exact ⟨sid, command, readerName, rfl⟩
  | _ => cases hnext

/-- **Each step** keeps the receivers with the tasks of their sessions. -/
theorem Transition.ownReceivers {svc : SmartcardService} {s s' : Server} {a : Action}
    (h : Transition svc s a s') (hs : s.Sound) (hr : s.Rounds) (ho : s.OwnReceivers) :
    s'.OwnReceivers := by
  have hl := (h.effect.consistent hs).2
  cases h with
  | @spawn k start hk =>
    intro i t rx ht hrx
    rw [startClient, StepRun.getElem?_concat] at ht
    split_ifs at ht
    · cases ht
      cases hrx
    · exact ho i t rx ht hrx
  | connected ht hp =>
    refine ho.of_setTask hl rfl fun rx hrx => ?_
    rw [awaiting_begin rfl] at hrx
    cases hrx
  | refused ht hp => exact ho.of_setTask hl rfl fun rx hrx => by cases hrx
  | wake ht hp => exact ho.of_setTask hl rfl fun rx hrx => by cases hrx
  | suspend ht hp hperform h =>
    intro i t rx ht' hrx
    exact ho.later hl (performed_tasks h ▸ ht') hrx
  | @answer i outcome t stream stream' o k r s₁ ht hp hperform h =>
    have htasks : (s₁.setTask i { t with phase := .connected stream' (k r) }).tasks =
        s.tasks.set i { t with phase := .connected stream' (k r) } := by
      rw [setTask, performed_tasks h]
    refine ho.of_setTask hl htasks fun rx hrx => ?_
    rw [VpcdTask.awaiting_connected rfl, hr.awaiting_answer ht hp] at hrx
    obtain ⟨sid, command, readerName, hev⟩ := roundNext_eq_some hrx
    cases hev
    -- the command was accepted for the session the task serves
    obtain ⟨w, hw, hsid, -⟩ := (perform_sendCommand hs ht hp hperform).2.2 rx rfl
    exact ⟨w, hw, by rw [hsid]; exact hr.session_eq ht (nextOp_eq_some ht hp) rfl⟩
  | turn ht hp =>
    refine ho.of_setTask hl rfl fun rx hrx => ?_
    rw [awaiting_begin rfl] at hrx
    cases hrx
  | disconnected ht hp => exact ho.of_setTask hl rfl fun rx hrx => by cases hrx
  | _ => exact fun i t rx ht hrx => ho.later hl ht hrx

/-- In every reachable state a task awaits receivers of its own session only. -/
theorem Reachable.ownReceivers {svc : SmartcardService} {s : Server} (h : s.Reachable svc) :
    s.OwnReceivers :=
  (StepRun.invariant_reaches (P := fun s => s.Sound ∧ s.Rounds ∧ s.OwnReceivers)
    (fun _ _ _ hP hstep => ⟨(step_effect hstep).sound hP.1,
      (step_transition hstep).rounds hP.2.1,
      (step_transition hstep).ownReceivers hP.1 hP.2.1 hP.2.2⟩)
    ⟨sound_init, rounds_init, ownReceivers_init⟩ h).2.2

/-! ## Events and the session they concern -/

/-- The event concerns the session `sid`: it names it, it happens on a stream whose
first message named it, or it is a step of a vpcd task started for it. -/
inductive Concerns (s : Server) (sid : String) : Action → Prop
  | establishSession {req : ConnectRequest} : Concerns s sid (.establishSession sid req)
  | updateReaderInfo {req : UpdateReaderInfoRequest} (hsid : req.sessionId = sid) :
      Concerns s sid (.updateReaderInfo req)
  | heartbeat : Concerns s sid (.heartbeat sid)
  | removeSession : Concerns s sid (.removeSession sid)
  | sendCommandResponse {response : CommandResponse} (hsid : response.sessionId = sid) :
      Concerns s sid (.sendCommandResponse response)
  | firstMessage {i : ℕ} {st : CommandStream} {response : CommandResponse}
      (hi : s.streams[i]? = some st) (hfirst : st.sessionId = none)
      (hsid : response.sessionId = sid) : Concerns s sid (.streamNext i (some (.ok response)))
  | message {i : ℕ} {st : CommandStream} {item : Option (Except String CommandResponse)}
      (hi : s.streams[i]? = some st) (hsid : st.sessionId = some sid) :
      Concerns s sid (.streamNext i item)
  | streamTurn {i : ℕ} {st : CommandStream} (hi : s.streams[i]? = some st)
      (hsid : st.sessionId = some sid) : Concerns s sid (.streamTurn i)
  | takeCommand {i : ℕ} {st : CommandStream} (hi : s.streams[i]? = some st)
      (hsid : st.sessionId = some sid) : Concerns s sid (.takeCommand i)
  | closeReceiver {i : ℕ} {st : CommandStream} (hi : s.streams[i]? = some st)
      (hsid : st.sessionId = some sid) : Concerns s sid (.closeReceiver i)
  | startClient {k : ℕ} {start : StartClient} (hk : s.starting[k]? = some start)
      (hsid : start.sessionId = sid) : Concerns s sid (.startClient k)
  | taskConnect {i : ℕ} {t : VpcdTask} {outcome : Except String TcpStream}
      (ht : s.tasks[i]? = some t) (hsid : t.client.sessionId = some sid) :
      Concerns s sid (.taskConnect i outcome)
  | taskRun {i : ℕ} {t : VpcdTask} {outcome : Outcome} (ht : s.tasks[i]? = some t)
      (hsid : t.client.sessionId = some sid) : Concerns s sid (.taskRun i outcome)
  | taskWake {i : ℕ} {t : VpcdTask} (ht : s.tasks[i]? = some t)
      (hsid : t.client.sessionId = some sid) : Concerns s sid (.taskWake i)

/-- Nothing of the session `sid` changes from `s` to `s'`: not its entry in the
table (readers, command channel with its pending map, last activity), not its
commands and their waiters, not its streams with their queues. -/
structure Isolated (s s' : Server) (sid : String) : Prop where
  shared : s.shared.Untouched s'.shared sid
  streams : ∀ (i : ℕ) (st : CommandStream), s.streams[i]? = some st → st.sessionId = some sid →
    s'.streams[i]? = some st

/-- What leaves the streams alone and the session untouched is isolated from it. -/
theorem Isolated.of_shared {s s' : Server} {sid : String} (h : s.shared.Untouched s'.shared sid)
    (hstreams : s'.streams = s.streams) : s.Isolated s' sid :=
  ⟨h, fun i st hi _ => by rw [hstreams, hi]⟩

/-- A stream of another session is changed. -/
theorem Isolated.of_set {s s' : Server} {sid : String} (h : s.shared.Untouched s'.shared sid)
    {i : ℕ} {st st' : CommandStream} (hi : s.streams[i]? = some st)
    (hset : s'.streams = s.streams.set i st') (hne : st.sessionId ≠ some sid) :
    s.Isolated s' sid where
  shared := h
  streams := by
    intro j stj hj hsid
    rw [hset, List.getElem?_set_ne, hj]
    rintro rfl
    obtain rfl := Option.some.inj (hi.symm.trans hj)
    exact hne hsid

/-- Two steps isolated from the session. -/
theorem Isolated.trans {s s' s'' : Server} {sid : String} (h : s.Isolated s' sid)
    (h' : s'.Isolated s'' sid) : s.Isolated s'' sid where
  shared := h.shared.trans h'.shared
  streams := fun i st hi hsid => h'.streams i st (h.streams i st hi hsid) hsid

/-! ## The steps of the vpcd tasks -/

/-- A settled stream is bound to its session. -/
theorem Settled.sessionId {s : Server} {sid : String} {j : ℕ} (h : s.Settled sid j)
    {st : CommandStream} (hst : s.streams[j]? = some st) : st.sessionId = some sid := by
  obtain ⟨p, hp, -⟩ := h
  rw [bindingOf_of_getElem? hst] at hp
  exact congrArg Prod.fst (Option.some.inj hp)

/-- A request is handed over for the session `named`. -/
theorem Handed.isolated {s s' : Server} {b : BlockedSend}
    {answer : Option (Option (Except String ℕ))} (h : Handed s b answer s') {named sid : String}
    {w : Waiter} (hw : s.shared.waiters[b.rx]? = some w) (hsid : w.sessionId = named)
    (hsettled : s.Settled named b.stream) (hne : sid ≠ named) : s.Isolated s' sid := by
  cases h with
  | closed hst hclosed =>
    exact .of_shared (Shared.untouched_dropReceiver hw (hsid.symm ▸ hne)) rfl
  | full hst halive hfull => exact .of_shared (.refl s.shared sid) rfl
  | sent hst hq =>
    refine .of_set (.refl s.shared sid) hst rfl ?_
    rw [hsettled.sessionId hst]
    exact fun heq => hne (Option.some.inj heq).symm

/-- An operation of a task of one session is isolated from every other. -/
theorem Performed.isolated {svc : SmartcardService} {s s' : Server} {i : ℕ} {outcome : Outcome}
    {o : VpcdOp} {answer : Option (VpcdRet o)} (h : Performed s i outcome o answer s')
    (hreach : s.Reachable svc) {t : VpcdTask} (ht : s.tasks[i]? = some t)
    (hop : s.nextOp i = some o) {named sid : String} (hnamed : t.client.sessionId = some named)
    (hne : sid ≠ named) : s.Isolated s' sid := by
  have hs := hreach.sound
  have hown : ∀ id, o.session = some id → id = named := fun id hid =>
    Option.some.inj ((hreach.rounds.session_eq ht hop hid).symm.trans hnamed)
  -- the receiver that is awaited is that of a command of the session
  have hawaited : ∀ {rx : ℕ} {w : Waiter}, s.nextOp i = some (.recvResponse rx) →
      s.shared.waiters[rx]? = some w → s.Isolated { s with shared := s.shared.dropReceiver rx } sid
      := by
    intro rx w hop hw
    obtain ⟨t', stream, k, ht', hp⟩ := exists_of_nextOp hop
    obtain rfl := Option.some.inj (ht.symm.trans ht')
    obtain ⟨w', hw', hsid⟩ :=
      hreach.ownReceivers i t rx ht (VpcdTask.awaiting_connected hp)
    obtain rfl := Option.some.inj (hw.symm.trans hw')
    refine .of_shared (Shared.untouched_dropReceiver hw ?_) rfl
    rw [show w.sessionId = named from Option.some.inj (hsid.symm.trans hnamed)]
    exact hne
  cases h with
  | onConnection | looked | notFound | notConnected => exact .of_shared (.refl s.shared sid) rfl
  | @issued id command readerName issued answer s' hlock hissue hhanded =>
    obtain rfl := hown id rfl
    obtain ⟨w, hw, hsid, -⟩ := Shared.prepared_issue hissue i
    obtain ⟨session, channel, hsession, hch, hst, -⟩ := Shared.issue_eq_ok hissue
    have hchannel : s.shared.channelOf id = some issued.stream := by
      rw [Shared.channelOf, hsession]
      simp [hch, hst]
    have hissued : s.Isolated { s with shared := issued.shared } sid :=
      .of_shared (Shared.untouched_issue hs.consistent hissue hne) rfl
    exact hissued.trans (hhanded.isolated hw hsid (hreach.history.channel id _ hchannel) hne)
  | @resumed id command readerName b answer s' hlock htask hhanded =>
    obtain rfl := hown id rfl
    obtain ⟨t', stream, id', command', readerName', k, ht', hp, w, hw, hsid, -, hst, -⟩ :=
      hs.lock b hlock
    rw [htask] at ht'
    have hsame : VpcdOp.sendCommand id' command' readerName' = .sendCommand id command readerName :=
      Option.some.inj ((nextOp_eq_some ht' hp).symm.trans hop)
    cases hsame
    refine hhanded.isolated hw hsid ?_ hne
    have hsettled := hreach.history.issued b.rx w hw
    rw [hsid, hst] at hsettled
    exact hsettled
  | response hw halive hsent => exact hawaited hop hw
  | released hw halive hdropped => exact hawaited hop hw
  | elapsed hw halive hheld houtcome => exact hawaited hop hw

/-! ## The steps on a stream -/

/-- The action is a step on the stream `i`. -/
def OnStream (i : ℕ) : Action → Prop
  | .streamNext j _ => j = i
  | .streamTurn j => j = i
  | .takeCommand j => j = i
  | .closeReceiver j => j = i
  | _ => False

/-- A step on a stream that concerns one session is on no stream of another. -/
theorem Concerns.not_bound {s : Server} {a : Action} {named sid : String}
    (ha : s.Concerns named a) (hne : sid ≠ named) {i : ℕ} (hon : OnStream i a)
    {st : CommandStream} (hi : s.streams[i]? = some st) : st.sessionId ≠ some sid := by
  have hbound : ∀ {st' : CommandStream}, s.streams[i]? = some st' →
      st'.sessionId = some named → st.sessionId ≠ some sid := by
    intro st' hi' hst' heq
    obtain rfl := Option.some.inj (hi.symm.trans hi')
    exact hne (Option.some.inj (heq.symm.trans hst'))
  cases ha with
  | firstMessage hi' hfirst hsid =>
    obtain rfl := hon
    obtain rfl := Option.some.inj (hi.symm.trans hi')
    rw [hfirst]
    exact nofun
  | message hi' hsid | streamTurn hi' hsid | takeCommand hi' hsid | closeReceiver hi' hsid =>
    obtain rfl := hon
    exact hbound hi' hsid
  | _ => exact hon.elim

/-- The stream is changed by a step that concerns another session, which leaves the
shared state or changes it for the session the stream is bound to. -/
theorem Concerns.isolated_of_set {s s' : Server} {a : Action} {named sid : String}
    (ha : s.Concerns named a) (hne : sid ≠ named) {i : ℕ} (hon : OnStream i a)
    {st st' : CommandStream} (hi : s.streams[i]? = some st)
    (hset : s'.streams = s.streams.set i st')
    (hshared : s'.shared = s.shared ∨
      ∃ id, st.sessionId = some id ∧ (sid ≠ id → s.shared.Untouched s'.shared sid)) :
    s.Isolated s' sid := by
  have hnot := ha.not_bound hne hon hi
  refine .of_set ?_ hi hset hnot
  rcases hshared with hshared | ⟨id, hid, huntouched⟩
  · rw [hshared]
    exact .refl s.shared sid
  · refine huntouched ?_
    rintro rfl
    exact hnot hid

/-! ## The theorem -/

/-- **Sessions are isolated.**  In every reachable state, an event that concerns one
session leaves everything of every other session as it is. -/
theorem Reachable.sessions_isolated {svc : SmartcardService} {s s' : Server}
    (hreach : s.Reachable svc) {a : Action} (hstep : step svc s a = some s') {named sid : String}
    (ha : s.Concerns named a) (hne : sid ≠ named) : s.Isolated s' sid := by
  have hc := hreach.sound.consistent
  cases step_transition hstep with
  | tick => cases ha
  | establish hlock hfresh =>
    cases ha
    exact .of_shared (Shared.untouched_createSession s.shared _ _ hne) rfl
  | unknownReport => exact .of_shared (.refl s.shared sid) rfl
  | report hlock hs =>
    cases ha with
    | updateReaderInfo hsid =>
      subst hsid
      exact .of_shared (Shared.untouched_updateSession s.shared _ hne) rfl
  | heartbeat hlock =>
    cases ha
    exact .of_shared (Shared.untouched_updateSession s.shared _ hne) rfl
  | remove hlock =>
    cases ha
    exact .of_shared (Shared.untouched_removeSession hc hne) rfl
  | acknowledge hid => exact .of_shared (.refl s.shared sid) rfl
  | handle hlock hid =>
    cases ha with
    | sendCommandResponse hsid =>
      subst hsid
      exact .of_shared (Shared.untouched_handleResponse hc _ hne) rfl
  | newStream => cases ha
  | item hi hp => exact ha.isolated_of_set hne rfl hi rfl (Or.inl rfl)
  | take hi hr => exact ha.isolated_of_set hne rfl hi rfl (Or.inl rfl)
  | close hi => exact ha.isolated_of_set hne rfl hi rfl (Or.inl rfl)
  | @register i st response hlock hi hp hs =>
    -- the stream registers for the session its first message named
    have hbound := hreach.history.registering i st.sessionId response
      ((bindingOf_of_getElem? hi).trans (by rw [hp]))
    exact ha.isolated_of_set hne rfl hi rfl
      (Or.inr ⟨_, hbound, Shared.untouched_setCommandChannel hc i⟩)
  | unknown hlock hi hp hs => exact ha.isolated_of_set hne rfl hi rfl (Or.inl rfl)
  | @respond i st response id hlock hi hp hbound =>
    exact ha.isolated_of_set hne rfl hi rfl
      (Or.inr ⟨id, hbound, Shared.untouched_handleResponse hc response⟩)
  | @cleanup i st id hlock hi hp hbound =>
    exact ha.isolated_of_set hne rfl hi rfl
      (Or.inr ⟨id, hbound, Shared.untouched_clearCommandChannel hc⟩)
  | unbound hi hp hbound => exact ha.isolated_of_set hne rfl hi rfl (Or.inl rfl)
  | suspend ht hp hperform h =>
    cases ha with
    | taskRun ht' hsid =>
      obtain rfl := Option.some.inj (ht.symm.trans ht')
      exact h.isolated hreach ht (nextOp_eq_some ht hp) hsid hne
  | answer ht hp hperform h =>
    cases ha with
    | taskRun ht' hsid =>
      obtain rfl := Option.some.inj (ht.symm.trans ht')
      have hisolated := h.isolated hreach ht (nextOp_eq_some ht hp) hsid hne
      exact ⟨hisolated.shared, hisolated.streams⟩
  | _ => exact .of_shared (.refl s.shared sid) rfl

/-- A second client arrives after the exchange of the first. -/
theorem isolated_secondClient :
    exchangeState.Isolated (exchangeState.establishSession "t" ⟨"second client", "1"⟩) "s" := by
  have hfresh : exchangeState.FreshId "t" := by decide
  have hlock : exchangeState.lock = none := rfl
  have hconcerns : exchangeState.Concerns "t" (.establishSession "t" ⟨"second client", "1"⟩) :=
    .establishSession
  exact reachable_exchangeState.sessions_isolated (by simp [step, hfresh, locked, hlock]) hconcerns
    (by decide)

end Server

end RemoteSmartcard
