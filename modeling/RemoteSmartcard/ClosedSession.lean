/-
# The vpcd tasks of a closed session

The loop of `start_client` has no exit: a vpcd task goes on connecting when the
command channel of its session has been closed, and when the session is gone.  From
then on it hands no command to a client.  An APDU is answered with 6F00, `GetAtr`
with the ATR stored for the reader, as long as the session is in the table, and else
with the empty ATR.
-/
import RemoteSmartcard.ChannelHistory
import RemoteSmartcard.Release
import RemoteSmartcard.RequestDiscipline
import RemoteSmartcard.VpcdClients

namespace RemoteSmartcard

open VpcdOp
open Program hiding pure

/-! ## Answers for a closed session -/

/-- The session that an operation of a vpcd task is about. -/
def VpcdOp.session : VpcdOp → Option String
  | getSession sid => some sid
  | sendCommand sid _ _ => some sid
  | _ => none

/-- What a vpcd task is answered when its session has no channel: no command goes
out. -/
def Unserved : (o : VpcdOp) → VpcdRet o → Prop
  | .getSession _, session => ∀ x, session = some x → x.commandChannel = none
  | .sendCommand _ _ _, sent => ∀ rx, sent ≠ some (.ok rx)
  | _, _ => True

/-- Without a channel the call `ask` fails. -/
theorem ask_unserved {Alpha : Type} {c : VpcdClient} {sid readerName : String}
    {command : Command} {d out : Alpha} {k : CommandResponse → VpcdProgram Alpha}
    {tr : List VpcdEvent} (h : (c.ask sid readerName command d k).Yields tr out)
    (hun : ∀ ev ∈ tr, Unserved ev.op ev.answer) : out = d := by
  rcases yields_ask h with ⟨hout, -⟩ | ⟨t₁, t₂, rx, r, -, -, rfl⟩
  · exact hout
  · have hsend := hun _ (List.mem_append_right _ List.mem_cons_self)
    exact absurd rfl (hsend rx)

/-- How an exchange answers for a closed session. -/
structure Exchange.AnswersClosed (x : Exchange) : Prop where
  apdu : ∀ data, x.msg = .apdu data → x.answer = some VpcdClient.noPreciseDiagnosis
  getAtr : x.msg = .control .getAtr → x.answer = some [] ∨
    ∃ sid readerName session info, x.client.sessionId = some sid ∧
      x.client.readerName = some readerName ∧
      (⟨getSession sid, some session⟩ : VpcdEvent) ∈ x.handling ∧
      session.readers.lookup readerName = some info ∧ x.answer = some info.atr

/-- A stored ATR that is answered is that of the reader in the session looked up. -/
theorem cachedAtr_eq_some {session : Option Session} {readerName : String} {atr : Bytes}
    (h : VpcdClient.cachedAtr session readerName = some atr) :
    ∃ x info, session = some x ∧ x.readers.lookup readerName = some info ∧ info.atr = atr ∧
      atr ≠ [] := by
  unfold VpcdClient.cachedAtr at h
  split at h
  · rename_i x
    split at h
    · rename_i info hinfo
      split at h
      · cases h
      · rename_i hne
        cases h
        exact ⟨x, info, rfl, hinfo, rfl, by simpa using hne⟩
    · cases h
  · cases h

/-- **The answers of a closed session.** -/
theorem Exchange.answersClosed {x : Exchange}
    (hun : ∀ ev ∈ x.handling, Unserved ev.op ev.answer) : x.AnswersClosed := by
  have hh := x.handles
  constructor
  case apdu =>
    intro data hmsg
    rw [hmsg] at hh
    obtain ⟨t₁, t₂, out, htr, h₁, h₂⟩ := yields_bind_iff.mp hh
    obtain ⟨rfl, heq⟩ := yields_pure_iff.mp h₂
    rw [List.append_nil] at htr
    rw [show x.answer = some out from congrArg Prod.fst heq]
    rw [VpcdClient.forwardApdu_eq] at h₁
    split at h₁
    · rw [ask_unserved h₁ (htr ▸ hun)]
    · rw [(yields_pure_iff.mp h₁).2]
  case getAtr =>
    intro hmsg
    rw [hmsg] at hh
    obtain ⟨t₁, t₂, ⟨out, c₁⟩, htr, h₁, h₂⟩ := yields_bind_iff.mp hh
    obtain ⟨rfl, heq⟩ := yields_pure_iff.mp h₂
    rw [List.append_nil] at htr
    have hanswer : x.answer = some out := congrArg Prod.fst heq
    rw [hanswer]
    rw [VpcdClient.getAtrFromClient_eq] at h₁
    split at h₁
    · rename_i sid readerName hsid hreader
      obtain ⟨session, t₃, rfl, h₃⟩ := yields_perform_bind_iff.mp h₁
      split at h₃
      · rename_i atr hcached
        obtain ⟨y, info, rfl, hinfo, hatr, -⟩ := cachedAtr_eq_some hcached
        obtain ⟨-, hout⟩ := yields_pure_iff.mp h₃
        refine Or.inr ⟨sid, readerName, y, info, hsid, hreader, ?_, hinfo, ?_⟩
        · rw [htr]
          exact List.mem_cons_self
        · rw [show out = atr from congrArg Prod.fst hout, hatr]
      · left
        have hrest : ∀ ev ∈ t₃, Unserved ev.op ev.answer := by
          intro ev hev
          exact hun ev (by rw [htr]; exact List.mem_cons_of_mem _ hev)
        rw [show out = [] from congrArg Prod.fst (ask_unserved h₃ hrest)]
    · left
      rw [show out = [] from congrArg Prod.fst (yields_pure_iff.mp h₁).2]

namespace Server

/-! ## The tasks keep their session -/

/-- A vpcd task keeps its target. -/
theorem Transition.target {svc : SmartcardService} {s s' : Server} {a : Action}
    (h : Transition svc s a s') (hr : s.Rounds) {i : ℕ} {t t' : VpcdTask}
    (ht : s.tasks[i]? = some t) (ht' : s'.tasks[i]? = some t') :
    t'.client.target = t.client.target := by
  have hjob : s.taskJobs[i]? = some t.job := by
    rw [Server.taskJobs, List.getElem?_map, ht]
    rfl
  have hjob' : s'.taskJobs[i]? = some t'.job := by
    rw [Server.taskJobs, List.getElem?_map, ht']
    rfl
  rw [h.taskJobs hr, List.getElem?_append_left (List.getElem?_eq_some_iff.mp hjob).1, hjob] at hjob'
  exact congrArg Prod.fst (Option.some.inj hjob').symm

/-- An operation on the table is about the session of the task. -/
theorem Rounds.session_eq {s : Server} (hr : s.Rounds) {i : ℕ} {t : VpcdTask} {o : VpcdOp}
    (ht : s.tasks[i]? = some t) (hop : s.nextOp i = some o) {sid : String}
    (hsid : o.session = some sid) : t.client.sessionId = some sid := by
  obtain ⟨t', stream, k, ht', hp⟩ := exists_of_nextOp hop
  obtain rfl := Option.some.inj (ht.symm.trans ht')
  have hround : Obeys _ _ (Program.op o k) t.awaiting := hr i t stream _ ht hp
  have hallowed : roundAllowed t.client.target t.awaiting o := hround.1
  cases hrx : t.awaiting with
  | some rx =>
    rw [hrx] at hallowed
    obtain rfl : o = VpcdOp.recvResponse rx := hallowed
    cases hsid
  | none =>
    rw [hrx] at hallowed
    cases o with
    | getSession sid' =>
      cases hsid
      exact hallowed
    | sendCommand sid' command readerName =>
      cases hsid
      exact congrArg Prod.fst hallowed
    | _ => cases hsid

/-! ## What a step adds -/

/-- The step opens a command channel for the session. -/
def opensChannel (s : Server) (sid : String) : Action → Bool
  | .streamTurn i =>
    match s.streams[i]? with
    | some st =>
      match st.phase with
      | .registering response => decide (response.sessionId = sid)
      | _ => false
    | none => false
  | _ => false

/-- A session without a channel has none after a step that does not open one. -/
theorem Transition.channelOf_eq_none {svc : SmartcardService} {s s' : Server} {a : Action}
    (h : Transition svc s a s') (hs : s.Sound) {sid : String}
    (hclosed : s.shared.channelOf sid = none) (hG : s.opensChannel sid a = false) :
    s'.shared.channelOf sid = none := by
  by_contra hopen
  obtain ⟨j, hj⟩ := Option.ne_none_iff_exists'.mp hopen
  rcases h.effect.channel hs hj with hj | ⟨st, r, rfl, hst, hp, hsid, -⟩
  · rw [hclosed] at hj
    cases hj
  · simp [opensChannel, hst, hp, hsid] at hG

/-- The task that holds the lock is in `sendCommand`, for the session of the command
it sends. -/
theorem Sound.lock_session {s : Server} (hs : s.Sound) {b : BlockedSend} (hlock : s.lock = some b)
    {sid : String} {command : Command} {readerName : String}
    (hop : s.nextOp b.task = some (.sendCommand sid command readerName)) {w : Waiter}
    (hw : s.shared.waiters[b.rx]? = some w) : w.sessionId = sid := by
  obtain ⟨t, stream, sid', command', readerName', k, ht, hp, w', hw', hsid, -⟩ := hs.lock b hlock
  rw [nextOp_eq_some ht hp] at hop
  obtain rfl := Option.some.inj (hw.symm.trans hw')
  rw [hsid]
  cases hop
  rfl

/-- **No command goes out for a session without a channel.** -/
theorem Performed.unserved {s s' : Server} {i : ℕ} {outcome : Outcome} {o : VpcdOp}
    {r : VpcdRet o} (h : Performed s i outcome o (some r) s') (hs : s.Sound)
    (hheld : ∀ b, s.lock = some b → s.HeldBy b) (hop : s.nextOp i = some o) {sid : String}
    (hclosed : s.shared.channelOf sid = none) (hsid : ∀ id, o.session = some id → id = sid) :
    Unserved o r := by
  cases h with
  | onConnection ho =>
    cases o with
    | getSession _ | sendCommand _ _ _ | recvResponse _ => exact absurd ho id
    | _ => trivial
  | @looked id hlock =>
    intro session hsession
    obtain rfl := hsid id rfl
    unfold Shared.channelOf at hclosed
    rw [hsession] at hclosed
    simpa using hclosed
  | notFound hlock hissue =>
    intro rx hrx
    cases hrx
  | notConnected hlock hissue =>
    intro rx hrx
    cases hrx
  | @issued id command readerName issued answer s' hlock hissue hhanded =>
    obtain rfl := hsid id rfl
    obtain ⟨session, channel, hsession, hch, -⟩ := Shared.issue_eq_ok hissue
    unfold Shared.channelOf at hclosed
    rw [hsession] at hclosed
    simp [hch] at hclosed
  | @resumed id command readerName b answer s' hlock htask hhanded =>
    obtain rfl := hsid id rfl
    subst htask
    obtain ⟨-, w, hw, -, -, hsender⟩ := hheld b hlock
    have hch := Shared.channelOf_of_held hs.consistent hw hsender
    rw [hs.lock_session hlock hop hw, hclosed] at hch
    cases hch
  | response | released | elapsed => trivial

/-- A look at a session gives the one in the table. -/
theorem Performed.looked_eq {s s' : Server} {i : ℕ} {outcome : Outcome} {sid : String}
    {session : Option Session} (h : Performed s i outcome (.getSession sid) (some session) s') :
    session = s.shared.getSession sid := by
  cases h with
  | onConnection ho => exact absurd ho id
  | looked hlock => rfl

/-- Without a channel no command is issued. -/
theorem Transition.waiter_of_closed {svc : SmartcardService} {s s' : Server} {a : Action}
    (h : Transition svc s a s') (hs : s.Sound) {sid : String}
    (hclosed : s.shared.channelOf sid = none) {rx : ℕ} {w' : Waiter}
    (hw' : s'.shared.waiters[rx]? = some w') (hsid : w'.sessionId = sid) :
    ∃ w, s.shared.waiters[rx]? = some w ∧ w.sessionId = sid := by
  rcases h.effect.waiter hs hw' with ⟨w, hw, hsame, -⟩ | hch
  · exact ⟨w, hw, hsame.symm.trans hsid⟩
  · rw [hsid, hclosed] at hch
    cases hch

/-! ## The theorem on runs -/

/-- The run from `s₀` to `s` after the channel of the session `sid` was closed: it
stays closed, no command was issued for the session, and the operations of its tasks
were answered accordingly. -/
structure SinceClosed (s₀ : Server) (sid : String) (s : Server) : Prop where
  closed : s.shared.channelOf sid = none
  gone : s₀.shared.readersOf sid = none → sid ∈ s₀.created →
    s.shared.readersOf sid = none ∧ sid ∈ s.created
  issued : ∀ (rx : ℕ) (w : Waiter), s.shared.waiters[rx]? = some w → w.sessionId = sid →
    rx < s₀.shared.waiters.length
  log : ∃ new, s.log = s₀.log ++ new ∧ ∀ e ∈ new, ∀ t, s.tasks[e.task]? = some t →
    t.client.sessionId = some sid → Unserved e.event.op e.event.answer ∧
      (s₀.shared.readersOf sid = none → sid ∈ s₀.created →
        ∀ id session, e.event ≠ ⟨getSession id, some session⟩)

/-- When the channel has just been closed nothing has happened since. -/
theorem sinceClosed_refl {s : Server} {sid : String} (hclosed : s.shared.channelOf sid = none) :
    SinceClosed s sid s where
  closed := hclosed
  gone := fun hreaders hcreated => ⟨hreaders, hcreated⟩
  issued := fun rx w hw _ => (List.getElem?_eq_some_iff.mp hw).1
  log := ⟨[], by simp⟩

/-- **Each step** issues nothing for the session and leaves its tasks unserved. -/
theorem Transition.sinceClosed {svc : SmartcardService} {s₀ s s' : Server} {a : Action}
    (h : Transition svc s a s') (hreach : s.Reachable svc) {sid : String}
    (hsince : SinceClosed s₀ sid s) (hG : s.opensChannel sid a = false) :
    SinceClosed s₀ sid s' where
  closed := h.channelOf_eq_none hreach.sound hsince.closed hG
  gone := by
    intro hreaders hcreated
    obtain ⟨hreaders, hcreated⟩ := hsince.gone hreaders hcreated
    refine ⟨?_, h.created_subset hcreated⟩
    rw [h.readersOf, hreaders]
    cases h with
    | @establish id req hlock hfresh =>
      have hne : sid ≠ id := by
        rintro rfl
        exact hfresh.1 hcreated
      dsimp only [readersAfter]
      rw [if_neg hne]
    | unknownReport | report | remove =>
      dsimp only [readersAfter]
      split_ifs <;> rfl
    | _ => rfl
  issued := by
    intro rx w' hw' hsid
    obtain ⟨w, hw, hsid⟩ := h.waiter_of_closed hreach.sound hsince.closed hw' hsid
    exact hsince.issued rx w hw hsid
  log := by
    obtain ⟨new, hlog, hnew⟩ := hsince.log
    -- the tasks of the older entries are there, and have the session they had
    have hold : ∀ e ∈ new, ∀ t', s'.tasks[e.task]? = some t' → t'.client.sessionId = some sid →
        ∃ t, s.tasks[e.task]? = some t ∧ t.client.sessionId = some sid := by
      intro e he t' ht' hsid
      obtain ⟨t, ht, -⟩ := hreach.traced.born e (hlog ▸ List.mem_append_right _ he)
      have htarget := h.target hreach.rounds ht ht'
      exact ⟨t, ht, (congrArg Prod.fst htarget).symm.trans hsid⟩
    rcases h.log with hsame | ⟨i, outcome, o, r, s₁, connection, rfl, hop, hperf, -, -, hadd⟩
    · refine ⟨new, hsame.trans hlog, fun e he t' ht' hsid => ?_⟩
      obtain ⟨t, ht, hsid⟩ := hold e he t' ht' hsid
      exact hnew e he t ht hsid
    · refine ⟨new ++ [⟨i, connection, ⟨o, r⟩⟩], by rw [hadd, hlog, List.append_assoc], ?_⟩
      intro e he t' ht' hsid
      rcases List.mem_append.mp he with he | he
      · obtain ⟨t, ht, hsid⟩ := hold e he t' ht' hsid
        exact hnew e he t ht hsid
      · obtain rfl := List.mem_singleton.mp he
        obtain ⟨t, stream, k, ht, hp⟩ := exists_of_nextOp hop
        have htarget := h.target hreach.rounds ht ht'
        have hown : t.client.sessionId = some sid := (congrArg Prod.fst htarget).symm.trans hsid
        have honly : ∀ id, o.session = some id → id = sid := by
          intro id hid
          exact Option.some.inj ((hreach.rounds.session_eq ht hop hid).symm.trans hown)
        refine ⟨hperf.unserved hreach.sound hreach.heldBy hop hsince.closed honly, ?_⟩
        rintro hreaders hcreated id session hev
        obtain ⟨hreaders, -⟩ := hsince.gone hreaders hcreated
        cases hev
        obtain rfl := honly id rfl
        have hsession : s.shared.getSession id = some session := hperf.looked_eq.symm
        rw [Shared.readersOf, hsession] at hreaders
        cases hreaders

/-- The operations of a task of the session on one of its connections since the
channel was closed. -/
theorem SinceClosed.traceOf {s₀ s : Server} {sid : String} (h : SinceClosed s₀ sid s) {i : ℕ}
    {t : VpcdTask} (ht : s.tasks[i]? = some t) (hsid : t.client.sessionId = some sid) (n : ℕ) :
    ∃ new, s.traceOf i n = s₀.traceOf i n ++ new ∧ ∀ ev ∈ new, Unserved ev.op ev.answer ∧
      (s₀.shared.readersOf sid = none → sid ∈ s₀.created →
        ∀ id session, ev ≠ ⟨getSession id, some session⟩) := by
  obtain ⟨new, hlog, hnew⟩ := h.log
  refine ⟨(new.filter fun e => e.task = i ∧ e.connection = n).map (·.event), ?_, ?_⟩
  · rw [Server.traceOf, Server.traceOf, hlog, List.filter_append, List.map_append]
  · intro ev hev
    obtain ⟨e, he, rfl⟩ := List.mem_map.mp hev
    obtain ⟨hmem, hentry⟩ := List.mem_filter.mp he
    rw [decide_eq_true_eq] at hentry
    exact hnew e hmem t (hentry.1.symm ▸ ht) hsid

/-- What comes in a list after the first `l.length` elements is in `new`. -/
theorem mem_new_of_append {Alpha : Type*} {l new : List Alpha} (front back : List Alpha)
    (h : l ++ new = front ++ back) (hle : l.length ≤ front.length) {x : Alpha} (hx : x ∈ back) :
    x ∈ new := by
  have hdrop : new = front.drop l.length ++ back := by
    rw [← List.drop_append_of_le_length hle, ← h, List.drop_left]
  rw [hdrop]
  exact List.mem_append_right _ hx

/-- Two tasks for the same session and reader are the same. -/
theorem Once.task_eq {s : Server} (h : s.Once) {i j : ℕ} {t t' : VpcdTask}
    (ht : s.tasks[i]? = some t) (ht' : s.tasks[j]? = some t')
    (htarget : t.client.target = t'.client.target) : i = j := by
  have hnodup : (s.taskJobs.map Prod.fst).Nodup := by
    have hall := h.nodup
    rw [jobs, List.map_append] at hall
    exact (List.nodup_append.mp hall).2.1
  have htargets : ∀ {k : ℕ} {t : VpcdTask}, s.tasks[k]? = some t →
      (s.taskJobs.map Prod.fst)[k]? = some t.client.target := by
    intro k t hk
    rw [List.getElem?_map, taskJobs, List.getElem?_map, hk]
    rfl
  have hlt := (List.getElem?_eq_some_iff.mp (htargets ht)).1
  exact (List.getElem?_inj hlt hnodup).mp ((htargets ht).trans (htarget ▸ (htargets ht').symm))

/-- **The tasks of a closed session.**  In a run in which no stream opens a channel for
a session that has none, no command of the session is issued; every message that one of
its tasks receives is answered as for a closed session, and `GetAtr` with the empty ATR
if the session was removed; and there is one task at most for each of its readers. -/
theorem closed_session_answers {svc : SmartcardService} {s s' : Server} (hs : s.Reachable svc)
    {sid : String} (hclosed : s.shared.channelOf sid = none) {as : List Action}
    (hG : StepRun.StepsMeet (step svc) (fun s a => s.opensChannel sid a = false) s as)
    (hrun : StepRun.run (step svc) s as = some s') :
    (∀ (rx : ℕ) (w : Waiter), s'.shared.waiters[rx]? = some w → w.sessionId = sid →
      rx < s.shared.waiters.length) ∧
    (∀ (i : ℕ) (t : VpcdTask), s'.tasks[i]? = some t → t.client.sessionId = some sid → ∀ n,
      ∃ c xs c' tail, s'.traceOf i n = xs.flatMap Exchange.trace ++ tail ∧ Chained c xs c' ∧
        Unanswered c' tail ∧ ∀ ys x zs, xs = ys ++ x :: zs →
          (s.traceOf i n).length ≤ (ys.flatMap Exchange.trace ++ x.reading).length →
          x.AnswersClosed ∧ (s.shared.getSession sid = none → sid ∈ s.created →
            x.msg = .control .getAtr → x.answer = some [])) ∧
    ∀ (i j : ℕ) (t t' : VpcdTask), s'.tasks[i]? = some t → s'.tasks[j]? = some t' →
      t.client.target = t'.client.target → i = j := by
  have hP := StepRun.invariant_run_of_guard
    (P := fun s' => s'.Reachable svc ∧ SinceClosed s sid s')
    (fun _ _ _ hP hG hstep => ⟨hP.1.snoc hstep,
      (step_transition hstep).sinceClosed hP.1 hP.2 hG⟩)
    ⟨hs, sinceClosed_refl hclosed⟩ hG hrun
  obtain ⟨hreach, hsince⟩ := hP
  refine ⟨hsince.issued, fun i t ht hsid n => ?_, fun i j t t' ht ht' htarget => ?_⟩
  · obtain ⟨new, htrace, hnew⟩ := hsince.traceOf ht hsid n
    obtain ⟨c, c₁, p, hserves⟩ := hreach.traced.past i n
    obtain ⟨xs, c', tail, hxs, hchain, hun, -, -⟩ := exchanges_of_serves hserves
    refine ⟨c, xs, c', tail, hxs, hchain, hun, fun ys x zs hsplit hle => ?_⟩
    -- what handles a message received since the channel was closed came since then
    have hmem : ∀ ev ∈ x.handling, ev ∈ new := by
      intro ev hev
      refine mem_new_of_append (ys.flatMap Exchange.trace ++ x.reading)
        (⟨received x.msg, ()⟩ :: (x.handling ++ x.writing) ++
          (zs.flatMap Exchange.trace ++ tail)) ?_ hle ?_
      · rw [← htrace, hxs, hsplit]
        simp [Exchange.trace]
      · simp [hev]
    have hanswers := Exchange.answersClosed fun ev hev => (hnew ev (hmem ev hev)).1
    refine ⟨hanswers, fun hgone hcreated hmsg => ?_⟩
    refine (hanswers.getAtr hmsg).resolve_right ?_
    rintro ⟨id, readerName, session, info, -, -, hlook, -, -⟩
    have hreaders : s.shared.readersOf sid = none := by rw [Shared.readersOf, hgone]; rfl
    exact (hnew _ (hmem _ hlook)).2 hreaders hcreated id session rfl
  · exact hreach.once.task_eq ht ht' htarget

/-- A client with a card in its reader opens its command channel, vpcd accepts one
connection and ends it, and the client disconnects. -/
def closingRun : List Action :=
  [.establishSession "s" ⟨"client", "1"⟩, .updateReaderInfo ⟨"s", "r", [0x3B], true⟩,
    .startClient 0, .commandChannel, .streamNext 0 (some (.ok ⟨0, "s", true, "", none⟩)),
    .streamTurn 0, .taskConnect 0 (.ok ⟨[], .unexpectedEof⟩), .taskRun 0 .proceed,
    .taskRun 0 .proceed, .streamNext 0 none, .streamTurn 0]

/-- The client comes back with a new session for its reader, and vpcd accepts a
connection of the first task and asks for the ATR. -/
def comingBack : List Action :=
  [.establishSession "t" ⟨"client", "1"⟩, .updateReaderInfo ⟨"t", "r", [0x3B], true⟩,
    .startClient 0, .taskWake 0, .taskConnect 0 (.ok ⟨[[0, 1], [4]], .unexpectedEof⟩)] ++
  List.replicate 8 (.taskRun 0 .proceed)

/-- The state after `closingRun`. -/
def closedState : Server :=
  (StepRun.run (step ⟨"127.0.0.1", 35963, true⟩) init closingRun).getD init

/-- The state after `comingBack`. -/
def backState : Server :=
  (StepRun.run (step ⟨"127.0.0.1", 35963, true⟩) closedState comingBack).getD init

theorem reachable_closedState : closedState.Reachable ⟨"127.0.0.1", 35963, true⟩ := by
  have h : (StepRun.run (step ⟨"127.0.0.1", 35963, true⟩) init closingRun).isSome := by decide
  obtain ⟨s, hs⟩ := Option.isSome_iff_exists.mp h
  refine ⟨closingRun, ?_⟩
  rw [closedState, hs]
  rfl

theorem run_comingBack :
    StepRun.run (step ⟨"127.0.0.1", 35963, true⟩) closedState comingBack = some backState := by
  have h : (StepRun.run (step ⟨"127.0.0.1", 35963, true⟩) closedState comingBack).isSome := by
    decide
  obtain ⟨s, hs⟩ := Option.isSome_iff_exists.mp h
  rw [backState, hs]
  rfl

/-- The channel of the session is closed and stays so. -/
theorem closedState_stays : closedState.shared.channelOf "s" = none ∧
    StepRun.StepsMeet (step ⟨"127.0.0.1", 35963, true⟩)
      (fun s a => s.opensChannel "s" a = false) closedState comingBack := by
  constructor
  · decide
  · decide

/-- After the channel of the session was closed its task makes a second connection to
vpcd and answers a request there, and it serves the reader along with the task of the
new session. -/
theorem not_stopped_comingBack :
    closedState.Reachable ⟨"127.0.0.1", 35963, true⟩ ∧
      closedState.shared.channelOf "s" = none ∧
      StepRun.StepsMeet (step ⟨"127.0.0.1", 35963, true⟩)
        (fun s a => s.opensChannel "s" a = false) closedState comingBack ∧
      StepRun.run (step ⟨"127.0.0.1", 35963, true⟩) closedState comingBack = some backState ∧
      closedState.tasks.map (·.connections) = [1] ∧ backState.tasks.map (·.connections) = [2, 0] ∧
      marks (backState.traceOf 0 2) = [.request (.control .getAtr), .response [0x3B]] ∧
      backState.tasks.map (·.client.target) = [(some "s", some "r"), (some "t", some "r")] := by
  refine ⟨reachable_closedState, closedState_stays.1, closedState_stays.2, run_comingBack, ?_⟩
  decide

/-- The closed session of `comingBack` answers with the stored ATR. -/
theorem closed_session_answers_comingBack :
    (∀ (rx : ℕ) (w : Waiter), backState.shared.waiters[rx]? = some w → w.sessionId = "s" →
      rx < closedState.shared.waiters.length) ∧
    (∃ (xs : List Exchange) (tail : List VpcdEvent),
      backState.traceOf 0 2 = xs.flatMap Exchange.trace ++ tail ∧ ∀ x ∈ xs, x.AnswersClosed) ∧
    marks (backState.traceOf 0 2) = [.request (.control .getAtr), .response [0x3B]] := by
  obtain ⟨hissued, htasks, -⟩ := closed_session_answers reachable_closedState closedState_stays.1
    closedState_stays.2 run_comingBack
  have htask : ∃ t, backState.tasks[0]? = some t ∧ t.client.sessionId = some "s" := ⟨_, rfl, rfl⟩
  obtain ⟨t, ht, hsid⟩ := htask
  obtain ⟨c, xs, c', tail, htrace, -, -, hanswers⟩ := htasks 0 t ht hsid 2
  refine ⟨hissued, ⟨xs, tail, htrace, fun x hx => ?_⟩, by decide⟩
  obtain ⟨ys, zs, hsplit⟩ := List.append_of_mem hx
  have hnil : closedState.traceOf 0 2 = [] := List.eq_nil_of_length_eq_zero (by decide)
  exact (hanswers ys x zs hsplit (by rw [hnil]; exact Nat.zero_le _)).1

end Server

end RemoteSmartcard
