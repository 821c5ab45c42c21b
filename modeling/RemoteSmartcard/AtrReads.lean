/-
# The ATRs that vpcd is told

`get_atr_from_client` answers with the ATR that the session has stored for the reader, and
only where there is none does it ask the client.  The reports of the client, the streams and
the other vpcd tasks work on the same table meanwhile.

On every connection the answers to `GetAtr` are reads of the directory (`atr_of_run`): each
has a point in the run, after the message has come and before the answer goes out, such that
what is on record for the reader at this point is what is answered, and if nothing is, the
answer is the one to the command that the exchange has sent itself.
-/
import RemoteSmartcard.ClosedSession
import RemoteSmartcard.ProtocolTrace
import RemoteSmartcard.SessionDirectory

namespace RemoteSmartcard

open VpcdOp
open Program hiding pure

/-! ## The ATR on record -/

/-- The ATR last reported for a reader, unless it is empty. -/
def Directory.atrOf (d : Directory) (sid readerName : String) : Option Bytes :=
  match (d sid).bind fun e => e.readers readerName with
  | some (atr, _) => if atr.isEmpty then none else some atr
  | none => none

theorem cachedAtr_getSession (t : Shared) (sid readerName : String) :
    VpcdClient.cachedAtr (t.getSession sid) readerName = t.directory.atrOf sid readerName := by
  unfold VpcdClient.cachedAtr Directory.atrOf Shared.directory
  cases t.getSession sid with
  | none => rfl
  | some session =>
    show _ = match session.entry.readers readerName with
      | some (atr, _) => if atr.isEmpty then none else some atr
      | none => none
    unfold Session.entry
    dsimp only
    cases session.readers.lookup readerName with
    | none => rfl
    | some info => rfl

/-- What an exchange answers to `GetAtr` when this is on record. -/
inductive AtrAnswer (sid readerName : String) (x : Exchange) : Option Bytes → Prop
  -- without a command
  | stored {atr : Bytes} (hanswer : x.answer = some atr) (hsilent : x.handling.length = 1) :
    AtrAnswer sid readerName x (some atr)
  | fetched {rx : ℕ} {r : CommandResponse}
    (hsend : (⟨.sendCommand sid (.getAtr ⟨⟩) readerName, some (.ok rx)⟩ : VpcdEvent) ∈ x.handling)
    (hresponse : (⟨.recvResponse rx, .ok r⟩ : VpcdEvent) ∈ x.handling)
    (hanswer : x.answer = some ((VpcdClient.atrResult r).getD [])) :
    AtrAnswer sid readerName x none
  | failed (hanswer : x.answer = some []) : AtrAnswer sid readerName x none

/-- The handling of `GetAtr` begins with a look at the session, and what it finds there is
on record. -/
theorem Exchange.looks {x : Exchange} (hmsg : x.msg = .control .getAtr) {sid readerName : String}
    (htarget : x.client.target = (some sid, some readerName)) :
    ∃ session rest, x.handling = ⟨.getSession sid, session⟩ :: rest ∧
      AtrAnswer sid readerName x (VpcdClient.cachedAtr session readerName) := by
  have hhandles := x.handles
  rw [hmsg] at hhandles
  obtain ⟨t₁, t₂, ⟨out, c₁⟩, htr, hget, hret⟩ := yields_bind_iff.mp hhandles
  obtain ⟨rfl, heq⟩ := yields_pure_iff.mp hret
  have hanswer : x.answer = some out := congrArg Prod.fst heq
  rw [List.append_nil] at htr
  obtain ⟨hsid, hreader⟩ := Prod.mk.inj htarget
  rw [VpcdClient.getAtrFromClient_eq, hsid, hreader] at hget
  obtain ⟨session, rest, rfl, hrest⟩ := yields_perform_bind_iff.mp hget
  refine ⟨session, rest, htr, ?_⟩
  cases hcached : VpcdClient.cachedAtr session readerName with
  | some atr =>
    rw [hcached] at hrest
    obtain ⟨rfl, hout⟩ := yields_pure_iff.mp hrest
    refine .stored ?_ (by rw [htr]; rfl)
    rw [hanswer]
    exact congrArg (fun p => some p.1) hout
  | none =>
    rw [hcached] at hrest
    rcases yields_ask hrest with ⟨hout, -⟩ | ⟨t₁, t₂, rx, r, -, -, rfl⟩
    · refine .failed ?_
      rw [hanswer]
      exact congrArg (fun p => some p.1) hout
    · have hsend : (⟨.sendCommand sid (.getAtr ⟨⟩) readerName, some (.ok rx)⟩ : VpcdEvent) ∈
          x.handling := by
        rw [htr]
        simp
      have hresponse : (⟨.recvResponse rx, .ok r⟩ : VpcdEvent) ∈ x.handling := by
        rw [htr]
        simp
      obtain ⟨-, -, -, -, -, -, -, hown⟩ := x.response hresponse
      exact .fetched hsend hresponse (by rw [hown, hmsg]; rfl)

/-! ## The client of an exchange -/

/-- Handling a message leaves the target of the client alone. -/
theorem Exchange.target_eq (x : Exchange) : x.client'.target = x.client.target :=
  (Obeys.yields (obeysRound_handleMessage x.client x.msg) x.handles).2.2

theorem Chained.target_eq {c c' : VpcdClient} {xs : List Exchange} (h : Chained c xs c') :
    ∀ x ∈ xs, x.client.target = c.target := by
  induction xs generalizing c with
  | nil => simp
  | cons y ys ih =>
    intro x hx
    rcases List.mem_cons.mp hx with rfl | hx
    · rw [h.1]
    · rw [ih h.2 x hx, y.target_eq, h.1]

/-- So does the message loop. -/
theorem serves_target_eq {c c' : VpcdClient} {tr : List VpcdEvent}
    {p : VpcdProgram (Bool × VpcdClient)} (h : Serves VpcdClient.messageLoopBody c tr c' p) :
    c'.target = c.target := by
  obtain ⟨t₁, t₂, -, hiterates, -⟩ := h
  induction hiterates with
  | nil => rfl
  | @snoc _ _ g _ _ hround ih =>
    rw [← ih]
    exact (Obeys.yields (obeysRound_messageLoopBody g) hround).2.2

namespace Server

variable {svc : SmartcardService}

/-- The trace of a connection only grows. -/
theorem traceOf_step (i n : ℕ) {s s' : Server} {a : Action} (h : step svc s a = some s') :
    s'.traceOf i n = s.traceOf i n ∨ ∃ ev, s'.traceOf i n = s.traceOf i n ++ [ev] := by
  rcases (step_effect h).log with hlog | ⟨_, _, _, _, _, _, _, _, _, -, -, -, -, hlog⟩
  · exact Or.inl (traceOf_congr hlog i n)
  · rw [traceOf_record hlog]
    split_ifs
    · exact Or.inr ⟨_, rfl⟩
    · exact Or.inl (List.append_nil _)

/-- The step by which an operation came into the log. -/
theorem traceOf_new {s s' : Server} {a : Action} (h : step svc s a = some s') {i n : ℕ}
    {ev : VpcdEvent} (hnew : s'.traceOf i n = s.traceOf i n ++ [ev]) :
    ∃ outcome t stream stream' k s₁, s.tasks[i]? = some t ∧ t.connections = n ∧
      t.phase = .connected stream (.op ev.op k) ∧
      s.perform i stream outcome ev.op = some (some ev.answer, stream', s₁) ∧
      s'.tasks[i]? = some { t with phase := .connected stream' (k ev.answer) } := by
  have hsame : s'.log ≠ s.log := by
    intro hlog
    rw [traceOf_congr hlog] at hnew
    simp at hnew
  cases step_transition h with
  | suspend ht hp hperform hperformed => exact absurd (by rw [hperformed.eq_frame]) hsame
  | @answer j outcome t stream stream' o k r s₁ ht hp hperform hperformed =>
    obtain ⟨shared, streams, lock, rfl, -, -⟩ := perform_frame hperform
    rw [traceOf_record (s := s) rfl] at hnew
    split_ifs at hnew with hcond
    · obtain ⟨rfl, rfl⟩ := hcond
      cases List.append_cancel_left hnew
      refine ⟨outcome, t, stream, stream', k, _, ht, rfl, hp, hperform, ?_⟩
      show (s.tasks.set j _)[j]? = _
      rw [List.getElem?_set_self (List.getElem?_eq_some_iff.mp ht).1]
    · simp at hnew
  | _ => exact absurd rfl hsame

/-- On every connection of a task the message loop runs for the session and the reader of
the task. -/
def ServesTarget (s : Server) : Prop :=
  ∀ (i : ℕ) (t : VpcdTask), s.tasks[i]? = some t → ∀ n, ∃ c c' p,
    c.target = t.client.target ∧ Serves VpcdClient.messageLoopBody c (s.traceOf i n) c' p

theorem servesTarget_step {s s' : Server} {a : Action} (h : step svc s a = some s')
    (htraced : s.Traced) (hrounds : s.Rounds) (hs : s.ServesTarget) : s'.ServesTarget := by
  intro i t' ht' n
  rcases traceOf_step i n h with hsame | ⟨ev, hnew⟩
  · rw [hsame]
    cases ht : s.tasks[i]? with
    | none =>
      -- a new task has done nothing yet
      have hnil : s.traceOf i n = [] := by
        unfold traceOf
        rw [List.map_eq_nil_iff, List.filter_eq_nil_iff]
        intro e he hcond
        obtain ⟨t, hborn, -⟩ := htraced.born e he
        rw [(of_decide_eq_true hcond).1, ht] at hborn
        cases hborn
      rw [hnil]
      exact ⟨t'.client, t'.client, _, rfl, Serves.start _ _⟩
    | some t =>
      obtain ⟨c, c', p, htarget, hserves⟩ := hs i t ht n
      exact ⟨c, c', p, by rw [htarget, (step_transition h).target hrounds ht ht'], hserves⟩
  · obtain ⟨outcome, t, stream, stream', k, s₁, ht, rfl, hp, -, hmoved⟩ := traceOf_new h hnew
    obtain rfl := Option.some.inj (ht'.symm.trans hmoved)
    obtain ⟨c, hserves⟩ := ((step_effect h).traced htraced).current i _ _ _ ht' rfl
    exact ⟨c, _, _, (serves_target_eq hserves).symm, hserves⟩

theorem Reachable.servesTarget {s : Server} (hs : s.Reachable svc) : s.ServesTarget := by
  have hall : s.Traced ∧ s.Rounds ∧ s.ServesTarget :=
    StepRun.invariant_reaches (P := fun s => s.Traced ∧ s.Rounds ∧ s.ServesTarget)
      (fun _ _ _ hP hstep => ⟨(step_effect hstep).traced hP.1,
        (step_transition hstep).rounds hP.2.1, servesTarget_step hstep hP.1 hP.2.1 hP.2.2⟩)
      ⟨traced_init, rounds_init, fun i t ht => by simp [init] at ht⟩ hs
  exact hall.2.2

/-- **The ATRs that vpcd is told.**  In every run the operations on a connection of a vpcd
task are exchanges, and a round not yet answered, and each `GetAtr` among them reads the
directory: at a point of the run at which its message has come, and nothing more, the ATR on
record is the one that is answered, without a command; and if none is on record there, the
answer is the one to the exchange's own command, or empty. -/
theorem atr_of_run {as : List Action} {s : Server}
    (hrun : StepRun.run (step svc) init as = some s) {i : ℕ} {t : VpcdTask}
    (ht : s.tasks[i]? = some t) {sid readerName : String}
    (htarget : t.client.target = (some sid, some readerName)) (n : ℕ) :
    ∃ c xs c' tail, s.traceOf i n = xs.flatMap Exchange.trace ++ tail ∧ Chained c xs c' ∧
      Unanswered c' tail ∧
      ∀ before x later, xs = before ++ x :: later → x.msg = .control .getAtr →
        ∃ as₁ as₂ s₁, as = as₁ ++ as₂ ∧ StepRun.run (step svc) init as₁ = some s₁ ∧
          s₁.traceOf i n =
            before.flatMap Exchange.trace ++ (x.reading ++ [⟨.received x.msg, ()⟩]) ∧
          AtrAnswer sid readerName x ((directoryOf svc as₁).atrOf sid readerName) := by
  have hreach : s.Reachable svc := ⟨as, hrun⟩
  obtain ⟨c, c₁, p, hc, hserves⟩ := hreach.servesTarget i t ht n
  obtain ⟨xs, c', tail, htrace, hchain, hun, -, -⟩ := exchanges_of_serves hserves
  refine ⟨c, xs, c', tail, htrace, hchain, hun, fun before x later hxs hmsg => ?_⟩
  have hx : x.client.target = (some sid, some readerName) := by
    rw [hchain.target_eq x (by rw [hxs]; simp), hc, htarget]
  obtain ⟨session, rest, hhandling, hanswer⟩ := x.looks hmsg hx
  -- the step that looks at the table
  have hprefix : (before.flatMap Exchange.trace ++ (x.reading ++ [⟨.received x.msg, ()⟩])) ++
      [⟨.getSession sid, session⟩] <+: s.traceOf i n := by
    rw [htrace, hxs]
    refine ⟨rest ++ x.writing ++ later.flatMap Exchange.trace ++ tail, ?_⟩
    simp [Exchange.trace, hhandling]
  obtain ⟨as₁, a, as₂, s₁, s₂, rfl, hrun₁, hstep, -, hs₁, hs₂⟩ :=
    StepRun.exists_step_of_prefix (f := fun s => s.traceOf i n)
      (fun _ _ _ hstep => traceOf_step i n hstep) hrun (List.nil_prefix) hprefix
  obtain ⟨outcome, t₁, stream, stream', k, s', -, -, -, hperform, -⟩ :=
    traceOf_new hstep (hs₂.trans (congrArg (· ++ _) hs₁.symm))
  refine ⟨as₁, a :: as₂, s₁, rfl, hrun₁, hs₁, ?_⟩
  have hlooked : session = s₁.shared.getSession sid := (perform_performed hperform).looked_eq
  rw [← directory_eq_of_run hrun₁, ← cachedAtr_getSession, ← hlooked]
  exact hanswer

/-- Another card is reported while vpcd asks for the ATR. -/
def replacedRun : List Action :=
  [.establishSession "s" ⟨"client", "1"⟩, .updateReaderInfo ⟨"s", "r", [0x3B], true⟩,
    .startClient 0, .taskConnect 0 (.ok ⟨[[0, 1], [4]], .unexpectedEof⟩)] ++
  List.replicate 3 (.taskRun 0 .proceed) ++ [.updateReaderInfo ⟨"s", "r", [0x3F], true⟩] ++
  List.replicate 5 (.taskRun 0 .proceed)

/-- In `replacedRun` the ATR of the new card is answered. -/
theorem atr_of_run_replaced :
    ∃ s, StepRun.run (step ⟨"127.0.0.1", 35963, true⟩) init replacedRun = some s ∧
      marks (s.traceOf 0 1) = [.request (.control .getAtr), .response [0x3F]] ∧
      ∃ (xs : List Exchange) (tail : List VpcdEvent),
        s.traceOf 0 1 = xs.flatMap Exchange.trace ++ tail ∧
        ∀ before x later, xs = before ++ x :: later → x.msg = .control .getAtr →
          ∃ as₁ as₂ s₁, replacedRun = as₁ ++ as₂ ∧
            StepRun.run (step ⟨"127.0.0.1", 35963, true⟩) init as₁ = some s₁ ∧
            s₁.traceOf 0 1 =
              before.flatMap Exchange.trace ++ (x.reading ++ [⟨.received x.msg, ()⟩]) ∧
            AtrAnswer "s" "r" x
              ((directoryOf ⟨"127.0.0.1", 35963, true⟩ as₁).atrOf "s" "r") := by
  have hrun : (StepRun.run (step ⟨"127.0.0.1", 35963, true⟩) init replacedRun).map
      (fun s => s.tasks[0]?.map (·.client.target)) = some (some (some "s", some "r")) := by
    decide
  obtain ⟨s, hs, htask⟩ := Option.map_eq_some_iff.mp hrun
  obtain ⟨t, ht, htarget⟩ := Option.map_eq_some_iff.mp htask
  have hmarks : (StepRun.run (step ⟨"127.0.0.1", 35963, true⟩) init replacedRun).map
      (fun s => marks (s.traceOf 0 1)) =
      some [.request (.control .getAtr), .response [0x3F]] := by decide
  rw [hs, Option.map_some, Option.some.injEq] at hmarks
  obtain ⟨c, xs, c', tail, htrace, -, -, hreads⟩ := atr_of_run hs ht htarget 1
  exact ⟨s, hs, hmarks, xs, tail, htrace, hreads⟩

end Server

end RemoteSmartcard
