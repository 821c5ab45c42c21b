/-
# Requests and responses on a connection to vpcd

Every vpcd task of the server runs the message loop, whatever the other tasks
do: `Traced` says so of the log.  With the invariant of the shared state this
gives the discipline of requests and responses, and that each response goes to
the request it was made for.
-/
import RemoteSmartcard.Correlation
import RemoteSmartcard.MessageLoop

namespace RemoteSmartcard

open VpcdOp
open Program hiding pure

/-! ## The connections of a server -/

namespace Server

/-- The operations of the task `i` on its connection `n`. -/
def traceOf (s : Server) (i n : ℕ) : List VpcdEvent :=
  (s.log.filter fun e => e.task = i ∧ e.connection = n).map (·.event)

/-- On every connection the vpcd task runs the message loop. -/
structure Traced (s : Server) : Prop where
  born : ∀ e ∈ s.log, ∃ t, s.tasks[e.task]? = some t ∧ e.connection ≤ t.connections
  current : ∀ i (t : VpcdTask) stream p, s.tasks[i]? = some t → t.phase = .connected stream p →
    ∃ c, Serves VpcdClient.messageLoopBody c (s.traceOf i t.connections) t.client p
  past : ∀ i n, ∃ c c' p, Serves VpcdClient.messageLoopBody c (s.traceOf i n) c' p

/-- At the start nothing has been done. -/
theorem traced_init : init.Traced where
  born := by intro e he; cases he
  current := by intro i t stream p ht; simp [init] at ht
  past := fun i n => ⟨.new, .new, _, Serves.start _ _⟩

/-- The trace of a connection is part of the log. -/
theorem traceOf_congr {s s' : Server} (h : s'.log = s.log) (i n : ℕ) :
    s'.traceOf i n = s.traceOf i n := by
  unfold traceOf
  rw [h]

/-- An entry of the log goes to the trace of its connection. -/
theorem traceOf_record {s s' : Server} {e : LogEntry} (h : s'.log = s.log ++ [e]) (i n : ℕ) :
    s'.traceOf i n =
      s.traceOf i n ++ if e.task = i ∧ e.connection = n then [e.event] else [] := by
  unfold traceOf
  rw [h, List.filter_append, List.map_append, List.filter_singleton]
  split_ifs with he <;> simp [he]

/-- A connection that has not been made yet has no operations. -/
theorem Traced.traceOf_eq_nil {s : Server} (h : s.Traced) {i : ℕ} {t : VpcdTask}
    (ht : s.tasks[i]? = some t) {n : ℕ} (hn : t.connections < n) : s.traceOf i n = [] := by
  unfold traceOf
  rw [List.map_eq_nil_iff, List.filter_eq_nil_iff]
  rintro e he
  rw [decide_eq_true_eq]
  rintro ⟨rfl, rfl⟩
  obtain ⟨t', ht', hle⟩ := h.born e he
  obtain rfl := Option.some.inj (ht.symm.trans ht')
  omega

/-- The tasks and the log stay. -/
theorem Traced.of_same {s s' : Server} (h : s.Traced) (htasks : s'.tasks = s.tasks)
    (hlog : s'.log = s.log) : s'.Traced where
  born := by
    rw [htasks, hlog]
    exact h.born
  current := by
    intro i t stream p ht hp
    rw [traceOf_congr hlog]
    exact h.current i t stream p (htasks ▸ ht) hp
  past := by
    intro i n
    rw [traceOf_congr hlog]
    exact h.past i n

/-- One task moves on, with nothing logged. -/
theorem Traced.of_setTask {s s' : Server} (h : s.Traced) {i : ℕ} {t t' : VpcdTask}
    (ht : s.tasks[i]? = some t) (htasks : s'.tasks = s.tasks.set i t') (hlog : s'.log = s.log)
    (hle : t.connections ≤ t'.connections)
    (hcurrent : ∀ stream p, t'.phase = .connected stream p →
      ∃ c, Serves VpcdClient.messageLoopBody c (s.traceOf i t'.connections) t'.client p) :
    s'.Traced where
  born := by
    intro e he
    obtain ⟨t₀, ht₀, hle₀⟩ := h.born e (hlog ▸ he)
    rw [htasks, List.getElem?_set]
    by_cases hi : i = e.task
    · subst hi
      obtain rfl := Option.some.inj (ht.symm.trans ht₀)
      refine ⟨t', ?_, by omega⟩
      simp [(List.getElem?_eq_some_iff.mp ht).1]
    · exact ⟨t₀, by simp [hi, ht₀], hle₀⟩
  current := by
    intro j t₀ stream p ht₀ hp
    rw [traceOf_congr hlog]
    rw [htasks, List.getElem?_set] at ht₀
    split_ifs at ht₀ with hi hlt
    · cases ht₀
      exact hi ▸ hcurrent stream p hp
    · exact h.current j t₀ stream p ht₀ hp
  past := by
    intro j n
    rw [traceOf_congr hlog]
    exact h.past j n

/-- One task gets the answer to its operation. -/
theorem Traced.of_answer {s s' : Server} (h : s.Traced) {i : ℕ} {t : VpcdTask}
    {stream stream' : TcpStream} {o : VpcdOp} {k : VpcdRet o → VpcdProgram (Bool × VpcdClient)}
    {r : VpcdRet o} (ht : s.tasks[i]? = some t) (hp : t.phase = .connected stream (.op o k))
    (htasks : s'.tasks = s.tasks.set i { t with phase := .connected stream' (k r) })
    (hlog : s'.log = s.log ++ [⟨i, t.connections, ⟨o, r⟩⟩]) : s'.Traced := by
  have hlt := (List.getElem?_eq_some_iff.mp ht).1
  obtain ⟨c, hserves⟩ := h.current i t stream _ ht hp
  have hserves' := hserves.answer r
  have htrace : s'.traceOf i t.connections = s.traceOf i t.connections ++ [⟨o, r⟩] := by
    rw [traceOf_record hlog, if_pos ⟨rfl, rfl⟩]
  rw [← htrace] at hserves'
  -- the operation is logged for this task and its present connection
  have hother : ∀ j n, ¬ (i = j ∧ t.connections = n) → s'.traceOf j n = s.traceOf j n := by
    intro j n hne
    rw [traceOf_record hlog, if_neg hne, List.append_nil]
  constructor
  case born =>
    intro e he
    rw [hlog, List.mem_append, List.mem_singleton] at he
    rw [htasks, List.getElem?_set]
    rcases he with he | rfl
    · obtain ⟨t₀, ht₀, hle₀⟩ := h.born e he
      by_cases hi : i = e.task
      · subst hi
        obtain rfl := Option.some.inj (ht.symm.trans ht₀)
        exact ⟨{ t with phase := .connected stream' (k r) }, by simp [hlt], hle₀⟩
      · exact ⟨t₀, by simp [hi, ht₀], hle₀⟩
    · exact ⟨{ t with phase := .connected stream' (k r) }, by simp [hlt], Nat.le_refl _⟩
  case current =>
    intro j t₀ stream₀ p ht₀ hp₀
    rw [htasks, List.getElem?_set] at ht₀
    split_ifs at ht₀ with hi
    · cases ht₀
      subst hi
      cases hp₀
      exact ⟨c, hserves'⟩
    · rw [hother j t₀.connections fun hc => hi hc.1]
      exact h.current j t₀ stream₀ p ht₀ hp₀
  case past =>
    intro j n
    by_cases hj : i = j ∧ t.connections = n
    · obtain ⟨rfl, rfl⟩ := hj
      exact ⟨c, t.client, _, hserves'⟩
    · rw [hother j n hj]
      exact h.past j n

/-- **Each step** goes on with the loop of its task. -/
theorem Effect.traced {s s' : Server} {a : Action} (h : Effect s a s') (ht : s.Traced) :
    s'.Traced := by
  cases h with
  | @spawn k start hk =>
    refine ⟨?_, ?_, fun i n => ht.past i n⟩
    · intro e he
      obtain ⟨t, hi, hle⟩ := ht.born e he
      exact ⟨t, by
        rw [startClient, List.getElem?_append_left (List.getElem?_eq_some_iff.mp hi).1, hi], hle⟩
    · intro i t stream p hi hp
      rw [startClient, StepRun.getElem?_concat] at hi
      split_ifs at hi
      · cases hi
        cases hp
      · exact ht.current i t stream p hi hp
  | @connected i t stream hi hp =>
    -- a new connection starts with an empty trace
    refine ht.of_setTask hi rfl rfl (Nat.le_succ _) fun stream' p hp' => ?_
    cases hp'
    rw [ht.traceOf_eq_nil hi (Nat.lt_succ_self _)]
    exact ⟨_, Serves.start _ _⟩
  | refused hi hp => exact ht.of_setTask hi rfl rfl (Nat.le_refl _) fun _ _ hp' => by cases hp'
  | wake hi hp => exact ht.of_setTask hi rfl rfl (Nat.le_refl _) fun _ _ hp' => by cases hp'
  | disconnected hi hp =>
    exact ht.of_setTask hi rfl rfl (Nat.le_refl _) fun _ _ hp' => by cases hp'
  | @turn i outcome t stream client hi hp =>
    refine ht.of_setTask hi rfl rfl (Nat.le_refl _) fun stream' p hp' => ?_
    cases hp'
    obtain ⟨c, hserves⟩ := ht.current i t stream _ hi hp
    exact ⟨c, hserves.turn⟩
  | suspend hi hp h =>
    obtain ⟨shared, streams, lock, rfl, -, -⟩ := perform_frame h
    exact ht.of_same rfl rfl
  | answer hi hp h =>
    obtain ⟨shared, streams, lock, rfl, -, -⟩ := perform_frame h
    exact ht.of_answer hi hp rfl rfl
  | _ => exact ht.of_same rfl rfl

/-- In every reachable state each connection has served its loop. -/
theorem Reachable.traced {svc : SmartcardService} {s : Server} (h : s.Reachable svc) :
    s.Traced :=
  StepRun.invariant_reaches (fun _ _ _ hs hstep => (step_effect hstep).traced hs) traced_init h

/-! ## The discipline -/

/-- If an exchange gets a response from the remote client, it is the response to
the command of its own message, sent in this exchange; the exchange answers with
it; and no command that timed out has its command id, short of 2^64 commands. -/
def OwnAnswer (s : Server) (x : Exchange) : Prop :=
  ∀ rx r, (⟨.recvResponse rx, .ok r⟩ : VpcdEvent) ∈ x.handling →
    x.answer = some (x.msg.answerTo r) ∧
    ∃ sid readerName command, ∃ w : Waiter, x.client.sessionId = some sid ∧
      x.client.readerName = some readerName ∧ x.msg.command = some command ∧
      (⟨.sendCommand sid command readerName, some (.ok rx)⟩ : VpcdEvent) ∈ x.handling ∧
      s.shared.waiters[rx]? = some w ∧ w.sessionId = sid ∧
      w.request = ⟨r.commandId, some command, readerName⟩ ∧ w.oneshot.sender = .sent r ∧
      ∀ e ∈ s.log, ∀ rx', e.event = ⟨.recvResponse rx', .error .elapsed⟩ →
        ∃ w', s.shared.waiters[rx']? = some w' ∧ rx' ≠ rx ∧
          (w'.request.commandId = r.commandId → 2 ^ 64 ≤ s.shared.waiters.length)

/-- What is in a trace is in the log. -/
theorem mem_log_of_mem_traceOf {s : Server} {i n : ℕ} {ev : VpcdEvent}
    (h : ev ∈ s.traceOf i n) : ∃ e ∈ s.log, e.event = ev := by
  unfold traceOf at h
  obtain ⟨e, he, rfl⟩ := List.mem_map.mp h
  exact ⟨e, (List.mem_filter.mp he).1, rfl⟩

/-- Two different operations of the log do not await the same receiver. -/
theorem Sound.awaits_ne {s : Server} (hs : s.Sound) {e f : LogEntry} (he : e ∈ s.log)
    (hf : f ∈ s.log) (hne : e ≠ f) {rx rx' : ℕ} (hrx : e.Awaits rx) (hrx' : f.Awaits rx') :
    rx' ≠ rx := by
  rintro rfl
  have : Std.Symm fun e f : LogEntry => ∀ rx, e.Awaits rx → ¬ f.Awaits rx :=
    ⟨fun e f hef rx hf he => hef rx he hf⟩
  exact hs.once.forall he hf hne rx' hrx hrx'

/-- An exchange whose events are in the log is answered with the response to its own
command. -/
theorem ownAnswer_of_log {s : Server} (hs : s.Sound) {x : Exchange}
    (hlog : ∀ ev ∈ x.handling, ∃ e ∈ s.log, e.event = ev) : s.OwnAnswer x := by
  intro rx r hmem
  obtain ⟨sid, readerName, command, hsid, hreader, hcommand, hsend, hanswer⟩ := x.response hmem
  obtain ⟨e, he, hev⟩ := hlog _ hmem
  obtain ⟨f, hf, hfv⟩ := hlog _ hsend
  obtain ⟨w, hw, hws, hwc, hwr⟩ := hs.asked f hf _ _ _ _ hfv
  obtain ⟨w₁, hw₁, -, hsent⟩ := hs.answered e he rx _ hev
  obtain rfl := Option.some.inj (hw.symm.trans hw₁)
  have hid := (hs.consistent.answered rx w r hw (hsent r rfl)).1
  -- a receiver that timed out is another one, since each is awaited once
  refine ⟨hanswer, sid, readerName, command, w, hsid, hreader, hcommand, hsend, hw, hws, ?_,
    hsent r rfl, fun e' he' rx' hev' => ?_⟩
  · rw [hid, ← hwc, ← hwr]
  · obtain ⟨w', hw', -⟩ := hs.answered e' he' rx' _ hev'
    have hne : rx' ≠ rx := by
      refine hs.awaits_ne he he' ?_ (by rw [LogEntry.Awaits, hev]) (by rw [LogEntry.Awaits, hev'])
      rintro rfl
      rw [hev] at hev'
      cases hev'
    refine ⟨w', hw', hne, fun heq => ?_⟩
    by_contra hbound
    exact hne (hs.commandId_injective (Nat.not_le.mp hbound) hw hw' (heq.trans hid))

/-- **Requests and responses.**  In every reachable state the operations on a
connection to vpcd are exchanges, one after the other, and a round not yet
answered.  Each exchange reads one message and hands over one response if the
message is `GetAtr` or an APDU, none else; all but the last are completely
written; and each answers with the response to its own command. -/
theorem request_discipline {svc : SmartcardService} {s : Server} (hs : s.Reachable svc)
    (i n : ℕ) :
    ∃ c xs c' tail, s.traceOf i n = xs.flatMap Exchange.trace ++ tail ∧ Chained c xs c' ∧
      marks (s.traceOf i n) =
        xs.flatMap (fun x => .request x.msg :: x.answer.toList.map .response) ++ marks tail ∧
      (∀ x ∈ xs, x.answer.isSome = x.msg.needsResponse) ∧
      Unanswered c' tail ∧ (marks tail = [] ∨ ∃ msg, marks tail = [.request msg]) ∧
      (∀ x ∈ xs.dropLast, x.Sent) ∧ (tail ≠ [] → ∀ x ∈ xs, x.Sent) ∧
      ∀ x ∈ xs, s.OwnAnswer x := by
  obtain ⟨c, c₁, p, hserves⟩ := hs.traced.past i n
  obtain ⟨xs, c', tail, htrace, hchain, hun, hsent, hlast⟩ := exchanges_of_serves hserves
  refine ⟨c, xs, c', tail, htrace, hchain, ?_, fun x _ => x.isSome_answer, hun, hun.marks, hsent,
    hlast, fun x hx => ownAnswer_of_log hs.sound fun ev hev => ?_⟩
  · rw [htrace, marks_append, marks, List.filterMap_flatMap]
    congr 2
    funext x
    exact x.marks_trace
  · apply mem_log_of_mem_traceOf (i := i) (n := n)
    rw [htrace, List.mem_append, List.mem_flatMap]
    exact Or.inl ⟨x, hx, by simp [Exchange.trace, hev]⟩

/-- The connection of `exchangeRun`: one APDU, answered with its status word. -/
theorem request_discipline_exchange :
    (∃ (xs : List Exchange) (tail : List VpcdEvent), exchangeState.traceOf 0 1 =
      xs.flatMap Exchange.trace ++ tail ∧
      ∀ x ∈ xs, exchangeState.OwnAnswer x) ∧
    marks (exchangeState.traceOf 0 1) =
      [.request (.apdu [0x00, 0xA4]), .response [0x90, 0x00]] := by
  obtain ⟨c, xs, c', tail, htrace, -, -, -, -, -, -, -, hown⟩ :=
    request_discipline reachable_exchangeState 0 1
  exact ⟨⟨xs, tail, htrace, hown⟩, by decide⟩

end Server

end RemoteSmartcard
