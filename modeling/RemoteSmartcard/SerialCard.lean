/-
# A virtual reader is a card

Seen over one of its connections, a virtual reader behaves like a card that is used by one
program: the answers that come from the client are, in the order in which they are given,
the outcomes of calls that the client has made in this order, each for the message it
answers, and no call answers twice.  Whatever the other readers, connections and clients
do, what they have the client carry out is only interleaved with these calls.

The argument is one on time (`StepRun.exists_split_of_prefix`): when an exchange begins, the
command it is going to send has not been accepted yet, so that the call for it comes later
than all calls for the exchanges before it.
-/
import RemoteSmartcard.AnswerOrigin
import RemoteSmartcard.Release

namespace RemoteSmartcard

open VpcdOp
open Program hiding pure

/-- A response of the client has come to the exchange. -/
def Exchange.remote (x : Exchange) : Bool :=
  x.handling.any fun
    | ⟨.recvResponse _, .ok _⟩ => true
    | _ => false

theorem Exchange.remote_iff {x : Exchange} :
    x.remote = true ↔ ∃ rx r, (⟨.recvResponse rx, .ok r⟩ : VpcdEvent) ∈ x.handling := by
  rw [remote, List.any_eq_true]
  constructor
  · rintro ⟨ev, hev, hresponse⟩
    split at hresponse
    · exact ⟨_, _, hev⟩
    · cases hresponse
  · rintro ⟨rx, r, hmem⟩
    exact ⟨_, hmem, rfl⟩

/-- An APDU for which no response has come is answered 6F00. -/
theorem Exchange.answer_of_not_remote {x : Exchange} (hx : x.remote = false) {data : Bytes}
    (hmsg : x.msg = .apdu data) : x.answer = some VpcdClient.noPreciseDiagnosis := by
  have hhandles := x.handles
  rw [hmsg] at hhandles
  obtain ⟨t₁, t₂, out, htr, hforward, hret⟩ := yields_bind_iff.mp hhandles
  obtain ⟨rfl, heq⟩ := yields_pure_iff.mp hret
  rw [List.append_nil] at htr
  have hnone : ∀ rx r, (⟨.recvResponse rx, .ok r⟩ : VpcdEvent) ∉ t₁ := by
    intro rx r hmem
    rw [← htr] at hmem
    rw [Exchange.remote_iff.mpr ⟨rx, r, hmem⟩] at hx
    cases hx
  have hanswer : x.answer = some out := congrArg Prod.fst heq
  exact hanswer.trans (congrArg some (forwardApdu_failure hforward hnone))

namespace System

variable {Sigma : Type} {svc : SmartcardService} {h : (o : PcscOp) → Sigma → PcscRet o × Sigma}

/-! ## The log along a run -/

theorem log_step {y y' : System Sigma} {a : SystemAction Sigma} (hy : y.step svc h a = some y') :
    y'.server.log = y.server.log ∨ ∃ e, y'.server.log = y.server.log ++ [e] := by
  rcases (step_transition hy).server_step with hsame | ⟨b, hb⟩
  · exact Or.inl (congrArg Server.log hsame)
  · rcases (Server.step_effect hb).log with hlog | ⟨_, _, _, _, _, _, _, _, _, _, _, _, _, hlog⟩
    · exact Or.inl hlog
    · exact Or.inr ⟨_, hlog⟩

theorem traceOf_step {y y' : System Sigma} {a : SystemAction Sigma} (i n : ℕ)
    (hy : y.step svc h a = some y') : y'.server.traceOf i n = y.server.traceOf i n ∨
      ∃ ev, y'.server.traceOf i n = y.server.traceOf i n ++ [ev] := by
  rcases log_step hy with hlog | ⟨e, hlog⟩
  · exact Or.inl (Server.traceOf_congr hlog i n)
  · rw [Server.traceOf_record hlog]
    split_ifs
    · exact Or.inr ⟨_, rfl⟩
    · exact Or.inl (List.append_nil _)

/-- What a run adds to the log. -/
theorem exists_log_of_run {y y' : System Sigma} {as : List (SystemAction Sigma)}
    (hrun : StepRun.run (step svc h) y as = some y') :
    ∃ new, y'.server.log = y.server.log ++ new := by
  refine StepRun.invariant_run (P := fun y' => ∃ new, y'.server.log = y.server.log ++ new)
    (fun y₁ a y₂ hP hstep => ?_) ⟨[], (List.append_nil _).symm⟩ hrun
  obtain ⟨new, hnew⟩ := hP
  rcases log_step hstep with hlog | ⟨e, hlog⟩
  · exact ⟨new, hlog.trans hnew⟩
  · exact ⟨new ++ [e], by rw [hlog, hnew, List.append_assoc]⟩

/-- Along a run of the system the channels of the server develop. -/
theorem later_of_run {y y' : System Sigma} {as : List (SystemAction Sigma)}
    (hy : y.Reachable svc h) (hrun : StepRun.run (step svc h) y as = some y') :
    y.server.shared.Later y'.server.shared :=
  (StepRun.invariant_run (P := fun y' => y'.server.Sound ∧ y.server.shared.Later y'.server.shared)
    (fun y₁ a y₂ hP hstep => by
      rcases (step_transition hstep).server_step with hsame | ⟨b, hb⟩
      · rwa [hsame]
      · exact ⟨(Server.step_effect hb).sound hP.1,
          hP.2.trans ((Server.step_effect hb).consistent hP.1).2⟩)
    ⟨hy.server.sound, .refl _⟩ hrun).2

/-! ## The calls in two parts of a run -/

/-- The calls of a run of two parts. -/
theorem executions_append {y y' : System Sigma} {as : List (SystemAction Sigma)}
    (hrun : StepRun.run (step svc h) y as = some y') (bs : List (SystemAction Sigma)) :
    executions svc h y (as ++ bs) = executions svc h y as ++ executions svc h y' bs := by
  unfold executions
  rw [StepRun.record_append hrun, StepRun.record_list]

/-- **A command accepted in the second part** of a run is carried out in this part. -/
theorem mem_executions_of_accepted {d m : Duration} {enabled : Bool} {sigma : Sigma}
    {as bs : List (SystemAction Sigma)} {y y' : System Sigma}
    (hrun : StepRun.run (step svc h) (start d m enabled sigma) as = some y)
    (hrun' : StepRun.run (step svc h) y bs = some y')
    (hbound : y'.server.shared.waiters.length < 2 ^ 64) {e : Execution Sigma}
    (he : e ∈ executions svc h (start d m enabled sigma) (as ++ bs)) {rx : ℕ} {w : Waiter}
    (hw : y'.server.shared.waiters[rx]? = some w) (hrequest : e.request = w.request)
    (hnew : rx ∉ y.server.accepted) : e ∈ executions svc h y bs := by
  rw [executions_append hrun, List.mem_append] at he
  rcases he with he | he
  · -- the request of an earlier call had been accepted, and it has the same id
    have hreach : y.Reachable svc h := ⟨d, m, enabled, sigma, as, hrun⟩
    have hreach' : y'.Reachable svc h :=
      ⟨d, m, enabled, sigma, as ++ bs, by rw [StepRun.run_append, hrun]; exact hrun'⟩
    have hrecorded : ClientProcess.Recorded h y.client
        (executions svc h (start d m enabled sigma) as) :=
      StepRun.invariant_record (P := fun (y : System Sigma) => ClientProcess.Recorded h y.client)
        (fun _ _ _ _ hr hs => (step_transition hs).recorded hr)
        (ClientProcess.recorded_start d m enabled sigma) hrun
    have hexecuted : (e.task, e.request) ∈ y.client.executed := by
      rw [hrecorded.executed]
      exact List.mem_map_of_mem he
    obtain ⟨l, -, t, -, hplaced, -⟩ := hreach.placed_of_executed hexecuted
    obtain ⟨rx', hrx', hon⟩ := List.mem_filterMap.mp hplaced
    obtain ⟨w₁, hw₁, hif⟩ := Option.bind_eq_some_iff.mp hon
    split_ifs at hif
    obtain ⟨w₂, hw₂, hlater⟩ := (later_of_run hreach hrun').waiters rx' w₁ hw₁
    have hsame : w₂.request.commandId = w.request.commandId := by
      rw [hlater.request, Option.some.inj hif, hrequest]
    obtain rfl := hreach'.server.sound.commandId_injective hbound hw hw₂ hsame
    exact absurd hrx' hnew
  · exact he

/-- The receivers of the commands that a connection sends from some point on have not been
handed out before. -/
theorem not_accepted_of_traceOf {y y' : System Sigma} {as : List (SystemAction Sigma)}
    (hy' : y'.Reachable svc h) (hrun : StepRun.run (step svc h) y as = some y') {i n : ℕ}
    {tr : List VpcdEvent} (htr : y'.server.traceOf i n = y.server.traceOf i n ++ tr)
    {sid readerName : String} {command : Command} {rx : ℕ}
    (hmem : (⟨.sendCommand sid command readerName, some (.ok rx)⟩ : VpcdEvent) ∈ tr) :
    rx ∉ y.server.accepted := by
  obtain ⟨new, hnew⟩ := exists_log_of_run hrun
  have htrace : tr = (new.filter fun e => e.task = i ∧ e.connection = n).map (·.event) := by
    rw [Server.traceOf, hnew, List.filter_append, List.map_append] at htr
    exact (List.append_cancel_left htr).symm
  rw [htrace] at hmem
  obtain ⟨e, he, hev⟩ := List.mem_map.mp hmem
  have haccepted : rx ∈ new.filterMap fun e => acceptedBy e.event.op e.event.answer := by
    refine List.mem_filterMap.mpr ⟨e, (List.mem_filter.mp he).1, ?_⟩
    rw [hev]
    rfl
  have hincreasing := hy'.server.ordered.increasing
  rw [Server.accepted, hnew, List.filterMap_append, List.pairwise_append] at hincreasing
  exact fun hold => absurd (hincreasing.2.2 rx hold rx haccepted) (lt_irrefl rx)

/-! ## The exchanges of a connection -/

/-- The exchanges on a connection for which responses have come are answered by calls of the
run, in the order of the calls. -/
theorem exists_calls_of_exchanges {d m : Duration} {enabled : Bool} {sigma : Sigma}
    {as : List (SystemAction Sigma)} {y : System Sigma} {sid : String}
    (hrun : StepRun.run (step svc h) (start d m enabled sigma) as = some y)
    (hhonest : StepRun.StepsMeet (step svc h) (HonestOthers sid) (start d m enabled sigma) as)
    (hbound : y.server.shared.waiters.length < 2 ^ 64) {i n : ℕ}
    (hsid : ∀ sid' command readerName r,
      (⟨.sendCommand sid' command readerName, r⟩ : VpcdEvent) ∈ y.server.traceOf i n →
        sid' = sid)
    {xs : List Exchange} {tail : List VpcdEvent}
    (htrace : y.server.traceOf i n = xs.flatMap Exchange.trace ++ tail) :
    ∃ calls, List.Sublist calls (executions svc h (start d m enabled sigma) as) ∧
      List.Forall₂ (AnsweredBy h) (xs.filter Exchange.remote) calls := by
  induction xs using List.reverseRecOn generalizing as y tail with
  | nil => exact ⟨[], List.nil_sublist _, .nil⟩
  | append_singleton xs x ih =>
    have hreach : y.Reachable svc h := ⟨d, m, enabled, sigma, as, hrun⟩
    rw [List.flatMap_append, List.flatMap_singleton, List.append_assoc] at htrace
    -- the run up to where the exchange begins
    obtain ⟨as₁, as₂, y₁, rfl, hrun₁, hrun₂, htrace₁⟩ := StepRun.exists_split_of_prefix
      (f := fun y : System Sigma => y.server.traceOf i n) (fun _ _ _ => traceOf_step i n) hrun
      List.nil_prefix (htrace ▸ List.prefix_append (xs.flatMap Exchange.trace) _)
    have hpast : y.server.traceOf i n = y₁.server.traceOf i n ++ (x.trace ++ tail) := by
      rw [htrace, htrace₁]
    have hreach₁ : y₁.Reachable svc h := ⟨d, m, enabled, sigma, as₁, hrun₁⟩
    obtain ⟨calls, hcalls, hanswered⟩ := ih hrun₁ hhonest.of_append
      ((later_of_run hreach₁ hrun₂).length_le.trans_lt hbound)
      (fun sid' command readerName r hmem => hsid sid' command readerName r
        (hpast ▸ List.mem_append_left _ hmem)) (htrace₁.trans (List.append_nil _).symm)
    rw [List.filter_append, executions_append hrun₁]
    cases hx : x.remote with
    | false =>
      refine ⟨calls, hcalls.trans (List.sublist_append_left _ _), ?_⟩
      rwa [List.filter_singleton, hx, cond_false, List.append_nil]
    | true =>
      obtain ⟨rx, r, hmem⟩ := Exchange.remote_iff.mp hx
      have hhandling : ∀ ev ∈ x.handling, ev ∈ x.trace ++ tail := fun ev hev =>
        List.mem_append_left _ (List.mem_append_right _
          (List.mem_cons_of_mem _ (List.mem_append_left _ hev)))
      have hlogged : ∀ ev ∈ x.handling, ev ∈ y.server.traceOf i n := fun ev hev =>
        hpast ▸ List.mem_append_right _ (hhandling ev hev)
      obtain ⟨e, he, hmatch, command, readerName, w, hsend, hw, hrequest⟩ :=
        answeredBy_of_response hrun hhonest hbound
          (fun ev hev => Server.mem_log_of_mem_traceOf (hlogged ev hev))
          (fun sid' command readerName r hev => hsid _ _ _ _ (hlogged _ hev)) hmem
      have hnew := not_accepted_of_traceOf hreach hrun₂ hpast (hhandling _ hsend)
      have hlate := mem_executions_of_accepted hrun₁ hrun₂ hbound he hw hrequest hnew
      refine ⟨calls ++ [e], hcalls.append (List.singleton_sublist.mpr hlate),
        List.rel_append hanswered ?_⟩
      rw [List.filter_singleton, hx]
      exact .cons hmatch .nil

/-- **A virtual reader is a card.**  In every run of server and client in which nobody but
the client answers for the session: the operations on a connection of a vpcd task of the
session are exchanges, one after the other, and a round not yet answered; and there are
calls of `process_command` among those of the run, in their order, such that the exchanges
to which a response has come are answered by these calls, the first by the first, the
second by the second and so on, each with the outcome on the card of the very command that
it asked for.  An APDU to which no response has come is answered 6F00. -/
theorem serial_of_run {d m : Duration} {enabled : Bool} {sigma : Sigma}
    {as : List (SystemAction Sigma)} {y : System Sigma} {sid readerName : String}
    (hrun : StepRun.run (step svc h) (start d m enabled sigma) as = some y)
    (hhonest : StepRun.StepsMeet (step svc h) (HonestOthers sid) (start d m enabled sigma) as)
    (hbound : y.server.shared.waiters.length < 2 ^ 64) {i : ℕ} {t : VpcdTask}
    (ht : y.server.tasks[i]? = some t)
    (htarget : t.client.target = (some sid, some readerName)) (n : ℕ) :
    ∃ c xs c' tail calls, y.server.traceOf i n = xs.flatMap Exchange.trace ++ tail ∧
      Chained c xs c' ∧ Unanswered c' tail ∧
      List.Sublist calls (executions svc h (start d m enabled sigma) as) ∧
      List.Forall₂ (AnsweredBy h) (xs.filter Exchange.remote) calls ∧
      ∀ x ∈ xs, x.remote = false → ∀ data, x.msg = .apdu data →
        x.answer = some VpcdClient.noPreciseDiagnosis := by
  have hreach : y.Reachable svc h := ⟨d, m, enabled, sigma, as, hrun⟩
  obtain ⟨c, c₁, p, hserves⟩ := hreach.server.traced.past i n
  obtain ⟨xs, c', tail, htrace, hchain, hun, -, -⟩ := exchanges_of_serves hserves
  have hsid : ∀ sid' command readerName' r,
      (⟨.sendCommand sid' command readerName', r⟩ : VpcdEvent) ∈ y.server.traceOf i n →
        sid' = sid := by
    intro sid' command readerName' r hmem
    obtain ⟨e, he, hev⟩ := List.mem_map.mp hmem
    obtain ⟨he, hei⟩ := List.mem_filter.mp he
    obtain ⟨t', ht', hsame⟩ := hreach.server.onTarget e he
    rw [(of_decide_eq_true hei).1, ht] at ht'
    obtain rfl := Option.some.inj ht'
    have heq := htarget.symm.trans (hsame _ _ _ _ hev)
    exact (Option.some.inj (Prod.mk.inj heq).1).symm
  obtain ⟨calls, hcalls, hanswered⟩ :=
    exists_calls_of_exchanges hrun hhonest hbound hsid htrace
  exact ⟨c, xs, c', tail, calls, htrace, hchain, hun, hcalls, hanswered,
    fun x _ hx data hmsg => x.answer_of_not_remote hx hmsg⟩

/-- `relayRun`, and what the vpcd task does next: it gets the response and passes it on. -/
def answeredRun : List (SystemAction ℕ) :=
  relayRun ++ List.replicate 5 (.server (.taskRun 0 .proceed))

/-- The action is no message of others to the server. -/
def quiet : SystemAction Sigma → Bool
  | .server (.sendCommandResponse _) => false
  | .server (.streamNext _ _) => false
  | _ => true

theorem honestOthers_of_quiet {sid : String} {y : System Sigma} {as : List (SystemAction Sigma)}
    (hquiet : as.all quiet = true) :
    StepRun.StepsMeet (step svc h) (HonestOthers sid) y as := by
  induction as generalizing y with
  | nil => trivial
  | cons a as ih =>
    rw [List.all_cons, Bool.and_eq_true] at hquiet
    refine ⟨?_, fun y' _ => ih hquiet.2⟩
    cases a with
    | server b =>
      cases b with
      | sendCommandResponse r => cases hquiet.1
      | streamNext j item => cases hquiet.1
      | _ => trivial
    | _ => trivial

/-- In `answeredRun` the virtual reader has answered one APDU. -/
theorem serial_of_run_answeredRun :
    ∃ y, StepRun.run (step ⟨"127.0.0.1", 35963, true⟩ (flakyCard 9 false))
        (start (.fromSecs 1) (.fromSecs 60) true 0) answeredRun = some y ∧
      marks (y.server.traceOf 0 1) = [.request (.apdu [0x00, 0xA4]), .response [0x90, 0x00]] ∧
      ∃ (xs : List Exchange) (tail : List VpcdEvent) (calls : List (Execution ℕ)),
        y.server.traceOf 0 1 = xs.flatMap Exchange.trace ++ tail ∧
        List.Sublist calls (executions ⟨"127.0.0.1", 35963, true⟩ (flakyCard 9 false)
          (start (.fromSecs 1) (.fromSecs 60) true 0) answeredRun) ∧
        List.Forall₂ (AnsweredBy (flakyCard 9 false)) (xs.filter Exchange.remote) calls := by
  have hrun : (StepRun.run (step ⟨"127.0.0.1", 35963, true⟩ (flakyCard 9 false))
      (start (.fromSecs 1) (.fromSecs 60) true 0) answeredRun).map
      (fun y => (y.server.shared.waiters.length, y.server.tasks[0]?.map (·.client.target),
        marks (y.server.traceOf 0 1))) =
      some (1, some (some "s", some "r"),
        [.request (.apdu [0x00, 0xA4]), .response [0x90, 0x00]]) := by
    decide
  obtain ⟨y, hy, heq⟩ := Option.map_eq_some_iff.mp hrun
  obtain ⟨hlength, heq⟩ := Prod.mk.inj heq
  obtain ⟨htask, hmarks⟩ := Prod.mk.inj heq
  obtain ⟨t, ht, htarget⟩ := Option.map_eq_some_iff.mp htask
  obtain ⟨-, xs, -, tail, calls, htrace, -, -, hcalls, hanswered, -⟩ :=
    serial_of_run hy (honestOthers_of_quiet (by decide)) (by rw [hlength]; decide) ht htarget 1
  exact ⟨y, hy, hmarks, xs, tail, calls, htrace, hcalls, hanswered⟩

end System

end RemoteSmartcard
