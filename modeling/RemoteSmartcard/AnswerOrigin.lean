/-
# Where the answers come from

The counterpart of `CommandOrigin`: what vpcd is answered for a session of the client is
what the client's own card has answered to this very request, or a text the server makes
up for a failure, as long as nobody else answers for the session (`HonestOthers`).

`executions` is the record of the calls of `process_command` along a run, each with the
card connections and the surroundings it found; so the response to a command is tied to
the outcome of the card at that moment, and not only to the id of the command.
-/
import RemoteSmartcard.AtrCache
import RemoteSmartcard.CommandOrigin
import RemoteSmartcard.EndToEnd

namespace RemoteSmartcard

open VpcdOp
open Program hiding pure

/-! ## The responses the server handles -/

namespace Server

/-- The response that an action has handled, with the session it is handled for. -/
def handledBy (s : Server) : Action → List (String × CommandResponse)
  | .sendCommandResponse response =>
    if response.commandId = 0 then [] else [(response.sessionId, response)]
  | .streamTurn i =>
    match s.bindingOf i with
    | some (some sid, .responding response) => [(sid, response)]
    | _ => []
  | _ => []

/-- `handle_response` notes the response that it handles. -/
theorem handled_handleResponse (t : Shared) (sid : String) (response : CommandResponse) :
    ∀ e ∈ (t.handleResponse sid response).2.handled, e ∈ t.handled ∨ e = (sid, response) := by
  intro e he
  rcases Shared.handleResponse_cases t sid response with
    heq | heq | ⟨session, channel, tx, -, -, -, heq⟩
  · rw [heq] at he
    exact Or.inl he
  · rw [heq] at he
    exact (List.mem_cons.mp he).symm
  · rw [heq] at he
    exact (List.mem_cons.mp he).symm

/-- No operation of a vpcd task handles a response. -/
theorem Performed.handled {s s' : Server} {i : ℕ} {outcome : Outcome} {o : VpcdOp}
    {answer : Option (VpcdRet o)} (h : Performed s i outcome o answer s') :
    s'.shared.handled = s.shared.handled := by
  have hhanded : ∀ {s₁ s₂ : Server} {b : BlockedSend}
      {answer : Option (Option (Except String ℕ))}, Handed s₁ b answer s₂ →
      s₂.shared.handled = s₁.shared.handled := by
    intro s₁ s₂ b answer h
    cases h <;> rfl
  cases h with
  | @issued _ _ _ issued _ _ hlock hissue h =>
    obtain ⟨session, channel, -, -, -, -, -, hshared⟩ := Shared.issue_eq_ok hissue
    exact (hhanded h).trans (show issued.shared.handled = _ by rw [hshared])
  | resumed hlock htask h => exact hhanded h
  | _ => rfl

/-- **What has been handled** after a step was handled before, or by the action. -/
theorem Transition.handled {svc : SmartcardService} {s s' : Server} {a : Action}
    (h : Transition svc s a s') :
    ∀ e ∈ s'.shared.handled, e ∈ s.shared.handled ∨ e ∈ s.handledBy a := by
  have hsame : ∀ {t : Shared}, t.handled = s.shared.handled →
      ∀ e ∈ t.handled, e ∈ s.shared.handled ∨ e ∈ s.handledBy a := by
    intro t ht e he
    exact Or.inl (ht ▸ he)
  have hupdate : ∀ (sid : String) (f : Session → Session),
      (s.shared.updateSession sid f).handled = s.shared.handled := by
    intro sid f
    unfold Shared.updateSession
    split <;> rfl
  cases h with
  | report hlock hs => exact hsame (hupdate ..)
  | heartbeat hlock => exact hsame (hupdate ..)
  | remove hlock =>
    refine hsame ?_
    show (s.shared.removeSession _).handled = _
    unfold Shared.removeSession
    split <;> rfl
  | @handle response hlock hid =>
    intro e he
    refine (handled_handleResponse _ _ _ e he).imp_right fun heq => ?_
    rw [heq, handledBy, if_neg hid]
    exact List.mem_singleton_self _
  | register hlock hi hp hs =>
    refine hsame ?_
    show (s.shared.setCommandChannel _ _).handled = _
    unfold Shared.setCommandChannel
    split <;> rfl
  | @respond i st response sid hlock hi hp hsid =>
    intro e he
    refine (handled_handleResponse _ _ _ e he).imp_right fun heq => ?_
    rw [heq, handledBy, bindingOf_of_getElem? hi, hsid, hp]
    exact List.mem_singleton_self _
  | cleanup hlock hi hp hsid =>
    refine hsame ?_
    show (s.shared.clearCommandChannel _).handled = _
    unfold Shared.clearCommandChannel
    split <;> rfl
  | suspend ht hp hperform h => exact hsame h.handled
  | answer ht hp hperform h => exact hsame h.handled
  | _ => exact hsame rfl

/-- No response to a command has come, or is at work, on a stream of the session. -/
def Silent (s : Server) (sid : String) : Prop :=
  ∀ j p, s.bindingOf j = some (some sid, p) →
    (∀ r, p = .registering r → r.commandId = 0) ∧ ∀ r, p ≠ .responding r

/-- At the start there are no streams. -/
theorem silent_init (sid : String) : init.Silent sid := by
  intro j p hj
  simp [init, bindingOf] at hj

/-- A message that comes on a stream of the session is no response to a command. -/
def SilentOn (s : Server) (sid : String) : Action → Prop
  | .streamNext j (some (.ok r)) =>
    ∀ x, s.sessionOf j = some x → x.or (some r.sessionId) = some sid → r.commandId = 0
  | _ => True

/-- After a registration by a message that is no response, the stream waits. -/
theorem afterRegistration_zero {r : CommandResponse} (h : r.commandId = 0) :
    afterRegistration r = .waiting := by
  unfold afterRegistration
  rw [h]
  rfl

/-- The streams of the session stay silent as long as nothing else comes on them. -/
theorem Effect.silent {s s' : Server} {a : Action} (h : Effect s a s') {sid : String}
    (ha : s.SilentOn sid a) (hs : s.Silent sid) : s'.Silent sid := by
  -- one handler task takes a step
  have hset : ∀ {s₁ : Server} {i : ℕ} {st st' : CommandStream}, s.streams[i]? = some st →
      s₁.streams = s.streams.set i st' →
      (st'.sessionId = some sid → (∀ r, st'.phase = .registering r → r.commandId = 0) ∧
        ∀ r, st'.phase ≠ .responding r) → s₁.Silent sid := by
    intro s₁ i st st' hi hset hst' j p hj
    rw [bindingOf_set hi hset] at hj
    split_ifs at hj
    · obtain ⟨hsid, rfl⟩ := Prod.mk.injEq .. ▸ Option.some.inj hj
      exact hst' hsid
    · exact hs j p hj
  cases h with
  | newStream =>
    intro j p hj
    rw [bindingOf_commandChannel] at hj
    split_ifs at hj
    · cases hj
    · exact hs j p hj
  | @item i st item hi hp =>
    refine hset hi rfl ?_
    match item with
    | none => exact fun _ => ⟨fun r hr => (by cases hr), fun r hr => (by cases hr)⟩
    | some (.error e) => exact fun _ => ⟨fun r hr => (by cases hr), fun r hr => (by cases hr)⟩
    | some (.ok response) =>
      have hx : s.sessionOf i = some st.sessionId := by
        rw [sessionOf, hi]
        rfl
      have hzero := ha st.sessionId hx
      obtain ⟨queue, session, phase⟩ := st
      cases session with
      | none =>
        intro hsid
        exact ⟨fun r hr => by cases hr; exact hzero hsid, fun r hr => by cases hr⟩
      | some sid' =>
        intro hsid
        have hwaiting := afterRegistration_zero (hzero hsid)
        have hphase : ∀ p : StreamPhase, afterRegistration response = p → .waiting = p :=
          fun p hp => hwaiting.symm.trans hp
        exact ⟨fun r hr => (by cases hphase _ hr), fun r hr => (by cases hphase _ hr)⟩
  | @take i st request queue hi hrecv =>
    exact hset hi rfl fun hsid => hs i st.phase ((bindingOf_of_getElem? hi).trans (by rw [← hsid]))
  | @close i st hi =>
    exact hset hi rfl fun hsid => hs i st.phase ((bindingOf_of_getElem? hi).trans (by rw [← hsid]))
  | @register i st response hi hp hsome =>
    refine hset hi rfl fun hsid => ?_
    have hsilent := hs i st.phase ((bindingOf_of_getElem? hi).trans (by rw [← hsid]))
    have hwaiting := afterRegistration_zero (hsilent.1 response hp)
    refine ⟨fun r hr => ?_, fun r hr => ?_⟩
    · exact absurd (hwaiting.symm.trans hr) (by simp)
    · exact absurd (hwaiting.symm.trans hr) (by simp)
  | unknown hi hp hnone =>
    exact hset hi rfl fun _ => ⟨fun r hr => (by cases hr), fun r hr => (by cases hr)⟩
  | respond hi hp hsid =>
    exact hset hi rfl fun _ => ⟨fun r hr => (by cases hr), fun r hr => (by cases hr)⟩
  | cleanup hi hp hsid hlock =>
    exact hset hi rfl fun _ => ⟨fun r hr => (by cases hr), fun r hr => (by cases hr)⟩
  | unbound hi hp hsid =>
    exact hset hi rfl fun _ => ⟨fun r hr => (by cases hr), fun r hr => (by cases hr)⟩
  | suspend ht hp h =>
    intro j p hj
    exact hs j p ((perform_bindingOf h j).symm.trans hj)
  | answer ht hp h =>
    intro j p hj
    exact hs j p ((perform_bindingOf h j).symm.trans hj)
  | _ => exact hs

end Server

/-! ## The calls of `process_command` -/

/-- A call of `process_command` by a task of the client, with what it found. -/
structure Execution (Sigma : Type) where
  task : ℕ
  sessionId : String
  request : CommandRequest
  cards : CardConnections
  surroundings : Sigma

/-- The response that the call came to. -/
def Execution.response {Sigma : Type} (h : (o : PcscOp) → Sigma → PcscRet o × Sigma)
    (e : Execution Sigma) : CommandResponse :=
  (exec h (GrpcClient.processCommand e.cards e.sessionId e.request) e.surroundings).1.1

/-- The response of a call carries its outcome. -/
theorem Execution.response_eq {Sigma : Type} (h : (o : PcscOp) → Sigma → PcscRet o × Sigma)
    (e : Execution Sigma) : e.response h = GrpcClient.responseTo e.sessionId e.request
      (exec h (GrpcClient.handleCommand e.cards e.request.readerName e.request.command)
        e.surroundings).1.1 :=
  ClientProcess.response_processCommand h e.cards e.sessionId e.request e.surroundings

namespace ClientProcess

variable {Sigma : Type} {h : (o : PcscOp) → Sigma → PcscRet o × Sigma}

/-- The call of `process_command` that an action makes. -/
def execution (s : ClientProcess Sigma) : ClientAction Sigma → Option (Execution Sigma)
  | .process k =>
    match s.tasks[k]? with
    | some t =>
      match t.phase with
      | .processing request => some ⟨k, t.sessionId, request, s.cards, s.surroundings⟩
      | _ => none
    | none => none
  | _ => none

/-- The calls `xs` account for the commands carried out and for the responses, sent or
about to be sent. -/
structure Recorded (h : (o : PcscOp) → Sigma → PcscRet o × Sigma) (s : ClientProcess Sigma)
    (xs : List (Execution Sigma)) : Prop where
  executed : s.executed = xs.map fun e => (e.task, e.request)
  prepared : ∀ (k : ℕ) (t : CommandTask) r, s.tasks[k]? = some t → t.phase = .responding r →
    ∃ e ∈ xs, e.task = k ∧ e.response h = r
  answered : ∀ k r, (k, r) ∈ s.answered → ∃ e ∈ xs, e.task = k ∧ e.response h = r

/-- At the start no call has been made. -/
theorem recorded_start (d m : Duration) (enabled : Bool) (sigma : Sigma) :
    Recorded h (start d m enabled sigma) [] where
  executed := rfl
  prepared := by intro k t r ht; simp [start] at ht
  answered := by intro k r hr; simp [start] at hr

/-- The tasks do not respond after the step unless they did before, and the records of
the process stay. -/
theorem Recorded.of_tasks {s s' : ClientProcess Sigma} {xs : List (Execution Sigma)}
    (hr : Recorded h s xs) (hexecuted : s'.executed = s.executed)
    (hanswered : s'.answered = s.answered)
    (htasks : ∀ (k : ℕ) (t : CommandTask) r, s'.tasks[k]? = some t → t.phase = .responding r →
      ∃ t' : CommandTask, s.tasks[k]? = some t' ∧ t'.phase = .responding r) :
    Recorded h s' xs where
  executed := hexecuted.trans hr.executed
  prepared := by
    intro k t r ht hp
    obtain ⟨t', ht', hp'⟩ := htasks k t r ht hp
    exact hr.prepared k t' r ht' hp'
  answered := by
    rw [hanswered]
    exact hr.answered

/-- A task put into another phase prepares no response. -/
theorem responding_of_setPhase {s : ClientProcess Sigma} {j : ℕ} {u : CommandTask}
    {phase : CommandTaskPhase} (hphase : ∀ r, phase ≠ .responding r) :
    ∀ (k : ℕ) (t : CommandTask) r, (s.setPhase j u phase).tasks[k]? = some t →
      t.phase = .responding r →
      ∃ t' : CommandTask, s.tasks[k]? = some t' ∧ t'.phase = .responding r := by
  intro k t r ht hp
  have htask : (s.tasks.set j { u with phase := phase })[k]? = some t := ht
  rw [List.getElem?_set] at htask
  split_ifs at htask
  · cases htask
    exact absurd hp (hphase r)
  · exact ⟨t, htask, hp⟩

/-- **Each step** of the client records the call that it makes. -/
theorem Transition.recorded {s s' : ClientProcess Sigma} {a : ClientAction Sigma}
    (ht : Transition h s a s') {xs : List (Execution Sigma)} (hr : Recorded h s xs) :
    Recorded h s' (xs ++ (s.execution a).toList) := by
  have hnone : Recorded h s' xs → s.execution a = none →
      Recorded h s' (xs ++ (s.execution a).toList) := by
    intro hs' hexecution
    rw [hexecution, Option.toList_none, List.append_nil]
    exact hs'
  have hsame : ∀ {s₁ : ClientProcess Sigma}, s₁.tasks = s.tasks → s₁.executed = s.executed →
      s₁.answered = s.answered → Recorded h s₁ xs := by
    intro s₁ htasks hexecuted hanswered
    refine hr.of_tasks hexecuted hanswered fun k t r ht hp => ⟨t, ?_, hp⟩
    rw [← htasks]
    exact ht
  cases ht with
  | @started sessionId hp =>
    refine hnone (hr.of_tasks rfl rfl fun k t r ht hp => ?_) rfl
    rw [StepRun.getElem?_concat] at ht
    split_ifs at ht
    · cases ht
      cases hp
    · exact ⟨t, ht, hp⟩
  | event hp he =>
    refine hnone ?_ rfl
    unfold serve
    dsimp only
    split <;> exact hsame rfl rfl rfl
  | @opened j t success hj hp =>
    refine hnone (hr.of_tasks rfl rfl (responding_of_setPhase fun r => ?_)) rfl
    cases success <;> simp
  | command hj hp =>
    exact hnone (hr.of_tasks rfl rfl (responding_of_setPhase fun r => by simp)) rfl
  | ended hj hp hitem =>
    exact hnone (hr.of_tasks rfl rfl (responding_of_setPhase fun r => by simp)) rfl
  | @processed j t request hj hp =>
    have hexecution : s.execution (.process j) =
        some ⟨j, t.sessionId, request, s.cards, s.surroundings⟩ := by
      simp only [execution, hj, hp]
    rw [hexecution, Option.toList_some]
    refine ⟨?_, fun k t' r ht' hp' => ?_, fun k r hkr => ?_⟩
    · show s.executed ++ [(j, request)] = _
      rw [List.map_append, hr.executed]
      rfl
    · -- the task that has carried out the command, or another one
      have htask : (s.tasks.set j _)[k]? = some t' := ht'
      rw [List.getElem?_set] at htask
      split_ifs at htask with hjk
      · cases htask
        cases hp'
        exact ⟨_, List.mem_append_right _ (List.mem_singleton_self _), hjk, rfl⟩
      · obtain ⟨e, he, hek, hresponse⟩ := hr.prepared k t' r htask hp'
        exact ⟨e, List.mem_append_left _ he, hek, hresponse⟩
    · obtain ⟨e, he, hek, hresponse⟩ := hr.answered k r hkr
      exact ⟨e, List.mem_append_left _ he, hek, hresponse⟩
  | @responded j t response hj hp =>
    refine hnone ⟨hr.executed, fun k t' r ht' hp' => ?_, fun k r hkr => ?_⟩ rfl
    · obtain ⟨u, hu, hup⟩ := responding_of_setPhase (fun r => by simp) k t' r ht' hp'
      exact hr.prepared k u r hu hup
    · rcases List.mem_append.mp hkr with hkr | hkr
      · exact hr.answered k r hkr
      · cases List.mem_singleton.mp hkr
        exact hr.prepared j t response hj hp
  | _ => exact hnone (hsame rfl rfl rfl) rfl

/-- Nothing sent is taken back. -/
theorem Transition.answered_subset {s s' : ClientProcess Sigma} {a : ClientAction Sigma}
    (ht : Transition h s a s') : s.answered ⊆ s'.answered := by
  cases ht with
  | event hp he =>
    unfold serve
    dsimp only
    split <;> exact List.Subset.refl _
  | responded hj hp => exact List.subset_append_left _ _
  | _ => exact List.Subset.refl _

end ClientProcess

/-! ## Server and client -/

namespace System

variable {Sigma : Type} {svc : SmartcardService} {h : (o : PcscOp) → Sigma → PcscRet o × Sigma}

/-- The call of `process_command` that an action makes. -/
def execution (y : System Sigma) : SystemAction Sigma → Option (Execution Sigma)
  | .client a => y.client.execution a
  | _ => none

/-- The calls of `process_command` in a run. -/
def executions (svc : SmartcardService) (h : (o : PcscOp) → Sigma → PcscRet o × Sigma)
    (y : System Sigma) (as : List (SystemAction Sigma)) : List (Execution Sigma) :=
  StepRun.record (step svc h) (fun y a xs => xs ++ (y.execution a).toList) y as []

/-- A step of the system records the call that its client makes. -/
theorem Transition.recorded {y y' : System Sigma} {a : SystemAction Sigma}
    (hy : Transition svc h y a y') {xs : List (Execution Sigma)}
    (hr : ClientProcess.Recorded h y.client xs) :
    ClientProcess.Recorded h y'.client (xs ++ (y.execution a).toList) := by
  have hclient : ∀ {b : ClientAction Sigma} {client : ClientProcess Sigma},
      y.client.step h b = some client → y.client.execution b = y.execution a →
      ClientProcess.Recorded h client (xs ++ (y.execution a).toList) := by
    intro b client hc hb
    rw [← hb]
    exact (ClientProcess.step_transition hc).recorded hr
  have hstays : y.execution a = none →
      ClientProcess.Recorded h y.client (xs ++ (y.execution a).toList) := by
    intro hnone
    rw [hnone, Option.toList_none, List.append_nil]
    exact hr
  cases hy with
  | client ha hc => exact hclient hc rfl
  | establishSession hs hc => exact hclient hc rfl
  | registerReader hp hs hc => exact hclient hc rfl
  | heartbeat hs hc => exact hclient hc rfl
  | openStream hs hc => exact hclient hc rfl
  | deliver hl hf hc => exact hclient hc rfl
  | respond hs hc => exact hclient hc rfl
  | _ => exact hstays rfl

/-- Nobody but the client answers for the session. -/
def HonestOthers (sid : String) (y : System Sigma) : SystemAction Sigma → Prop
  | .server (.sendCommandResponse r) => r.commandId = 0 ∨ r.sessionId ≠ sid
  | .server a => y.server.SilentOn sid a
  | _ => True

/-- What has been handled for the session was sent by the client, and nothing is at work
on its streams. -/
structure Unforged (sid : String) (y : System Sigma) : Prop where
  handled : ∀ r, (sid, r) ∈ y.server.shared.handled →
    r.sessionId = sid ∧ ∃ k, (k, r) ∈ y.client.answered
  silent : y.server.Silent sid

/-- At the start nothing has been handled. -/
theorem unforged_start (sid : String) (d m : Duration) (enabled : Bool) (sigma : Sigma) :
    Unforged sid (start d m enabled sigma) where
  handled := by intro r hr; cases hr
  silent := Server.silent_init sid

/-- The server takes a step by which only responses of the client are handled. -/
theorem Unforged.of_step {y y' : System Sigma} {sid : String} (hu : y.Unforged sid)
    {b : Action} (hs : Server.step svc y.server b = some y'.server)
    (hsilent : y.server.SilentOn sid b) (hanswered : y.client.answered ⊆ y'.client.answered)
    (hhandled : ∀ r, b = .sendCommandResponse r → r.commandId ≠ 0 → r.sessionId = sid →
      ∃ k, (k, r) ∈ y'.client.answered) : y'.Unforged sid where
  silent := (Server.step_effect hs).silent hsilent hu.silent
  handled := by
    intro r hr
    rcases (Server.step_transition hs).handled _ hr with hr | hr
    · obtain ⟨hsid, k, hk⟩ := hu.handled r hr
      exact ⟨hsid, k, hanswered hk⟩
    · cases b with
      | sendCommandResponse response =>
        dsimp only [Server.handledBy] at hr
        split_ifs at hr with hzero
        · cases hr
        · obtain ⟨rfl, rfl⟩ := Prod.mk.inj (List.mem_singleton.mp hr)
          exact ⟨rfl, hhandled _ rfl hzero rfl⟩
      | streamTurn i =>
        dsimp only [Server.handledBy] at hr
        split at hr
        · rename_i hbinding
          obtain ⟨rfl, rfl⟩ := Prod.mk.inj (List.mem_singleton.mp hr)
          exact absurd rfl ((hu.silent i _ hbinding).2 _)
        · cases hr
      | _ => cases hr

/-- The response that a task sends is the one it stands with. -/
theorem step_respond {y y' : System Sigma} {k : ℕ} (hy : y.step svc h (.respond k) = some y') :
    ∃ response server client, Server.step svc y.server (.sendCommandResponse response) =
      some server ∧ y.client.step h (.respond k) = some client ∧
      (k, response) ∈ client.answered ∧ y' = { y with server := server, client := client } := by
  simp only [step] at hy
  split at hy
  · rename_i t ht
    split at hy
    · rename_i response hp
      obtain ⟨server, client, hs, hc, rfl⟩ := both_eq_some hy
      refine ⟨response, server, client, hs, hc, ?_, rfl⟩
      cases ClientProcess.step_transition hc with
      | @responded _ t' response' ht' hp' =>
        obtain rfl := Option.some.inj (ht.symm.trans ht')
        rw [hp] at hp'
        cases hp'
        exact List.mem_append_right _ (List.mem_singleton_self _)
    · cases hy
  · cases hy

/-- **Each step** keeps it so, as long as nobody else answers for the session. -/
theorem unforged_step {y y' : System Sigma} {a : SystemAction Sigma} {sid : String}
    (hu : y.Unforged sid) (ha : HonestOthers sid y a) (hy : y.step svc h a = some y') :
    y'.Unforged sid := by
  have hsubset : y.client.answered ⊆ y'.client.answered := by
    rcases (step_transition hy).client_step with hsame | ⟨b, hb⟩
    · rw [hsame]
      exact List.Subset.refl _
    · exact (ClientProcess.step_transition hb).answered_subset
  by_cases hrespond : ∃ k, a = .respond k
  · obtain ⟨k, rfl⟩ := hrespond
    obtain ⟨response, server, client, hs, hc, hmem, rfl⟩ := step_respond hy
    refine hu.of_step hs trivial hsubset fun r hr _ _ => ⟨k, ?_⟩
    cases hr
    exact hmem
  · -- no other step of the client has a response handled
    cases step_transition hy with
    | @server b server hb hs =>
      refine hu.of_step hs ?_ hsubset fun r hr hzero hsid => ?_
      · cases b with
        | streamNext j item => exact ha
        | _ => trivial
      · subst hr
        rcases ha with ha | ha
        · exact absurd ha hzero
        · exact absurd hsid ha
    | client hb hc => exact ⟨fun r hr => (hu.handled r hr).imp_right
        fun ⟨k, hk⟩ => ⟨k, hsubset hk⟩, hu.silent⟩
    | deliver hl hf hc => exact ⟨fun r hr => (hu.handled r hr).imp_right
        fun ⟨k, hk⟩ => ⟨k, hsubset hk⟩, hu.silent⟩
    | greet hl ht hg hs =>
      exact hu.of_step hs (fun _ _ _ => rfl) hsubset fun r hr => by cases hr
    | respond hs hc => exact absurd ⟨_, rfl⟩ hrespond
    | report hs => exact hu.of_step hs trivial hsubset fun r hr => by cases hr
    | establishSession hs hc => exact hu.of_step hs trivial hsubset fun r hr => by cases hr
    | registerReader hp hs hc => exact hu.of_step hs trivial hsubset fun r hr => by cases hr
    | heartbeat hs hc => exact hu.of_step hs trivial hsubset fun r hr => by cases hr
    | openStream hs hc => exact hu.of_step hs trivial hsubset fun r hr => by cases hr
    | take hl hst hq hs => exact hu.of_step hs trivial hsubset fun r hr => by cases hr

/-- **The response a waiter gets** is what a call of `process_command` for this very
request came to. -/
theorem sent_of_execution {d m : Duration} {enabled : Bool} {sigma : Sigma}
    {as : List (SystemAction Sigma)} {y : System Sigma} {sid : String}
    (hrun : StepRun.run (step svc h) (start d m enabled sigma) as = some y)
    (hhonest : StepRun.StepsMeet (step svc h) (HonestOthers sid) (start d m enabled sigma) as)
    (hbound : y.server.shared.waiters.length < 2 ^ 64) {rx : ℕ} {w : Waiter}
    (hw : y.server.shared.waiters[rx]? = some w) (hsid : w.sessionId = sid)
    {r : CommandResponse} (hsent : w.oneshot.sender = .sent r) :
    ∃ e ∈ executions svc h (start d m enabled sigma) as,
      e.sessionId = sid ∧ e.request = w.request ∧ e.response h = r := by
  have hreach : y.Reachable svc h := ⟨d, m, enabled, sigma, as, hrun⟩
  have hunforged : y.Unforged sid :=
    StepRun.invariant_run_of_guard (fun _ _ _ hu ha hstep => unforged_step hu ha hstep)
      (unforged_start sid d m enabled sigma) hhonest hrun
  have hrecorded : ClientProcess.Recorded h y.client
      (executions svc h (start d m enabled sigma) as) :=
    StepRun.invariant_record (P := fun (y : System Sigma) => ClientProcess.Recorded h y.client)
      (fun _ _ _ _ hr hs => (step_transition hs).recorded hr)
      (ClientProcess.recorded_start d m enabled sigma) hrun
  obtain ⟨hid, hhandled⟩ := hreach.server.sound.consistent.answered rx w r hw hsent
  obtain ⟨hrsid, k, hk⟩ := hunforged.handled r (hsid ▸ hhandled)
  obtain ⟨e, he, rfl, hresponse⟩ := hrecorded.answered k r hk
  have hcall := (e.response_eq h).symm.trans hresponse
  refine ⟨e, he, (congrArg CommandResponse.sessionId hcall).trans hrsid, ?_, hresponse⟩
  -- the request carried out is that of a waiter with the same id, so of this one
  have hexecuted : (e.task, e.request) ∈ y.client.executed := by
    rw [hrecorded.executed]
    exact List.mem_map_of_mem he
  obtain ⟨l, -, t, -, hplaced, -⟩ := hreach.placed_of_executed hexecuted
  obtain ⟨rx', -, hrequest⟩ := List.mem_filterMap.mp hplaced
  obtain ⟨w', hw', hstream⟩ := Option.bind_eq_some_iff.mp hrequest
  split_ifs at hstream
  obtain hsame := Option.some.inj hstream
  have hcommand : w'.request.commandId = w.request.commandId := by
    rw [hsame, ← hid]
    exact congrArg CommandResponse.commandId hcall
  obtain rfl := hreach.server.sound.commandId_injective hbound hw hw' hcommand
  obtain rfl := Option.some.inj (hw.symm.trans hw')
  exact hsame.symm

/-- What vpcd is told of the outcome of a call: for an APDU the response of the card, for
Get ATR its ATR, if there is one. -/
def cardAnswer (h : (o : PcscOp) → Sigma → PcscRet o × Sigma) (e : Execution Sigma) : Bytes :=
  match e.request.command with
  | some (.apdu cmd) =>
    forwardResult (exec h (e.cards.transmitApdu e.request.readerName cmd.apdu) e.surroundings).1.1
  | _ => (exec h (e.cards.getAtr e.request.readerName) e.surroundings).1.1.toOption.getD []

/-- The exchange is answered with the outcome of the call, which was made for its message,
the session and the reader of its vpcd client. -/
structure AnsweredBy (h : (o : PcscOp) → Sigma → PcscRet o × Sigma) (x : Exchange)
    (e : Execution Sigma) : Prop where
  session : x.client.sessionId = some e.sessionId
  reader : x.client.readerName = some e.request.readerName
  requested : x.msg.command.isSome
  command : e.request.command = x.msg.command
  answer : x.answer = some (cardAnswer h e)

/-- What the response of a call makes of the message it was made for. -/
theorem answerTo_response (e : Execution Sigma) {msg : VpcdMessage} {command : Command}
    (hmsg : msg.command = some command) (hcommand : e.request.command = some command) :
    msg.answerTo (e.response h) = cardAnswer h e := by
  match msg with
  | .apdu data =>
    cases hmsg
    have hbind := exec_bind h (e.cards.transmitApdu e.request.readerName data)
      (fun result => Program.pure (GrpcClient.apduOutcome result.1, result.2)) e.surroundings
    rw [e.response_eq h, cardAnswer, hcommand]
    refine Eq.trans ?_ (apduResult_apduOutcome e.sessionId e.request _)
    exact congrArg (fun r => VpcdClient.apduResult (GrpcClient.responseTo _ _ r.1.1)) hbind
  | .control .getAtr =>
    cases hmsg
    have hbind := exec_bind h (e.cards.getAtr e.request.readerName)
      (fun result => Program.pure (GrpcClient.atrOutcome result.1, result.2)) e.surroundings
    rw [e.response_eq h, cardAnswer, hcommand]
    refine Eq.trans ?_ (atrResult_responseTo e.sessionId e.request _)
    exact congrArg (fun r => (VpcdClient.atrResult (GrpcClient.responseTo _ _ r.1.1)).getD []) hbind
  | .control .powerOff | .control .powerOn | .control .reset => cases hmsg

/-- **The answers come from the card.**  In a run in which nobody but the client answers for
the session: a response that comes to a vpcd task of the session is that to a call made in
the run, for the command sent in this very round. -/
theorem answeredBy_of_response {d m : Duration} {enabled : Bool} {sigma : Sigma}
    {as : List (SystemAction Sigma)} {y : System Sigma} {sid : String}
    (hrun : StepRun.run (step svc h) (start d m enabled sigma) as = some y)
    (hhonest : StepRun.StepsMeet (step svc h) (HonestOthers sid) (start d m enabled sigma) as)
    (hbound : y.server.shared.waiters.length < 2 ^ 64) {x : Exchange}
    (hlog : ∀ ev ∈ x.handling, ∃ e ∈ y.server.log, e.event = ev)
    (hsid : ∀ sid' command readerName r,
      (⟨.sendCommand sid' command readerName, r⟩ : VpcdEvent) ∈ x.handling → sid' = sid)
    {rx : ℕ} {r : CommandResponse} (hmem : (⟨.recvResponse rx, .ok r⟩ : VpcdEvent) ∈ x.handling) :
    ∃ e ∈ executions svc h (start d m enabled sigma) as, AnsweredBy h x e ∧
      ∃ command readerName, ∃ w : Waiter,
        (⟨.sendCommand sid command readerName, some (.ok rx)⟩ : VpcdEvent) ∈ x.handling ∧
        y.server.shared.waiters[rx]? = some w ∧ e.request = w.request := by
  have hreach : y.Reachable svc h := ⟨d, m, enabled, sigma, as, hrun⟩
  obtain ⟨hanswer, sid', readerName, command, w, hclient, hreader, hcommand, hsend, hw, hwsid,
    hrequest, hsent, -⟩ := Server.ownAnswer_of_log hreach.server.sound hlog rx r hmem
  obtain rfl := hsid _ _ _ _ hsend
  obtain ⟨e, he, hesid, herequest, rfl⟩ := sent_of_execution hrun hhonest hbound hw hwsid hsent
  have hecommand : e.request.command = some command := by rw [herequest, hrequest]
  refine ⟨e, he, ⟨by rw [hclient, hesid], by rw [hreader, herequest, hrequest],
    by rw [hcommand]; rfl, by rw [hecommand, hcommand], ?_⟩, command, readerName, w, hsend, hw,
    herequest⟩
  rw [hanswer, answerTo_response e hcommand hecommand]

end System

end RemoteSmartcard
