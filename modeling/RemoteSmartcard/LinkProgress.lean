/-
# No command is lost on the way to the card

From any state of server and client, a command stream that is still open can be drained:
its client takes the commands one after the other, carries them out and responds, without
any other party taking a step.  So nothing that the server or the client has done before
makes a command that was accepted get lost; `backlog` is the number of steps it takes.
-/
import RemoteSmartcard.CommandDelivery

namespace RemoteSmartcard

/-! ## What is left to do -/

/-- The steps a task has before it until it waits for the next command. -/
def CommandTaskPhase.toDo : CommandTaskPhase → ℕ
  | .processing _ => 2
  | .responding _ => 1
  | _ => 0

namespace System

variable {Sigma : Type} {svc : SmartcardService} {h : (o : PcscOp) → Sigma → PcscRet o × Sigma}

/-- The steps that the client and the transport have before them on the link `i`. -/
def backlog (i : ℕ) (y : System Sigma) : ℕ :=
  match y.links[i]? with
  | some l =>
    4 * ((y.server.queueOf l.stream).map (·.queue.length)).getD 0 + 3 * l.inFlight.length +
      ((y.client.tasks[l.task]?).map (·.phase.toDo)).getD 0
  | none => 0

/-- The actions of the link `i` and its task `k`. -/
def OfLink (i k : ℕ) (a : SystemAction Sigma) : Prop :=
  a = .take i ∨ a = .deliver i ∨ a = .client (.process k) ∨ a = .respond k

/-- The link `i` between the task `k` and the stream `j` is open, and nobody holds the lock
of the server. -/
structure Open (svc : SmartcardService) (h : (o : PcscOp) → Sigma → PcscRet o × Sigma)
    (i k j : ℕ) (y : System Sigma) : Prop where
  reachable : y.Reachable svc h
  link : ∃ l, y.links[i]? = some l ∧ l.task = k ∧ l.stream = j
  task : ∃ t, y.client.tasks[k]? = some t ∧ t.phase ≠ .opening ∧ t.phase ≠ .ended
  queue : ∃ queue, y.server.queueOf j = some queue ∧ queue.receiverAlive = true
  unlocked : y.server.lock = none
  running : y.client.loop.result = none

theorem Reachable.snoc {y y' : System Sigma} (hy : y.Reachable svc h) {a : SystemAction Sigma}
    (hstep : y.step svc h a = some y') : y'.Reachable svc h := by
  obtain ⟨d, m, enabled, sigma, hreaches⟩ := hy
  exact ⟨d, m, enabled, sigma, hreaches.snoc hstep⟩

/-- A task takes a step that is enabled whatever the others do. -/
theorem step_task {s s' : ClientProcess Sigma} {k : ℕ} {t : CommandTask} {a : ClientAction Sigma}
    (hresult : s.loop.result = none) (ht : s.tasks[k]? = some t)
    (hk : ClientProcess.taskOf a = some k) (hs : s.taskStep h k t a = some s') :
    s.step h a = some s' := by
  unfold ClientProcess.step
  rw [hresult]
  cases a with
  | surroundings sigma => cases hk
  | _ => simp only [Option.isSome_none, Bool.false_eq_true, if_false, hk, ht, hs]

/-- What has been placed on the stream of an open link is with the client, on the way to it,
or in the queue. -/
theorem Open.placed_eq {i k j : ℕ} {y : System Sigma} (hy : y.Open svc h i k j) {l : Link}
    {queue : Mpsc CommandRequest} (hl : y.links[i]? = some l)
    (hqueue : y.server.queueOf j = some queue) :
    y.server.placed j = y.client.receivedBy k ++ l.inFlight ++ queue.queue := by
  obtain ⟨l', hl', rfl, rfl⟩ := hy.link
  obtain rfl := Option.some.inj (hl.symm.trans hl')
  obtain ⟨queue₁, hqueue₁, halive⟩ := hy.queue
  obtain rfl := Option.some.inj (hqueue.symm.trans hqueue₁)
  obtain ⟨queue₂, hqueue₂, -, hall⟩ := (hy.reachable.linked.carried i l hl).departed
  obtain rfl := Option.some.inj (hqueue.symm.trans hqueue₂)
  exact hall halive

/-- A step of the link: it stays open for its session, nothing is placed on it, and the
backlog is less. -/
structure Advances (svc : SmartcardService) (h : (o : PcscOp) → Sigma → PcscRet o × Sigma)
    (i k j : ℕ) (y y' : System Sigma) : Prop where
  stays : y'.Open svc h i k j
  placed : y'.server.placed j = y.server.placed j
  session : y'.client.tasks[k]?.map (·.sessionId) = y.client.tasks[k]?.map (·.sessionId)
  backlog : y'.backlog i < y.backlog i

/-- The rule for such a step: what the commands of the link go through keeps their order. -/
theorem Open.advances {i k j : ℕ} {y y' : System Sigma} (hy : y.Open svc h i k j)
    {a : SystemAction Sigma} (hstep : y.step svc h a = some y') {l l' : Link}
    {t t' : CommandTask} {queue queue' : Mpsc CommandRequest}
    (hl : y.links[i]? = some l) (ht : y.client.tasks[k]? = some t)
    (hqueue : y.server.queueOf j = some queue)
    (hl' : y'.links[i]? = some l') (hsame : l'.task = l.task ∧ l'.stream = l.stream)
    (ht' : y'.client.tasks[k]? = some t') (hsid : t'.sessionId = t.sessionId)
    (hp' : t'.phase ≠ .opening ∧ t'.phase ≠ .ended)
    (hqueue' : y'.server.queueOf j = some queue')
    (halive : queue'.receiverAlive = queue.receiverAlive)
    (hlock : y'.server.lock = none) (hresult : y'.client.loop.result = none)
    (hout : y'.client.receivedBy k ++ l'.inFlight ++ queue'.queue =
      y.client.receivedBy k ++ l.inFlight ++ queue.queue)
    (hlt : 4 * queue'.queue.length + 3 * l'.inFlight.length + t'.phase.toDo <
      4 * queue.queue.length + 3 * l.inFlight.length + t.phase.toDo) :
    Advances svc h i k j y y' := by
  obtain ⟨l₁, hl₁, rfl, rfl⟩ := hy.link
  obtain rfl := Option.some.inj (hl.symm.trans hl₁)
  obtain ⟨queue₁, hqueue₁, halive₁⟩ := hy.queue
  obtain rfl := Option.some.inj (hqueue.symm.trans hqueue₁)
  have hopen : y'.Open svc h i l.task l.stream :=
    ⟨hy.reachable.snoc hstep, ⟨l', hl', hsame⟩, ⟨t', ht', hp'⟩,
      ⟨queue', hqueue', halive.trans halive₁⟩, hlock, hresult⟩
  refine ⟨hopen, ?_, by rw [ht, ht', Option.map_some, hsid, Option.map_some], ?_⟩
  · rw [hopen.placed_eq hl' hqueue', hy.placed_eq hl hqueue, hout]
  · simpa only [backlog, hl, hl', hsame.1, hsame.2, hqueue, hqueue', ht, ht', Option.map_some,
      Option.getD_some] using hlt

/-- The server takes a response whenever the lock is free, and its queues stay. -/
theorem step_sendCommandResponse (svc : SmartcardService) {s : Server} (hlock : s.lock = none)
    (r : CommandResponse) :
    ∃ s', Server.step svc s (.sendCommandResponse r) = some s' ∧ s'.streams = s.streams ∧
      s'.lock = none := by
  unfold Server.step
  dsimp only
  split_ifs with hzero
  · exact ⟨s, rfl, rfl, hlock⟩
  · refine ⟨(s.sendCommandResponse r).2, by simp [Server.locked, hlock], ?_, ?_⟩
    · unfold Server.sendCommandResponse
      split_ifs
      · split <;> rfl
      · rfl
    · unfold Server.sendCommandResponse
      split_ifs
      · split <;> exact hlock
      · exact hlock

/-- What a task has received changes by what the step delivers to it. -/
theorem receivedBy_of_step {s s' : ClientProcess Sigma} {a : ClientAction Sigma}
    (hs : s.step h a = some s') (k : ℕ) :
    s'.receivedBy k = s.receivedBy k ++ ClientProcess.delivered k a :=
  ((ClientProcess.step_transition hs).taskStep k).receivedBy

section Phases

variable {i k j : ℕ} {y : System Sigma} {l : Link} {t : CommandTask}

/-- A task of an open link can carry out the command it has taken. -/
theorem Open.process (hy : y.Open svc h i k j) (ht : y.client.tasks[k]? = some t)
    {request : CommandRequest} (hp : t.phase = .processing request) :
    ∃ y', y.step svc h (.client (.process k)) = some y' ∧ Advances svc h i k j y y' := by
  obtain ⟨l, hl, -, -⟩ := hy.link
  obtain ⟨queue, hqueue, -⟩ := hy.queue
  have hc : y.client.step h (.process k) = some (y.client.process h k t request) :=
    step_task hy.running ht rfl (by simp only [ClientProcess.taskStep, hp])
  have hstep : y.step svc h (.client (.process k)) =
      some { y with client := y.client.process h k t request } := by
    simp only [step, alone, if_true, clientStep, hc, Option.map_some]
  refine ⟨_, hstep, hy.advances hstep hl ht hqueue hl ⟨rfl, rfl⟩
    (List.getElem?_set_self (List.getElem?_eq_some_iff.mp ht).1) rfl ⟨by simp, by simp⟩ hqueue rfl
    hy.unlocked hy.running ?_ ?_⟩
  · rw [receivedBy_of_step hc]
    simp [ClientProcess.delivered]
  · simp [hp, CommandTaskPhase.toDo]

/-- It can send the response it has prepared. -/
theorem Open.respond (hy : y.Open svc h i k j) (ht : y.client.tasks[k]? = some t)
    {response : CommandResponse} (hp : t.phase = .responding response) :
    ∃ y', y.step svc h (.respond k) = some y' ∧ Advances svc h i k j y y' := by
  obtain ⟨l, hl, -, -⟩ := hy.link
  obtain ⟨queue, hqueue, -⟩ := hy.queue
  obtain ⟨server, hs, hstreams, hlock⟩ := step_sendCommandResponse svc hy.unlocked response
  have hc : y.client.step h (.respond k) = some
      { y.client.setPhase k t .listening with
        answered := y.client.answered ++ [(k, response)] } :=
    step_task hy.running ht rfl (by simp only [ClientProcess.taskStep, hp])
  have hstep : y.step svc h (.respond k) = some { y with
      server := server
      client := { y.client.setPhase k t .listening with
        answered := y.client.answered ++ [(k, response)] } } := by
    simp only [step, ht, hp, serverStep, hs, Option.map_some, Option.bind_some, clientStep, hc]
  have hqueue' : server.queueOf j = some queue := by
    rw [Server.queueOf, hstreams]
    exact hqueue
  refine ⟨_, hstep, hy.advances hstep hl ht hqueue hl ⟨rfl, rfl⟩
    (List.getElem?_set_self (List.getElem?_eq_some_iff.mp ht).1) rfl ⟨by simp, by simp⟩ hqueue'
    rfl hlock hy.running ?_ ?_⟩
  · rw [receivedBy_of_step hc]
    simp [ClientProcess.delivered]
  · simp [hp, CommandTaskPhase.toDo]

/-- When it listens, it can be given the next command on its way. -/
theorem Open.deliver (hy : y.Open svc h i k j) (hl : y.links[i]? = some l)
    (ht : y.client.tasks[k]? = some t) (hp : t.phase = .listening)
    {request : CommandRequest} {rest : List CommandRequest} (hf : l.inFlight = request :: rest) :
    ∃ y', y.step svc h (.deliver i) = some y' ∧ Advances svc h i k j y y' := by
  obtain ⟨l', hl', rfl, rfl⟩ := hy.link
  obtain rfl := Option.some.inj (hl.symm.trans hl')
  obtain ⟨queue, hqueue, -⟩ := hy.queue
  have hc : y.client.step h (.next l.task (some (.ok request))) =
      some (y.client.setPhase l.task t (.processing request)) :=
    step_task hy.running ht rfl (by simp only [ClientProcess.taskStep, hp])
  have hstep : y.step svc h (.deliver i) = some { y with
      client := y.client.setPhase l.task t (.processing request)
      links := y.links.set i { l with inFlight := rest } } := by
    simp only [step, hl, hf, clientStep, hc, Option.map_some]
  refine ⟨_, hstep, hy.advances hstep hl ht hqueue
    (List.getElem?_set_self (List.getElem?_eq_some_iff.mp hl).1) ⟨rfl, rfl⟩
    (List.getElem?_set_self (List.getElem?_eq_some_iff.mp ht).1) rfl ⟨by simp, by simp⟩ hqueue rfl
    hy.unlocked hy.running ?_ ?_⟩
  · rw [receivedBy_of_step hc]
    simp [ClientProcess.delivered, hf]
  · simp [hp, hf, CommandTaskPhase.toDo]
    omega

/-- The transport can take the next command out of the queue. -/
theorem Open.take (hy : y.Open svc h i k j) {queue : Mpsc CommandRequest}
    (hqueue : y.server.queueOf j = some queue) (hne : queue.queue ≠ []) :
    ∃ y', y.step svc h (.take i) = some y' ∧ Advances svc h i k j y y' := by
  obtain ⟨l, hl, rfl, rfl⟩ := hy.link
  obtain ⟨t, ht, hphase⟩ := hy.task
  obtain ⟨st, hst, rfl⟩ := Option.map_eq_some_iff.mp hqueue
  obtain ⟨request, queue', hrecv⟩ := Mpsc.exists_recv hne
  obtain ⟨hcons, halive⟩ := Mpsc.recv_eq_some hrecv
  have hs : Server.step svc y.server (.takeCommand l.stream) =
      some (y.server.setStream l.stream { st with queue := queue' }) := by
    simp only [Server.step, hst, hrecv]
  have hstep : y.step svc h (.take i) = some { y with
      server := y.server.setStream l.stream { st with queue := queue' }
      links := y.links.set i { l with inFlight := l.inFlight ++ [request] } } := by
    simp only [step, hl, hst, Option.bind_some, hrecv, serverStep, hs, Option.map_some]
  have hqueue' : (y.server.setStream l.stream { st with queue := queue' }).queueOf l.stream =
      some queue' := by
    rw [Server.queueOf_set hst rfl, if_pos rfl]
  refine ⟨_, hstep, hy.advances hstep hl ht hqueue
    (List.getElem?_set_self (List.getElem?_eq_some_iff.mp hl).1) ⟨rfl, rfl⟩ ht rfl hphase hqueue'
    halive hy.unlocked hy.running ?_ ?_⟩
  · simp [hcons]
  · simp [hcons]
    omega

end Phases

/-- **A step of the link is always enabled**, as long as something is left to do. -/
theorem Open.exists_step {i k j : ℕ} {y : System Sigma} (hy : y.Open svc h i k j)
    (hbacklog : y.backlog i ≠ 0) :
    ∃ a y', OfLink i k a ∧ y.step svc h a = some y' ∧ Advances svc h i k j y y' := by
  obtain ⟨l, hl, hk, hj⟩ := hy.link
  obtain ⟨t, ht, hopening, hended⟩ := hy.task
  obtain ⟨queue, hqueue, -⟩ := hy.queue
  cases hp : t.phase with
  | opening => exact absurd hp hopening
  | ended => exact absurd hp hended
  | processing request =>
    obtain ⟨y', hstep, hadvances⟩ := hy.process ht hp
    exact ⟨_, y', Or.inr (Or.inr (Or.inl rfl)), hstep, hadvances⟩
  | responding response =>
    obtain ⟨y', hstep, hadvances⟩ := hy.respond ht hp
    exact ⟨_, y', Or.inr (Or.inr (Or.inr rfl)), hstep, hadvances⟩
  | listening =>
    cases hf : l.inFlight with
    | cons request rest =>
      obtain ⟨y', hstep, hadvances⟩ := hy.deliver hl ht hp hf
      exact ⟨_, y', Or.inr (Or.inl rfl), hstep, hadvances⟩
    | nil =>
      have hne : queue.queue ≠ [] := by
        intro hq
        refine hbacklog ?_
        simp [backlog, hl, hk, hj, ht, hp, hqueue, hq, hf, CommandTaskPhase.toDo]
      obtain ⟨y', hstep, hadvances⟩ := hy.take hqueue hne
      exact ⟨_, y', Or.inl rfl, hstep, hadvances⟩

/-- **No command is lost.**  In every reachable state of server and client, a command stream
whose queue has its receiver and whose task is still in its loop can be drained, as long as
nobody holds the lock of the server and the client has not returned: by steps of this link
and its task alone, four at most for each command outstanding and one for a response, the
task comes to have carried out exactly the commands that were placed on the stream, in
their order, and to have sent the response to each. -/
theorem Reachable.exists_drained {y : System Sigma} (hy : y.Reachable svc h) {i : ℕ} {l : Link}
    {t : CommandTask} {st : CommandStream} (hl : y.links[i]? = some l)
    (ht : y.client.tasks[l.task]? = some t) (hended : t.phase ≠ .ended)
    (hst : y.server.streams[l.stream]? = some st) (halive : st.queue.receiverAlive = true)
    (hlock : y.server.lock = none) (hresult : y.client.loop.result = none) :
    ∃ as y', StepRun.run (step svc h) y as = some y' ∧ (∀ a ∈ as, OfLink i l.task a) ∧
      as.length + 4 * (y.client.executedBy l.task).length ≤
        4 * (y.server.placed l.stream).length + 1 ∧
      y'.server.placed l.stream = y.server.placed l.stream ∧
      y'.client.executedBy l.task = y.server.placed l.stream ∧
      (y'.client.answeredBy l.task).map (fun r => (r.commandId, r.sessionId)) =
        (y.server.placed l.stream).map fun request => (request.commandId, t.sessionId) := by
  have hcarried := hy.linked.carried i l hl
  obtain ⟨t₀, ht₀, hopening, -⟩ := hcarried.task
  obtain rfl := Option.some.inj (ht.symm.trans ht₀)
  have hqueue : y.server.queueOf l.stream = some st.queue := by
    rw [Server.queueOf, hst]
    rfl
  have hopen : y.Open svc h i l.task l.stream :=
    ⟨hy, ⟨l, hl, rfl, rfl⟩, ⟨t, ht, hopening, hended⟩, ⟨_, hqueue, halive⟩, hlock, hresult⟩
  have hdrain : ∃ as y', StepRun.run (step svc h) y as = some y' ∧
      (∀ a ∈ as, OfLink i l.task a) ∧ (y'.Open svc h i l.task l.stream ∧
        y'.server.placed l.stream = y.server.placed l.stream ∧
        y'.client.tasks[l.task]?.map (·.sessionId) = y.client.tasks[l.task]?.map (·.sessionId)) ∧
      y'.backlog i = 0 ∧ as.length ≤ y.backlog i := by
    refine StepRun.exists_run_of_measure (fun y₁ hP hne => ?_) ⟨hopen, rfl, rfl⟩
    obtain ⟨hopen₁, hplaced₁, hsession₁⟩ := hP
    obtain ⟨a, y₂, ha, hstep, hadvances⟩ := hopen₁.exists_step hne
    exact ⟨a, y₂, ha, hstep, ⟨hadvances.stays, hadvances.placed.trans hplaced₁,
      hadvances.session.trans hsession₁⟩, hadvances.backlog⟩
  obtain ⟨as, y', hrun, has, ⟨hopen', hplaced, hsession⟩, hzero, hlength⟩ := hdrain
  -- at the end everything placed has been carried out, and the task waits
  obtain ⟨l', hl', hk', hj'⟩ := hopen'.link
  obtain ⟨t', ht', hopening', hended'⟩ := hopen'.task
  obtain ⟨queue', hqueue', -⟩ := hopen'.queue
  have hsid : t'.sessionId = t.sessionId := by simpa [ht, ht'] using hsession
  have hsum : 4 * queue'.queue.length + 3 * l'.inFlight.length + t'.phase.toDo = 0 := by
    simpa only [backlog, hl', hk', hj', hqueue', ht', Option.map_some, Option.getD_some]
      using hzero
  have hlistening : t'.phase = .listening := by
    cases hp : t'.phase with
    | listening => rfl
    | opening => exact absurd hp hopening'
    | ended => exact absurd hp hended'
    | processing _ | responding _ => simp [hp, CommandTaskPhase.toDo] at hsum
  have hexecuted : y'.client.executedBy l.task = y.server.placed l.stream := by
    have hall := hopen'.placed_eq hl' hqueue'
    have hnil : queue'.queue = [] ∧ l'.inFlight = [] :=
      ⟨List.eq_nil_of_length_eq_zero (by omega), List.eq_nil_of_length_eq_zero (by omega)⟩
    rw [hnil.1, hnil.2, ClientProcess.receivedBy, ht', hplaced] at hall
    dsimp only at hall
    rw [hlistening] at hall
    simpa [CommandTaskPhase.taken] using hall.symm
  refine ⟨as, y', hrun, has, ?_, hplaced, hexecuted, ?_⟩
  · have hplacedLength := congrArg List.length (hopen.placed_eq hl hqueue)
    have hbacklog : y.backlog i =
        4 * st.queue.queue.length + 3 * l.inFlight.length + t.phase.toDo := by
      simp only [backlog, hl, hqueue, ht, Option.map_some, Option.getD_some]
    have htoDo : t.phase.toDo ≤ 4 * t.phase.taken.length + 1 := by
      cases t.phase <;> simp [CommandTaskPhase.toDo, CommandTaskPhase.taken]
    rw [ClientProcess.receivedBy, ht] at hplacedLength
    simp only [List.length_append] at hplacedLength
    omega
  · have hserved := (hopen'.reachable.linked.serves l.task).answered t' ht'
    rw [hlistening, hsid, hexecuted] at hserved
    simpa [CommandTaskPhase.prepared] using hserved

/-- `relayRun` up to where the command is in the queue of its stream. -/
def queuedRun : List (SystemAction ℕ) :=
  relayRun.take 15

/-- The queued command of `queuedRun` can still be carried out. -/
theorem exists_drained_queuedRun :
    ∃ y, StepRun.run (step ⟨"127.0.0.1", 35963, true⟩ (flakyCard 9 false))
        (start (.fromSecs 1) (.fromSecs 60) true 0) queuedRun = some y ∧
      y.client.executed = [] ∧
      ∃ as y', StepRun.run (step ⟨"127.0.0.1", 35963, true⟩ (flakyCard 9 false)) y as =
          some y' ∧ as.length ≤ 5 ∧
        y'.client.executedBy 0 = [⟨1, some (.apdu ⟨[0x00, 0xA4]⟩), "r"⟩] := by
  have hrun : (StepRun.run (step ⟨"127.0.0.1", 35963, true⟩ (flakyCard 9 false))
      (start (.fromSecs 1) (.fromSecs 60) true 0) queuedRun).map
      (fun y => (y.client.executed, y.server.placed 0, y.server.lock.isNone,
        y.client.loop.result.isNone)) =
      some ([], [⟨1, some (.apdu ⟨[0x00, 0xA4]⟩), "r"⟩], true, true) := by
    decide
  have hends : (StepRun.run (step ⟨"127.0.0.1", 35963, true⟩ (flakyCard 9 false))
      (start (.fromSecs 1) (.fromSecs 60) true 0) queuedRun).map
      (fun y => (y.links[0]?.map (fun l => (l.task, l.stream)),
        y.client.tasks[0]?.map (·.phase), y.server.streams[0]?.map (·.queue.receiverAlive))) =
      some (some (0, 0), some .listening, some true) := by
    decide
  obtain ⟨y, hy, heq⟩ := Option.map_eq_some_iff.mp hrun
  rw [hy, Option.map_some] at hends
  simp only [Prod.mk.injEq, Option.isNone_iff_eq_none, Option.some.injEq] at heq hends
  obtain ⟨hexecuted, hplaced, hlock, hresult⟩ := heq
  obtain ⟨hlink, htask, hstream⟩ := hends
  obtain ⟨l, hl, hpair⟩ := Option.map_eq_some_iff.mp hlink
  obtain ⟨hk, hj⟩ := Prod.mk.inj hpair
  obtain ⟨t, ht, hphase⟩ := Option.map_eq_some_iff.mp htask
  obtain ⟨st, hst, halive⟩ := Option.map_eq_some_iff.mp hstream
  have hreach : y.Reachable ⟨"127.0.0.1", 35963, true⟩ (flakyCard 9 false) :=
    ⟨_, _, _, _, queuedRun, hy⟩
  obtain ⟨as, y', has, -, hlength, -, hdone, -⟩ := hreach.exists_drained hl (hk ▸ ht)
    (by rw [hphase]; exact nofun) (hj ▸ hst) halive hlock hresult
  rw [hj, hplaced] at hlength hdone
  rw [hk] at hdone
  refine ⟨y, hy, hexecuted, as, y', has, ?_, hdone⟩
  simp only [List.length_cons, List.length_nil] at hlength
  omega

end System

end RemoteSmartcard
