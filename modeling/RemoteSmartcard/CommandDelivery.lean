/-
# Commands are carried out in the order of their ids

What a command task of the client has taken from its stream, what is on the way to it,
and what is in the queue of the stream, are together the commands placed on the stream
(`Linked`).  The task hands each command it takes to `process_command`, and the response
to `send_command_response`, before it takes the next one (`TaskStep`).  With the order
in which the commands are placed this is the contract of the command channel
(`InOrder`).
-/
import RemoteSmartcard.IssueOrder
import RemoteSmartcard.System

namespace RemoteSmartcard

open Program hiding pure

/-! ## The command loop of the client -/

/-- The command a task has taken from its stream and not yet carried out. -/
def CommandTaskPhase.taken : CommandTaskPhase → List CommandRequest
  | .processing request => [request]
  | _ => []

/-- The response a task has not yet sent. -/
def CommandTaskPhase.prepared : CommandTaskPhase → List CommandResponse
  | .responding response => [response]
  | _ => []

namespace ClientProcess

variable {Sigma : Type} {h : (o : PcscOp) → Sigma → PcscRet o × Sigma}

/-- The commands that the task `k` has handed to `process_command`. -/
def executedBy (s : ClientProcess Sigma) (k : ℕ) : List CommandRequest :=
  s.executed.filterMap fun e => if e.1 = k then some e.2 else none

/-- The responses that the task `k` has handed to `send_command_response`. -/
def answeredBy (s : ClientProcess Sigma) (k : ℕ) : List CommandResponse :=
  s.answered.filterMap fun e => if e.1 = k then some e.2 else none

/-- The commands that the task `k` has taken from its stream. -/
def receivedBy (s : ClientProcess Sigma) (k : ℕ) : List CommandRequest :=
  s.executedBy k ++
    match s.tasks[k]? with
    | some t => t.phase.taken
    | none => []

/-- The commands that come to the task `k` in an action. -/
def delivered (k : ℕ) : ClientAction Sigma → List CommandRequest
  | .next j (some (.ok request)) => if j = k then [request] else []
  | _ => []

/-- The moves of the task `k`, which stands as `t`: the phase it moves to, the commands
that come to it, those it carries out, and the responses it sends. -/
inductive TaskMove (t : CommandTask) : CommandTaskPhase → List CommandRequest →
    List CommandRequest → List CommandResponse → Prop
  | opened (success : Bool) (hp : t.phase = .opening) :
      TaskMove t (if success then .listening else .ended) [] [] []
  | command (request : CommandRequest) (hp : t.phase = .listening) :
      TaskMove t (.processing request) [request] [] []
  | ended (hp : t.phase = .listening) : TaskMove t .ended [] [] []
  | processed {request : CommandRequest} {response : CommandResponse}
      (hp : t.phase = .processing request) (hid : response.commandId = request.commandId)
      (hsid : response.sessionId = t.sessionId) :
      TaskMove t (.responding response) [] [request] []
  | responded {response : CommandResponse} (hp : t.phase = .responding response) :
      TaskMove t .listening [] [] [response]

/-- **What a step does to the task `k`.** -/
inductive TaskStep (s : ClientProcess Sigma) (a : ClientAction Sigma) (s' : ClientProcess Sigma)
    (k : ℕ) : Prop
  | stays (htask : s'.tasks[k]? = s.tasks[k]?) (hdelivered : delivered k a = [])
      (hexecuted : s'.executedBy k = s.executedBy k)
      (hanswered : s'.answeredBy k = s.answeredBy k) : TaskStep s a s' k
  | begins {sessionId : String} (hnone : s.tasks[k]? = none)
      (htask : s'.tasks[k]? = some ⟨sessionId, .opening⟩) (hdelivered : delivered k a = [])
      (hexecuted : s'.executedBy k = s.executedBy k)
      (hanswered : s'.answeredBy k = s.answeredBy k) : TaskStep s a s' k
  | moves {t : CommandTask} {phase : CommandTaskPhase} {coming carriedOut : List CommandRequest}
      {sent : List CommandResponse} (hmove : TaskMove t phase coming carriedOut sent)
      (ht : s.tasks[k]? = some t) (htask : s'.tasks[k]? = some { t with phase := phase })
      (hdelivered : delivered k a = coming)
      (hexecuted : s'.executedBy k = s.executedBy k ++ carriedOut)
      (hanswered : s'.answeredBy k = s.answeredBy k ++ sent) : TaskStep s a s' k

/-- A step of the task `j` with these records, seen from the task `k`. -/
theorem TaskStep.of_set {s s' : ClientProcess Sigma} {a : ClientAction Sigma} {j : ℕ}
    {t : CommandTask} {phase : CommandTaskPhase} {coming carriedOut : List CommandRequest}
    {sent : List CommandResponse} (ht : s.tasks[j]? = some t)
    (hmove : TaskMove t phase coming carriedOut sent)
    (htasks : s'.tasks = s.tasks.set j { t with phase := phase })
    (hdelivered : ∀ k, delivered k a = if j = k then coming else [])
    (hexecuted : s'.executed = s.executed ++ carriedOut.map fun request => (j, request))
    (hanswered : s'.answered = s.answered ++ sent.map fun response => (j, response)) (k : ℕ) :
    TaskStep s a s' k := by
  have hlt := (List.getElem?_eq_some_iff.mp ht).1
  have hexecutedBy : s'.executedBy k =
      s.executedBy k ++ if j = k then carriedOut else [] := by
    rw [executedBy, hexecuted, List.filterMap_append, List.filterMap_map]
    congr 1
    split_ifs with hj <;> simp [hj]
  have hansweredBy : s'.answeredBy k = s.answeredBy k ++ if j = k then sent else [] := by
    rw [answeredBy, hanswered, List.filterMap_append, List.filterMap_map]
    congr 1
    split_ifs with hj <;> simp [hj]
  have hdelivered := hdelivered k
  have htask : s'.tasks[k]? = if j = k then some { t with phase := phase } else s.tasks[k]? := by
    rw [htasks, List.getElem?_set]
    split_ifs <;> rfl
  split_ifs at hexecutedBy hansweredBy hdelivered htask with hj
  · subst hj
    exact .moves hmove ht htask hdelivered hexecutedBy hansweredBy
  · rw [List.append_nil] at hexecutedBy hansweredBy
    exact .stays htask hdelivered hexecutedBy hansweredBy

/-- The response to a command names the command and the session of the task. -/
theorem response_processCommand (h : (o : PcscOp) → Sigma → PcscRet o × Sigma)
    (g : CardConnections) (sessionId : String) (request : CommandRequest) (sigma : Sigma) :
    (exec h (GrpcClient.processCommand g sessionId request) sigma).1.1 =
      GrpcClient.responseTo sessionId request
        (exec h (GrpcClient.handleCommand g request.readerName request.command) sigma).1.1 := by
  have hbind := exec_bind h (GrpcClient.handleCommand g request.readerName request.command)
    (fun result => Program.pure (GrpcClient.responseTo sessionId request result.1, result.2)) sigma
  exact congrArg (fun r => r.1.1) hbind

/-- **Each step** of the client does to a task what `TaskStep` says. -/
theorem Transition.taskStep {s s' : ClientProcess Sigma} {a : ClientAction Sigma}
    (ht : Transition h s a s') (k : ℕ) : TaskStep s a s' k := by
  cases ht with
  | @started sessionId hp =>
    by_cases hk : k = s.tasks.length
    · subst hk
      exact .begins (List.getElem?_eq_none (le_refl _)) List.getElem?_concat_length rfl rfl rfl
    · refine .stays ?_ rfl rfl rfl
      show (s.tasks ++ [_])[k]? = _
      rw [StepRun.getElem?_concat, if_neg hk]
  | event hp he =>
    unfold serve
    dsimp only
    split <;> exact .stays rfl rfl rfl rfl
  | @opened j t success hj hp =>
    refine .of_set hj (.opened success hp) ?_ (fun k => ?_) ?_ ?_ k
    · rfl
    · split_ifs <;> rfl
    · exact (List.append_nil _).symm
    · exact (List.append_nil _).symm
  | @command j t request hj hp =>
    refine .of_set hj (.command request hp) ?_ (fun k => ?_) ?_ ?_ k
    · rfl
    · rfl
    · exact (List.append_nil _).symm
    · exact (List.append_nil _).symm
  | @ended j t item hj hp hitem =>
    refine .of_set hj (.ended hp) ?_ (fun k => ?_) ?_ ?_ k
    · rfl
    · rw [ite_self]
      match item with
      | some (.ok request) => exact absurd rfl (hitem request)
      | some (.error e) => rfl
      | none => rfl
    · exact (List.append_nil _).symm
    · exact (List.append_nil _).symm
  | @processed j t request hj hp =>
    have hresponse := response_processCommand h s.cards t.sessionId request s.surroundings
    have hmove : TaskMove t (.responding
        (exec h (GrpcClient.processCommand s.cards t.sessionId request) s.surroundings).1.1)
        [] [request] [] :=
      .processed hp (congrArg (·.commandId) hresponse) (congrArg (·.sessionId) hresponse)
    refine .of_set hj hmove ?_ (fun k => ?_) ?_ ?_ k
    · rfl
    · split_ifs <;> rfl
    · rfl
    · exact (List.append_nil _).symm
  | @responded j t response hj hp =>
    refine .of_set hj (.responded hp) ?_ (fun k => ?_) ?_ ?_ k
    · rfl
    · split_ifs <;> rfl
    · exact (List.append_nil _).symm
    · rfl
  | _ => exact .stays rfl rfl rfl rfl

/-- What comes to a task is what it has taken from its stream. -/
theorem TaskStep.receivedBy {s s' : ClientProcess Sigma} {a : ClientAction Sigma} {k : ℕ}
    (hk : TaskStep s a s' k) : s'.receivedBy k = s.receivedBy k ++ delivered k a := by
  unfold ClientProcess.receivedBy
  cases hk with
  | stays htask hdelivered hexecuted hanswered =>
    rw [htask, hexecuted, hdelivered, List.append_nil]
  | begins hnone htask hdelivered hexecuted hanswered =>
    rw [htask, hexecuted, hdelivered, hnone, List.append_nil]
    rfl
  | moves hmove ht htask hdelivered hexecuted hanswered =>
    rw [htask, hexecuted, hdelivered, ht]
    cases hmove with
    | opened success hp => cases success <;> simp [hp, CommandTaskPhase.taken]
    | command request hp => simp [hp, CommandTaskPhase.taken]
    | ended hp => simp [hp, CommandTaskPhase.taken]
    | processed hp hid hsid => simp [hp, CommandTaskPhase.taken]
    | responded hp => simp [hp, CommandTaskPhase.taken]

/-- The task `k` sends one response for each command it carries out, with the id of the
command and the session of the task, before it takes the next one. -/
structure Serves (s : ClientProcess Sigma) (k : ℕ) : Prop where
  fresh : (∀ t, s.tasks[k]? = some t → t.phase = .opening) →
    s.executedBy k = [] ∧ s.answeredBy k = []
  answered : ∀ t, s.tasks[k]? = some t →
    (s.answeredBy k ++ t.phase.prepared).map (fun r => (r.commandId, r.sessionId)) =
      (s.executedBy k).map fun r => (r.commandId, t.sessionId)

/-- At the start no command has come to any task. -/
theorem serves_start (d m : Duration) (enabled : Bool) (sigma : Sigma) (k : ℕ) :
    (start d m enabled sigma).Serves k where
  fresh := fun _ => ⟨rfl, rfl⟩
  answered := by intro t ht; simp [start] at ht

/-- A step keeps the task with one response for each command. -/
theorem TaskStep.serves {s s' : ClientProcess Sigma} {a : ClientAction Sigma} {k : ℕ}
    (hk : TaskStep s a s' k) (hs : s.Serves k) : s'.Serves k := by
  cases hk with
  | stays htask hdelivered hexecuted hanswered =>
    constructor
    · rw [htask, hexecuted, hanswered]
      exact hs.fresh
    · rw [htask, hexecuted, hanswered]
      exact hs.answered
  | begins hnone htask hdelivered hexecuted hanswered =>
    have hfresh := hs.fresh (by intro t ht; rw [hnone] at ht; cases ht)
    constructor
    · intro _
      rw [hexecuted, hanswered]
      exact hfresh
    · intro t ht
      rw [htask] at ht
      cases ht
      rw [hexecuted, hanswered, hfresh.1, hfresh.2]
      rfl
  | @moves t phase coming carriedOut sent hmove ht htask hdelivered hexecuted hanswered =>
    have hbefore := hs.answered t ht
    constructor
    · intro hopening
      have hphase := hopening _ htask
      cases hmove with
      | opened success hp => cases success <;> cases hphase
      | _ => cases hphase
    · intro t' ht'
      rw [htask] at ht'
      cases ht'
      rw [hexecuted, hanswered]
      cases hmove with
      | opened success hp => cases success <;> simpa [hp, CommandTaskPhase.prepared] using hbefore
      | command request hp => simpa [hp, CommandTaskPhase.prepared] using hbefore
      | ended hp => simpa [hp, CommandTaskPhase.prepared] using hbefore
      | processed hp hid hsid =>
        simpa [hp, CommandTaskPhase.prepared, hid, hsid] using hbefore
      | responded hp => simpa [hp, CommandTaskPhase.prepared] using hbefore

/-- A task that has its stream keeps it, and its session. -/
theorem TaskStep.keeps {s s' : ClientProcess Sigma} {a : ClientAction Sigma} {k : ℕ}
    (hk : TaskStep s a s' k) {t : CommandTask} (ht : s.tasks[k]? = some t)
    (hp : t.phase ≠ .opening) : ∃ t', s'.tasks[k]? = some t' ∧ t'.phase ≠ .opening ∧
      t'.sessionId = t.sessionId := by
  cases hk with
  | stays htask => exact ⟨t, htask.trans ht, hp, rfl⟩
  | begins hnone =>
    rw [hnone] at ht
    cases ht
  | moves hmove ht₁ htask =>
    obtain rfl := Option.some.inj (ht.symm.trans ht₁)
    refine ⟨_, htask, ?_, rfl⟩
    cases hmove with
    | opened success hopening => exact absurd hopening hp
    | _ => simp

end ClientProcess

/-! ## The session of a stream -/

namespace Server

/-- The session that the stream `j` is bound to. -/
def sessionOf (s : Server) (j : ℕ) : Option (Option String) :=
  s.streams[j]?.map (·.sessionId)

/-- The session of the stream `j` after an action, if it was `x`. -/
def sessionAfter (j : ℕ) (x : Option String) : Action → Option String
  | .streamNext i (some (.ok response)) =>
    if i = j then x.or (some response.sessionId) else x
  | _ => x

/-- A step of one stream changes its own session. -/
theorem sessionOf_set {s s' : Server} {i : ℕ} {st st' : CommandStream}
    (hi : s.streams[i]? = some st) (hset : s'.streams = s.streams.set i st') (j : ℕ) :
    s'.sessionOf j = if i = j then some st'.sessionId else s.sessionOf j := by
  unfold sessionOf
  rw [hset]
  exact StepRun.map_getElem?_set CommandStream.sessionId hi st' j

/-- The session of a stream is part of its binding. -/
theorem sessionOf_eq_map_bindingOf (s : Server) (j : ℕ) :
    s.sessionOf j = (s.bindingOf j).map (·.1) := by
  unfold sessionOf bindingOf
  rw [Option.map_map]
  rfl

/-- Its first message binds a stream, and nothing else does. -/
theorem Transition.sessionOf {svc : SmartcardService} {s s' : Server} {a : Action}
    (h : Transition svc s a s') {j : ℕ} {x : Option String} (hx : s.sessionOf j = some x) :
    s'.sessionOf j = some (sessionAfter j x a) := by
  -- a handler task takes a step that leaves the session
  have hset : ∀ {s₁ : Server} {i : ℕ} {st st' : CommandStream}, s.streams[i]? = some st →
      s₁.streams = s.streams.set i st' → st'.sessionId = st.sessionId →
      s₁.sessionOf j = some x := by
    intro s₁ i st st' hi hset hsid
    unfold Server.sessionOf at hx ⊢
    rw [hset, StepRun.map_getElem?_set_same CommandStream.sessionId hi hsid]
    exact hx
  cases h with
  | newStream =>
    obtain ⟨st, hst, rfl⟩ := Option.map_eq_some_iff.mp hx
    have hlt := (List.getElem?_eq_some_iff.mp hst).1
    show (s.streams ++ [_])[j]?.map _ = _
    rw [List.getElem?_append_left hlt, hst]
    rfl
  | @item i st item hi hp =>
    match item with
    | none => exact hset hi rfl rfl
    | some (.error e) => exact hset hi rfl rfl
    | some (.ok response) =>
      rw [sessionOf_set hi rfl]
      dsimp only [sessionAfter]
      split_ifs with hij
      · subst hij
        have hsid : st.sessionId = x := by
          rw [Server.sessionOf, hi] at hx
          exact Option.some.inj hx
        unfold streamNext
        cases x with
        | none => simp [hsid]
        | some sid => simp [hsid]
      · exact hx
  | take hi hr => exact hset hi rfl rfl
  | close hi => exact hset hi rfl rfl
  | register hlock hi hp hs => exact hset hi rfl rfl
  | unknown hlock hi hp hs => exact hset hi rfl rfl
  | respond hlock hi hp hsid => exact hset hi rfl rfl
  | cleanup hlock hi hp hsid => exact hset hi rfl rfl
  | unbound hi hp hsid => exact hset hi rfl rfl
  | suspend ht hp hperform h =>
    rw [sessionOf_eq_map_bindingOf, perform_bindingOf hperform, ← sessionOf_eq_map_bindingOf]
    exact hx
  | @answer i outcome t stream stream' o k r s₁ ht hp hperform h =>
    have hsame : s₁.sessionOf j = some x := by
      rw [sessionOf_eq_map_bindingOf, perform_bindingOf hperform, ← sessionOf_eq_map_bindingOf]
      exact hx
    exact hsame
  | _ => exact hx

end Server

/-! ## The commands on the way -/

namespace System

variable {Sigma : Type} {svc : SmartcardService} {h : (o : PcscOp) → Sigma → PcscRet o × Sigma}

/-- The server stays, or takes a step that takes no command from the stream `j` and
brings no message on it. -/
def Passes (svc : SmartcardService) (server server' : Server) (j : ℕ) : Prop :=
  server' = server ∨ ∃ a, Server.step svc server a = some server' ∧ a ≠ .takeCommand j ∧
    ∀ r, a ≠ .streamNext j (some (.ok r))

/-- The client stays, or takes a step in which no command comes to the task `k`. -/
def Idles (h : (o : PcscOp) → Sigma → PcscRet o × Sigma) (client client' : ClientProcess Sigma)
    (k : ℕ) : Prop :=
  client' = client ∨ ∃ a, client.step h a = some client' ∧ ClientProcess.delivered k a = []

/-- The commands of the link `l`: those that its task has taken and those on the way are
the ones that have left the queue; and the stream is bound to the session of the task. -/
structure Carried (server : Server) (client : ClientProcess Sigma) (l : Link) : Prop where
  departed : server.Departed l.stream (client.receivedBy l.task ++ l.inFlight)
  task : ∃ t, client.tasks[l.task]? = some t ∧ t.phase ≠ .opening ∧
    server.sessionOf l.stream = some (if l.greeted then some t.sessionId else none)

/-- A step of the server elsewhere keeps the commands of the link. -/
theorem Carried.server {server server' : Server} {client : ClientProcess Sigma} {l : Link}
    (hc : Carried server client l) (hr : server.Reachable svc)
    (hpass : Passes svc server server' l.stream) : Carried server' client l := by
  rcases hpass with rfl | ⟨a, hstep, htake, hnext⟩
  · exact hc
  obtain ⟨t, ht, hp, hsession⟩ := hc.task
  refine ⟨(hr.flow hstep l.stream).departed htake hc.departed, t, ht, hp, ?_⟩
  have hafter := (Server.step_transition hstep).sessionOf hsession
  rw [hafter]
  unfold Server.sessionAfter
  split
  · rename_i i r
    rw [if_neg fun hi => hnext r (by rw [hi])]
  · rfl

/-- So does a step of the client in which none comes to the task. -/
theorem Carried.client {server : Server} {client client' : ClientProcess Sigma} {l : Link}
    (hc : Carried server client l) (hidle : Idles h client client' l.task) :
    Carried server client' l := by
  rcases hidle with rfl | ⟨a, hstep, hdelivered⟩
  · exact hc
  have hk := (ClientProcess.step_transition hstep).taskStep l.task
  obtain ⟨t, ht, hp, hsession⟩ := hc.task
  obtain ⟨t', ht', hp', hsid⟩ := hk.keeps ht hp
  constructor
  · rw [hk.receivedBy, hdelivered, List.append_nil]
    exact hc.departed
  · exact ⟨t', ht', hp', by rw [hsid]; exact hsession⟩

/-- The state of the command streams; see the head of the file. -/
structure Linked (y : System Sigma) : Prop where
  distinct : ∀ (i j : ℕ) (l m : Link), y.links[i]? = some l → y.links[j]? = some m →
    l.task = m.task ∨ l.stream = m.stream → i = j
  carried : ∀ (i : ℕ) (l : Link), y.links[i]? = some l → Carried y.server y.client l
  serves : ∀ k, y.client.Serves k
  received : ∀ k, y.client.receivedBy k ≠ [] → ∃ l ∈ y.links, l.task = k

/-- At the start there are no links. -/
theorem linked_start (d m : Duration) (enabled : Bool) (sigma : Sigma) :
    (start d m enabled sigma).Linked where
  distinct := by intro i j l m hl; cases hl
  carried := by intro i l hl; cases hl
  serves := ClientProcess.serves_start d m enabled sigma
  received := by intro k hk; exact absurd rfl hk

/-- In a step of the system the client takes a step, or stays. -/
theorem Transition.client_step {y y' : System Sigma} {a : SystemAction Sigma}
    (hy : Transition svc h y a y') :
    y'.client = y.client ∨ ∃ b, y.client.step h b = some y'.client := by
  cases hy with
  | server ha hs => exact Or.inl rfl
  | report hs => exact Or.inl rfl
  | greet hl ht hg hs => exact Or.inl rfl
  | take hl hst hq hs => exact Or.inl rfl
  | client ha hc => exact Or.inr ⟨_, hc⟩
  | establishSession hs hc => exact Or.inr ⟨_, hc⟩
  | registerReader hp hs hc => exact Or.inr ⟨_, hc⟩
  | heartbeat hs hc => exact Or.inr ⟨_, hc⟩
  | openStream hs hc => exact Or.inr ⟨_, hc⟩
  | deliver hl hf hc => exact Or.inr ⟨_, hc⟩
  | respond hs hc => exact Or.inr ⟨_, hc⟩

/-- No step of the system has a task miss a response. -/
theorem Transition.serves {y y' : System Sigma} {a : SystemAction Sigma}
    (hy : Transition svc h y a y') (hs : ∀ k, y.client.Serves k) (k : ℕ) :
    y'.client.Serves k := by
  rcases hy.client_step with hsame | ⟨b, hb⟩
  · rw [hsame]
    exact hs k
  · exact ((ClientProcess.step_transition hb).taskStep k).serves (hs k)

/-- Only a command that comes to it has a task take commands. -/
theorem receivedBy_of_idles {client client' : ClientProcess Sigma} {k : ℕ}
    (hidle : Idles h client client' k) : client'.receivedBy k = client.receivedBy k := by
  rcases hidle with rfl | ⟨a, hstep, hdelivered⟩
  · rfl
  · have hk := ((ClientProcess.step_transition hstep).taskStep k).receivedBy
    rw [hk, hdelivered, List.append_nil]

/-- The links stay. -/
theorem Linked.of_same {y y' : System Sigma} (hL : y.Linked) (hr : y.server.Reachable svc)
    (hserves : ∀ k, y'.client.Serves k) (hlinks : y'.links = y.links)
    (hpass : ∀ l ∈ y.links, Passes svc y.server y'.server l.stream)
    (hidle : ∀ k, Idles h y.client y'.client k) : y'.Linked where
  distinct := by
    rw [hlinks]
    exact hL.distinct
  carried := by
    intro i l hl
    rw [hlinks] at hl
    exact ((hL.carried i l hl).server hr (hpass l (List.mem_of_getElem? hl))).client
      (hidle l.task)
  serves := hserves
  received := by
    intro k hk
    rw [receivedBy_of_idles (hidle k)] at hk
    rw [hlinks]
    exact hL.received k hk

/-- One link moves on, and the step does nothing to the others. -/
theorem Linked.of_set {y y' : System Sigma} (hL : y.Linked) (hr : y.server.Reachable svc)
    (hserves : ∀ k, y'.client.Serves k) {i : ℕ} {l l' : Link} (hl : y.links[i]? = some l)
    (hlinks : y'.links = y.links.set i l') (htask : l'.task = l.task)
    (hstream : l'.stream = l.stream) (hcarried : Carried y'.server y'.client l')
    (hpass : ∀ j, j ≠ l.stream → Passes svc y.server y'.server j)
    (hidle : ∀ k, k ≠ l.task → Idles h y.client y'.client k) : y'.Linked := by
  have hlt := (List.getElem?_eq_some_iff.mp hl).1
  -- a link after the step stands where one stood before, with its task and stream
  have hbefore : ∀ (j : ℕ) (m' : Link), y'.links[j]? = some m' → ∃ m, y.links[j]? = some m ∧
      m'.task = m.task ∧ m'.stream = m.stream ∧ (j = i ∧ m' = l' ∨ j ≠ i ∧ m' = m) := by
    intro j m' hm'
    rw [hlinks, List.getElem?_set] at hm'
    split_ifs at hm' with hij
    · obtain rfl := Option.some.inj hm'
      subst hij
      exact ⟨l, hl, htask, hstream, Or.inl ⟨rfl, rfl⟩⟩
    · exact ⟨m', hm', rfl, rfl, Or.inr ⟨fun hji => hij hji.symm, rfl⟩⟩
  constructor
  case distinct =>
    intro j j' m m' hm hm' hor
    obtain ⟨m₁, hm₁, htask₁, hstream₁, -⟩ := hbefore j m hm
    obtain ⟨m₂, hm₂, htask₂, hstream₂, -⟩ := hbefore j' m' hm'
    rw [htask₁, htask₂, hstream₁, hstream₂] at hor
    exact hL.distinct j j' m₁ m₂ hm₁ hm₂ hor
  case carried =>
    intro j m' hm'
    obtain ⟨m, hm, -, -, ⟨rfl, rfl⟩ | ⟨hji, rfl⟩⟩ := hbefore j m' hm'
    · exact hcarried
    · have hne := fun hor => hji (hL.distinct j i m' l hm hl hor)
      exact ((hL.carried j m' hm).server hr (hpass _ fun heq => hne (Or.inr heq))).client
        (hidle _ fun heq => hne (Or.inl heq))
  case serves => exact hserves
  case received =>
    intro k hk
    by_cases hkl : k = l.task
    · refine ⟨l', ?_, htask.trans hkl.symm⟩
      rw [hlinks]
      exact List.mem_set hlt l'
    · rw [receivedBy_of_idles (hidle k hkl)] at hk
      obtain ⟨m, hm, rfl⟩ := hL.received k hk
      obtain ⟨j, hj⟩ := List.mem_iff_getElem?.mp hm
      refine ⟨m, ?_, rfl⟩
      rw [hlinks, List.mem_iff_getElem?]
      refine ⟨j, ?_⟩
      rw [List.getElem?_set_ne, hj]
      intro hij
      subst hij
      obtain rfl := Option.some.inj (hj.symm.trans hl)
      exact hkl rfl

/-- What the opening of a stream is for the client. -/
theorem listening_of_opened {client client' : ClientProcess Sigma} {k : ℕ}
    (hc : client.step h (.opened k true) = some client') : ∃ t, client.tasks[k]? = some t ∧
      t.phase = .opening ∧ client'.tasks[k]? = some { t with phase := .listening } := by
  cases ClientProcess.step_transition hc with
  | opened ht hp =>
    exact ⟨_, ht, hp, List.getElem?_set_self (List.getElem?_eq_some_iff.mp ht).1⟩

/-- A task about to open its stream has none. -/
theorem Linked.task_ne {y : System Sigma} (hL : y.Linked) {k : ℕ} {t : CommandTask}
    (ht : y.client.tasks[k]? = some t) (hopening : t.phase = .opening) :
    ∀ l ∈ y.links, l.task ≠ k := by
  rintro l hl rfl
  obtain ⟨i, hi⟩ := List.mem_iff_getElem?.mp hl
  obtain ⟨t', ht', hp', -⟩ := (hL.carried i l hi).task
  obtain rfl := Option.some.inj (ht.symm.trans ht')
  exact hp' hopening

/-- The stream of a link has been opened. -/
theorem Linked.stream_lt {y : System Sigma} (hL : y.Linked) :
    ∀ l ∈ y.links, l.stream < y.server.streams.length := by
  intro l hl
  obtain ⟨i, hi⟩ := List.mem_iff_getElem?.mp hl
  obtain ⟨queue, hqueue, -⟩ := (hL.carried i l hi).departed
  exact Server.queueOf_eq_some hqueue

/-- A link just made carries nothing. -/
theorem Linked.carried_new {y y' : System Sigma} (hL : y.Linked) (hr : y.server.Reachable svc)
    {k : ℕ} (hs : Server.step svc y.server .commandChannel = some y'.server)
    (hc : y.client.step h (.opened k true) = some y'.client) :
    Carried y'.server y'.client ⟨k, y.server.streams.length, false, []⟩ := by
  obtain ⟨t, ht, hopening, ht'⟩ := listening_of_opened hc
  have hnone : y'.client.receivedBy k = [] := by
    rw [receivedBy_of_idles (Or.inr ⟨_, hc, rfl⟩), ClientProcess.receivedBy, ht]
    obtain ⟨hexecuted, -⟩ := (hL.serves k).fresh fun t' ht' => by
      obtain rfl := Option.some.inj (ht.symm.trans ht')
      exact hopening
    rw [hexecuted]
    show t.phase.taken = []
    rw [hopening]
    rfl
  constructor
  · show y'.server.Departed _ (y'.client.receivedBy k ++ [])
    rw [hnone]
    exact hr.departed_new hs
  · refine ⟨_, ht', by simp, ?_⟩
    have heq : y'.server = y.server.commandChannel := (Option.some.inj hs).symm
    show y'.server.sessionOf y.server.streams.length = some none
    rw [heq]
    show (y.server.streams ++ [_])[y.server.streams.length]?.map _ = some none
    rw [List.getElem?_concat_length]
    rfl

/-- A command task has its stream opened. -/
theorem Linked.of_append {y y' : System Sigma} (hL : y.Linked) (hr : y.server.Reachable svc)
    (hserves : ∀ k, y'.client.Serves k) {k : ℕ}
    (hlinks : y'.links = y.links ++ [⟨k, y.server.streams.length, false, []⟩])
    (hs : Server.step svc y.server .commandChannel = some y'.server)
    (hc : y.client.step h (.opened k true) = some y'.client) : y'.Linked := by
  have hidle : ∀ j, Idles h y.client y'.client j := fun j => Or.inr ⟨_, hc, rfl⟩
  have hpass : ∀ j, Passes svc y.server y'.server j := fun j => by
    refine Or.inr ⟨_, hs, ?_, ?_⟩ <;> simp
  obtain ⟨t, ht, hopening, -⟩ := listening_of_opened hc
  have hnot := hL.task_ne ht hopening
  have hstreams := hL.stream_lt
  -- a link after the step is an old one or the new one
  have hcases : ∀ (j : ℕ) (m : Link), y'.links[j]? = some m → y.links[j]? = some m ∨
      j = y.links.length ∧ m = ⟨k, y.server.streams.length, false, []⟩ := by
    intro j m hm
    rw [hlinks, StepRun.getElem?_concat] at hm
    split_ifs at hm with hj
    · exact Or.inr ⟨hj, (Option.some.inj hm).symm⟩
    · exact Or.inl hm
  constructor
  case distinct =>
    intro i j l m hl hm hor
    rcases hcases i l hl with hl | ⟨rfl, rfl⟩ <;> rcases hcases j m hm with hm | ⟨rfl, rfl⟩
    · exact hL.distinct i j l m hl hm hor
    · have hmem := List.mem_of_getElem? hl
      rcases hor with htask | hstream
      · exact absurd htask (hnot l hmem)
      · exact absurd hstream (hstreams l hmem).ne
    · have hmem := List.mem_of_getElem? hm
      rcases hor with htask | hstream
      · exact absurd htask.symm (hnot m hmem)
      · exact absurd hstream.symm (hstreams m hmem).ne
    · rfl
  case carried =>
    intro j m hm
    rcases hcases j m hm with hm | ⟨-, rfl⟩
    · exact ((hL.carried j m hm).server hr (hpass _)).client (hidle _)
    · exact hL.carried_new hr hs hc
  case serves => exact hserves
  case received =>
    intro j hj
    rw [receivedBy_of_idles (hidle j)] at hj
    obtain ⟨l, hl, htask⟩ := hL.received j hj
    refine ⟨l, ?_, htask⟩
    rw [hlinks]
    exact List.mem_append_left _ hl

/-- What the client does on its own brings it no command. -/
theorem delivered_of_alone {a : ClientAction Sigma} (ha : alone a = true) (k : ℕ) :
    ClientProcess.delivered k a = [] := by
  unfold ClientProcess.delivered
  split
  · cases ha
  · rfl

/-- What the others do leaves the streams of the client alone. -/
theorem passes_of_foreign {y : System Sigma} {a : Action} {server : Server}
    (ha : y.foreign a = true) (hs : Server.step svc y.server a = some server) {l : Link}
    (hl : l ∈ y.links) : Passes svc y.server server l.stream := by
  refine Or.inr ⟨a, hs, ?_, ?_⟩
  · rintro rfl
    have hne := of_decide_eq_true (List.all_eq_true.mp ha l hl)
    exact hne rfl
  · rintro r rfl
    have hne := of_decide_eq_true (List.all_eq_true.mp ha l hl)
    exact hne rfl

/-- **Each step** of the system keeps the commands on their streams. -/
theorem Transition.linked {y y' : System Sigma} {a : SystemAction Sigma}
    (hy : Transition svc h y a y') (hr : y.server.Reachable svc) (hL : y.Linked) : y'.Linked := by
  have hserves := hy.serves hL.serves
  have hstays : ∀ k, Idles h y.client y.client k := fun k => Or.inl rfl
  cases hy with
  | server ha hs =>
    exact hL.of_same hr hserves rfl (fun l hl => passes_of_foreign ha hs hl) hstays
  | report hs =>
    refine hL.of_same hr hserves rfl (fun l hl => Or.inr ⟨_, hs, ?_, ?_⟩) hstays <;> simp
  | client ha hc =>
    exact hL.of_same hr hserves rfl (fun l hl => Or.inl rfl)
      fun k => Or.inr ⟨_, hc, delivered_of_alone ha k⟩
  | establishSession hs hc =>
    refine hL.of_same hr hserves rfl (fun l hl => Or.inr ⟨_, hs, ?_, ?_⟩)
      (fun k => Or.inr ⟨_, hc, rfl⟩) <;> simp
  | registerReader hp hs hc =>
    refine hL.of_same hr hserves rfl (fun l hl => Or.inr ⟨_, hs, ?_, ?_⟩)
      (fun k => Or.inr ⟨_, hc, rfl⟩) <;> simp
  | heartbeat hs hc =>
    refine hL.of_same hr hserves rfl (fun l hl => Or.inr ⟨_, hs, ?_, ?_⟩)
      (fun k => Or.inr ⟨_, hc, rfl⟩) <;> simp
  | respond hs hc =>
    refine hL.of_same hr hserves rfl (fun l hl => Or.inr ⟨_, hs, ?_, ?_⟩)
      (fun k => Or.inr ⟨_, hc, rfl⟩) <;> simp
  | openStream hs hc => exact hL.of_append hr hserves rfl hs hc
  | @greet i l t server hl ht hg hs =>
    have hcarried := hL.carried i l hl
    refine hL.of_set hr hserves hl rfl rfl rfl ?_ (fun j hj => Or.inr ⟨_, hs, by simp, ?_⟩)
      fun k _ => hstays k
    · obtain ⟨t', ht', hp, hsession⟩ := hcarried.task
      obtain rfl := Option.some.inj (ht.symm.trans ht')
      refine ⟨(hr.flow hs l.stream).departed (by simp) hcarried.departed, t, ht, hp, ?_⟩
      rw [hg] at hsession
      rw [(Server.step_transition hs).sessionOf hsession]
      exact congrArg some (if_pos rfl)
    · intro r heq
      injection heq with hstream
      exact hj hstream.symm
  | @take i l st request queue server hl hst hq hs =>
    have hcarried := hL.carried i l hl
    refine hL.of_set hr hserves hl rfl rfl rfl ?_ (fun j hj => Or.inr ⟨_, hs, ?_, by simp⟩)
      fun k _ => hstays k
    · obtain ⟨t, ht, hp, hsession⟩ := hcarried.task
      refine ⟨?_, t, ht, hp, (Server.step_transition hs).sessionOf hsession⟩
      show server.Departed l.stream (y.client.receivedBy l.task ++ (l.inFlight ++ [request]))
      rw [← List.append_assoc]
      exact (hr.flow hs l.stream).departed_take hst hq hcarried.departed
    · intro heq
      injection heq with hstream
      exact hj hstream.symm
  | @deliver i l request rest client hl hf hc =>
    have hcarried := hL.carried i l hl
    refine hL.of_set hr hserves hl rfl rfl rfl ?_ (fun j _ => Or.inl rfl)
      fun k hk => Or.inr ⟨_, hc, if_neg fun hlk => hk hlk.symm⟩
    have hk := (ClientProcess.step_transition hc).taskStep l.task
    obtain ⟨t, ht, hp, hsession⟩ := hcarried.task
    obtain ⟨t', ht', hp', hsid⟩ := hk.keeps ht hp
    refine ⟨?_, t', ht', hp', by rw [hsid]; exact hsession⟩
    have hout : client.receivedBy l.task ++ rest = y.client.receivedBy l.task ++ l.inFlight := by
      rw [hk.receivedBy, hf, List.append_assoc]
      exact congrArg (y.client.receivedBy l.task ++ ·) (congrArg (· ++ rest) (if_pos rfl))
    show y.server.Departed l.stream (client.receivedBy l.task ++ rest)
    rw [hout]
    exact hcarried.departed

/-- In every reachable state a command is in its queue, on the way, or with its task. -/
theorem Reachable.linked {y : System Sigma} (hy : y.Reachable svc h) : y.Linked := by
  obtain ⟨d, m, enabled, sigma, hreaches⟩ := hy
  refine (StepRun.invariant_reaches (P := fun y => y.server.Reachable svc ∧ y.Linked) ?_
    ⟨.refl _, linked_start d m enabled sigma⟩ hreaches).2
  intro y a y' ⟨hr, hL⟩ hstep
  have htrans := step_transition hstep
  refine ⟨?_, htrans.linked hr hL⟩
  rcases htrans.server_step with hsame | ⟨b, hb⟩
  · rw [hsame]
    exact hr
  · exact hr.snoc hb

/-! ## The order of the commands -/

/-- **The contract of the command channels.**  The ids on a stream are strictly
increasing; the client calls `process_command` only for commands that a link has brought
to its task, in the order in which they were placed on the stream, at most one of them
taken and not yet carried out; never twice for a command, by whatever task; and for each
call there is one response, with the id of the command and the session of the stream
(the last may not have been sent yet, and then no further command has been taken). -/
structure InOrder (y : System Sigma) : Prop where
  increasing : ∀ j, ((y.server.placed j).map (·.commandId)).Pairwise (· < ·)
  linked : ∀ e ∈ y.client.executed, ∃ l ∈ y.links, l.task = e.1
  once : (y.client.executed.map fun e => e.2.commandId).Nodup
  served : ∀ l ∈ y.links, ∃ t, y.client.tasks[l.task]? = some t ∧
    y.server.sessionOf l.stream = some (if l.greeted then some t.sessionId else none) ∧
    y.client.executedBy l.task ++ t.phase.taken <+: y.server.placed l.stream ∧
    (y.client.answeredBy l.task ++ t.phase.prepared).map (fun r => (r.commandId, r.sessionId)) =
      (y.client.executedBy l.task).map fun r => (r.commandId, t.sessionId)

/-- Records of several tasks without a repetition, if those of each task are and two
tasks share none. -/
theorem nodup_of_parts {Alpha Beta : Type*} (f : Alpha → Beta) {l : List (ℕ × Alpha)}
    (hshare : ∀ e ∈ l, ∀ e' ∈ l, f e.2 = f e'.2 → e.1 = e'.1)
    (hparts : ∀ k, ((l.filterMap fun e => if e.1 = k then some e.2 else none).map f).Nodup) :
    (l.map fun e => f e.2).Nodup := by
  induction l with
  | nil => exact List.nodup_nil
  | cons e l ih =>
    rw [List.map_cons, List.nodup_cons]
    constructor
    · intro hmem
      obtain ⟨e', he', heq⟩ := List.mem_map.mp hmem
      have hfst := hshare e' (List.mem_cons_of_mem e he') e List.mem_cons_self heq
      have hpart := hparts e.1
      rw [List.filterMap_cons, if_pos rfl, List.map_cons, List.nodup_cons] at hpart
      refine hpart.1 (List.mem_map.mpr ⟨e'.2, ?_, heq⟩)
      exact List.mem_filterMap.mpr ⟨e', he', if_pos hfst⟩
    · refine ih (fun a ha b hb => hshare a (List.mem_cons_of_mem e ha) b
        (List.mem_cons_of_mem e hb)) fun k => ?_
      refine (hparts k).sublist (List.Sublist.map f ?_)
      exact List.Sublist.filterMap _ (List.sublist_cons_self e l)

/-- What a task has carried out was placed on its stream. -/
theorem Linked.received_prefix {y : System Sigma} (hL : y.Linked) {l : Link} (hl : l ∈ y.links) :
    y.client.receivedBy l.task <+: y.server.placed l.stream := by
  obtain ⟨i, hi⟩ := List.mem_iff_getElem?.mp hl
  obtain ⟨queue, -, hprefix, -⟩ := (hL.carried i l hi).departed
  rw [List.append_assoc] at hprefix
  exact (List.prefix_append _ _).trans hprefix

/-- A command that was carried out was so by its task. -/
theorem mem_executedBy {s : ClientProcess Sigma} {e : ℕ × CommandRequest} (he : e ∈ s.executed) :
    e.2 ∈ s.executedBy e.1 :=
  List.mem_filterMap.mpr ⟨e, he, if_pos rfl⟩

/-- **Commands are carried out in the order of their ids, each at most once.** -/
theorem Reachable.inOrder {y : System Sigma} (hy : y.Reachable svc h)
    (hlt : y.server.shared.waiters.length < 2 ^ 64) : y.InOrder := by
  have hL := hy.linked
  have hr := hy.server
  have hlink : ∀ e ∈ y.client.executed, ∃ l ∈ y.links, l.task = e.1 := by
    intro e he
    refine hL.received e.1 fun hnil => ?_
    have hmem := List.mem_append_left (match y.client.tasks[e.1]? with
      | some t => t.phase.taken
      | none => []) (mem_executedBy he)
    rw [ClientProcess.receivedBy] at hnil
    rw [hnil] at hmem
    cases hmem
  have hexecuted : ∀ l ∈ y.links, y.client.executedBy l.task <+: y.server.placed l.stream :=
    fun l hl => (List.prefix_append _ _).trans (hL.received_prefix hl)
  constructor
  case increasing => exact hr.increasing_placed hlt
  case linked => exact hlink
  case once =>
    refine nodup_of_parts CommandRequest.commandId ?_ fun k => ?_
    · -- different tasks have different streams, whose ids are different
      intro e he e' he' heq
      obtain ⟨l, hl, hlk⟩ := hlink e he
      obtain ⟨m, hm, hmk⟩ := hlink e' he'
      by_contra hne
      have hstream : l.stream ≠ m.stream := by
        obtain ⟨i, hi⟩ := List.mem_iff_getElem?.mp hl
        obtain ⟨j, hj⟩ := List.mem_iff_getElem?.mp hm
        intro hsame
        obtain rfl := hL.distinct i j l m hi hj (Or.inr hsame)
        obtain rfl := Option.some.inj (hi.symm.trans hj)
        exact hne (hlk.symm.trans hmk)
      have hplaced := (hexecuted l hl).subset (by rw [hlk]; exact mem_executedBy he)
      have hplaced' := (hexecuted m hm).subset (by rw [hmk]; exact mem_executedBy he')
      exact hr.commandId_ne hlt hstream hplaced hplaced' heq
    · by_cases hk : y.client.executedBy k = []
      · show ((y.client.executedBy k).map _).Nodup
        rw [hk]
        exact List.nodup_nil
      · obtain ⟨l, hl, rfl⟩ := hL.received k fun hnil => hk (List.append_eq_nil_iff.mp hnil).1
        have hincreasing := (hr.increasing_placed hlt l.stream).sublist
          ((hexecuted l hl).map (·.commandId)).sublist
        exact hincreasing.imp fun hlt => UInt64.ne_of_lt hlt
  case served =>
    intro l hl
    obtain ⟨i, hi⟩ := List.mem_iff_getElem?.mp hl
    obtain ⟨t, ht, -, hsession⟩ := (hL.carried i l hi).task
    refine ⟨t, ht, hsession, ?_, (hL.serves l.task).answered t ht⟩
    have hprefix := hL.received_prefix hl
    rw [ClientProcess.receivedBy, ht] at hprefix
    exact hprefix

/-- A client connects, a vpcd client issues a command, and the command is carried out. -/
def relayRun : List (SystemAction ℕ) :=
  [.client (.getReaderInfo ["r"]), .client (.connect (.ok ())),
    .establishSession "s" ⟨"client", "1"⟩, .registerReader, .server (.startClient 0),
    .client .startCommandChannel, .openStream 0, .greet 0, .server (.streamTurn 0),
    .server (.taskConnect 0 (.ok ⟨[[0, 2, 0x00], [0xA4]], .unexpectedEof⟩))] ++
  List.replicate 5 (.server (.taskRun 0 .proceed)) ++
  [.take 0, .deliver 0, .client (.process 0), .respond 0]

/-- The one command of `relayRun` is in order. -/
theorem inOrder_relayRun :
    ∃ y, StepRun.run (step ⟨"127.0.0.1", 35963, true⟩ (flakyCard 9 false))
        (start (.fromSecs 1) (.fromSecs 60) true 0) relayRun = some y ∧
      y.client.executed = [(0, ⟨1, some (.apdu ⟨[0x00, 0xA4]⟩), "r"⟩)] ∧
      y.client.answered.map (fun e => (e.1, e.2.commandId, e.2.sessionId)) = [(0, 1, "s")] ∧
      y.InOrder := by
  have hrun : (StepRun.run (step ⟨"127.0.0.1", 35963, true⟩ (flakyCard 9 false))
      (start (.fromSecs 1) (.fromSecs 60) true 0) relayRun).map
      (fun y => (y.client.executed,
        y.client.answered.map fun e => (e.1, e.2.commandId, e.2.sessionId),
        y.server.shared.waiters.length)) =
      some ([(0, ⟨1, some (.apdu ⟨[0x00, 0xA4]⟩), "r"⟩)], [(0, 1, "s")], 1) := by
    decide
  obtain ⟨y, hy, heq⟩ := Option.map_eq_some_iff.mp hrun
  obtain ⟨hexecuted, hanswered, hlength⟩ := Prod.mk.injEq .. ▸ Prod.mk.injEq .. ▸ heq
  have hreach : y.Reachable ⟨"127.0.0.1", 35963, true⟩ (flakyCard 9 false) :=
    ⟨_, _, _, _, relayRun, hy⟩
  exact ⟨y, hy, hexecuted, hanswered, hreach.inOrder (by rw [hlength]; decide)⟩

end System

end RemoteSmartcard
