/-
# Server and client together

A `System` is the server, one client process, and the command streams between them.
The server's other clients, its vpcd tasks and the time act through `server`; what the
client does on its own, and RPCs of it that fail, through `client`; the other actions
are those in which both take part.

A command stream (`Link`) connects a command task of the client with a stream of the
server.  The transport is reliable and in order: commands leave the queue of the
stream, are on the way, and come to the task in the order in which they were sent.
On its half of the stream the client sends nothing but the initial message.
-/
import RemoteSmartcard.ClientProcess
import RemoteSmartcard.Transitions

namespace RemoteSmartcard

/-- A command stream: the task of the client, the stream of the server, whether the
initial message has got there, and the commands on the way. -/
structure Link where
  task : ℕ
  stream : ℕ
  greeted : Bool
  inFlight : List CommandRequest

/-- The server, a client process, and the command streams between them. -/
structure System (Sigma : Type) where
  server : Server
  client : ClientProcess Sigma
  links : List Link

/-- The actions.  `report` is the registration of a reader by some client, with what its
`get_reader_info` has noted; the others are those of the client process and the server
together. -/
inductive SystemAction (Sigma : Type)
  | server (a : Action)
  | report (sessionId readerName : String) (atr : Except ClientError Bytes)
  | client (a : ClientAction Sigma)
  | establishSession (id : String) (req : ConnectRequest)
  | registerReader
  | heartbeat
  | openStream (k : ℕ)
  | greet (l : ℕ)
  | take (l : ℕ)
  | deliver (l : ℕ)
  | respond (k : ℕ)

/-- `register_reader`: the report for an entry of `get_reader_info`. -/
def registration (sessionId : String) (entry : String × Bytes × Bool) : UpdateReaderInfoRequest :=
  ⟨sessionId, entry.1, entry.2.1, entry.2.2⟩

namespace System

variable {Sigma : Type} (svc : SmartcardService) (h : (o : PcscOp) → Sigma → PcscRet o × Sigma)

/-- Both at their start. -/
def start (initialDelay maxDelay : Duration) (enabled : Bool) (sigma : Sigma) : System Sigma :=
  ⟨Server.init, .start initialDelay maxDelay enabled sigma, []⟩

/-- The action of the server is not one of the client process: it takes no command from
its streams and sends nothing on them, and readers are registered by `report`. -/
def foreign (y : System Sigma) : Action → Bool
  | .takeCommand i => y.links.all fun l => decide (l.stream ≠ i)
  | .streamNext i (some (.ok _)) => y.links.all fun l => decide (l.stream ≠ i)
  | .updateReaderInfo _ => false
  | _ => true

/-- The client does the action without the server, or an RPC of it has failed. -/
def alone : ClientAction Sigma → Bool
  | .establishSession (.ok _) => false
  | .event (.heartbeat (.ok _)) => false
  | .opened _ true => false
  | .next _ (some (.ok _)) => false
  | _ => true

/-- The server takes a step. -/
def serverStep (y : System Sigma) (a : Action) : Option (System Sigma) :=
  (Server.step svc y.server a).map fun server => { y with server := server }

/-- The client takes a step. -/
def clientStep (y : System Sigma) (a : ClientAction Sigma) : Option (System Sigma) :=
  (y.client.step h a).map fun client => { y with client := client }

/-- One step of the system. -/
def step (y : System Sigma) : SystemAction Sigma → Option (System Sigma)
  | .server a => if y.foreign a then y.serverStep svc a else none
  | .report sessionId readerName atr =>
    y.serverStep svc (.updateReaderInfo (registration sessionId (readerEntry readerName atr)))
  | .client a => if alone a then y.clientStep h a else none
  | .establishSession id req =>
    (y.serverStep svc (.establishSession id req)).bind fun y =>
      y.clientStep h (.establishSession (.ok id))
  | .registerReader =>
    match y.client.phase with
    | .registering sessionId (entry :: _) =>
      (y.serverStep svc (.updateReaderInfo (registration sessionId entry))).bind fun y =>
        y.clientStep h .registerReader
    | _ => none
  | .heartbeat =>
    match y.client.phase with
    | .serving sessionId _ _ =>
      (y.serverStep svc (.heartbeat sessionId)).bind fun y' =>
        y'.clientStep h (.event (.heartbeat (.ok (y.server.heartbeat sessionId).1)))
    | _ => none
  | .openStream k =>
    ((y.serverStep svc .commandChannel).bind fun y => y.clientStep h (.opened k true)).map
      fun y' => { y' with links := y.links ++ [⟨k, y.server.streams.length, false, []⟩] }
  | .greet i =>
    match y.links[i]? with
    | some l =>
      match y.client.tasks[l.task]? with
      | some t =>
        if l.greeted then none
        else
          (y.serverStep svc (.streamNext l.stream
              (some (.ok (GrpcClient.initialResponse t.sessionId))))).map fun y =>
            { y with links := y.links.set i { l with greeted := true } }
      | none => none
    | none => none
  | .take i =>
    match y.links[i]? with
    | some l =>
      match (y.server.streams[l.stream]?).bind fun st => st.queue.recv with
      | some (request, _) =>
        (y.serverStep svc (.takeCommand l.stream)).map fun y =>
          { y with links := y.links.set i { l with inFlight := l.inFlight ++ [request] } }
      | none => none
    | none => none
  | .deliver i =>
    match y.links[i]? with
    | some l =>
      match l.inFlight with
      | request :: rest =>
        (y.clientStep h (.next l.task (some (.ok request)))).map fun y =>
          { y with links := y.links.set i { l with inFlight := rest } }
      | [] => none
    | none => none
  | .respond k =>
    match y.client.tasks[k]? with
    | some t =>
      match t.phase with
      | .responding response =>
        (y.serverStep svc (.sendCommandResponse response)).bind fun y => y.clientStep h (.respond k)
      | _ => none
    | none => none

/-- The states the system can get into. -/
def Reachable (y : System Sigma) : Prop :=
  ∃ d m enabled sigma, StepRun.Reaches (step svc h) (start d m enabled sigma) y

/-! ## The inversion of the steps -/

variable {svc h}

theorem serverStep_eq_some {y y' : System Sigma} {a : Action} :
    y.serverStep svc a = some y' ↔
      ∃ server, Server.step svc y.server a = some server ∧ y' = { y with server := server } := by
  unfold serverStep
  rw [Option.map_eq_some_iff]
  simp only [eq_comm]

theorem clientStep_eq_some {y y' : System Sigma} {a : ClientAction Sigma} :
    y.clientStep h a = some y' ↔
      ∃ client, y.client.step h a = some client ∧ y' = { y with client := client } := by
  unfold clientStep
  rw [Option.map_eq_some_iff]
  simp only [eq_comm]

variable (svc h)

/-- What each action can do, with the steps of the two parts. -/
inductive Transition (y : System Sigma) : SystemAction Sigma → System Sigma → Prop
  | server {a : Action} {server : Server} (ha : y.foreign a = true)
      (hs : Server.step svc y.server a = some server) :
      Transition y (.server a) { y with server := server }
  | report {sessionId readerName : String} {atr : Except ClientError Bytes} {server : Server}
      (hs : Server.step svc y.server
        (.updateReaderInfo (registration sessionId (readerEntry readerName atr))) = some server) :
      Transition y (.report sessionId readerName atr) { y with server := server }
  | client {a : ClientAction Sigma} {client : ClientProcess Sigma} (ha : alone a = true)
      (hc : y.client.step h a = some client) :
      Transition y (.client a) { y with client := client }
  | establishSession {id : String} {req : ConnectRequest} {server : Server}
      {client : ClientProcess Sigma}
      (hs : Server.step svc y.server (.establishSession id req) = some server)
      (hc : y.client.step h (.establishSession (.ok id)) = some client) :
      Transition y (.establishSession id req) { y with server := server, client := client }
  | registerReader {sessionId : String} {entry : String × Bytes × Bool}
      {readerInfo : List (String × Bytes × Bool)} {server : Server}
      {client : ClientProcess Sigma}
      (hp : y.client.phase = .registering sessionId (entry :: readerInfo))
      (hs : Server.step svc y.server (.updateReaderInfo (registration sessionId entry)) =
        some server)
      (hc : y.client.step h .registerReader = some client) :
      Transition y .registerReader { y with server := server, client := client }
  | heartbeat {sessionId : String} {valid : Bool} {server : Server} {client : ClientProcess Sigma}
      (hs : Server.step svc y.server (.heartbeat sessionId) = some server)
      (hc : y.client.step h (.event (.heartbeat (.ok valid))) = some client) :
      Transition y .heartbeat { y with server := server, client := client }
  | openStream {k : ℕ} {server : Server} {client : ClientProcess Sigma}
      (hs : Server.step svc y.server .commandChannel = some server)
      (hc : y.client.step h (.opened k true) = some client) :
      Transition y (.openStream k) { y with
        server := server
        client := client
        links := y.links ++ [⟨k, y.server.streams.length, false, []⟩] }
  | greet {i : ℕ} {l : Link} {t : CommandTask} {server : Server} (hl : y.links[i]? = some l)
      (ht : y.client.tasks[l.task]? = some t) (hg : l.greeted = false)
      (hs : Server.step svc y.server (.streamNext l.stream
        (some (.ok (GrpcClient.initialResponse t.sessionId)))) = some server) :
      Transition y (.greet i) { y with
        server := server
        links := y.links.set i { l with greeted := true } }
  | take {i : ℕ} {l : Link} {st : CommandStream} {request : CommandRequest}
      {queue : Mpsc CommandRequest} {server : Server} (hl : y.links[i]? = some l)
      (hst : y.server.streams[l.stream]? = some st) (hq : st.queue.recv = some (request, queue))
      (hs : Server.step svc y.server (.takeCommand l.stream) = some server) :
      Transition y (.take i) { y with
        server := server
        links := y.links.set i { l with inFlight := l.inFlight ++ [request] } }
  | deliver {i : ℕ} {l : Link} {request : CommandRequest} {rest : List CommandRequest}
      {client : ClientProcess Sigma} (hl : y.links[i]? = some l) (hf : l.inFlight = request :: rest)
      (hc : y.client.step h (.next l.task (some (.ok request))) = some client) :
      Transition y (.deliver i) { y with
        client := client
        links := y.links.set i { l with inFlight := rest } }
  | respond {k : ℕ} {response : CommandResponse} {server : Server} {client : ClientProcess Sigma}
      (hs : Server.step svc y.server (.sendCommandResponse response) = some server)
      (hc : y.client.step h (.respond k) = some client) :
      Transition y (.respond k) { y with server := server, client := client }

variable {svc h}

/-- A step of the server followed by one of the client. -/
theorem both_eq_some {y y' : System Sigma} {a : Action} {b : ClientAction Sigma}
    (hy : ((y.serverStep svc a).bind fun y => y.clientStep h b) = some y') :
    ∃ server client, Server.step svc y.server a = some server ∧
      y.client.step h b = some client ∧ y' = { y with server := server, client := client } := by
  obtain ⟨y₁, hy₁, hy⟩ := Option.bind_eq_some_iff.mp hy
  obtain ⟨server, hs, rfl⟩ := serverStep_eq_some.mp hy₁
  obtain ⟨client, hc, rfl⟩ := clientStep_eq_some.mp hy
  exact ⟨server, client, hs, hc, rfl⟩

/-- **The inversion of the step function.** -/
theorem step_transition {y y' : System Sigma} {a : SystemAction Sigma}
    (hy : y.step svc h a = some y') : Transition svc h y a y' := by
  cases a with
  | server a =>
    simp only [step] at hy
    split at hy
    · rename_i ha
      obtain ⟨server, hs, rfl⟩ := serverStep_eq_some.mp hy
      exact .server ha hs
    · cases hy
  | report sessionId readerName atr =>
    obtain ⟨server, hs, rfl⟩ := serverStep_eq_some.mp hy
    exact .report hs
  | client a =>
    simp only [step] at hy
    split at hy
    · rename_i ha
      obtain ⟨client, hc, rfl⟩ := clientStep_eq_some.mp hy
      exact .client ha hc
    · cases hy
  | establishSession id req =>
    obtain ⟨server, client, hs, hc, rfl⟩ := both_eq_some hy
    exact .establishSession hs hc
  | registerReader =>
    simp only [step] at hy
    split at hy
    · rename_i hp
      obtain ⟨server, client, hs, hc, rfl⟩ := both_eq_some hy
      exact .registerReader hp hs hc
    · cases hy
  | heartbeat =>
    simp only [step] at hy
    split at hy
    · obtain ⟨server, client, hs, hc, rfl⟩ := both_eq_some hy
      exact .heartbeat hs hc
    · cases hy
  | openStream k =>
    obtain ⟨y₁, hy₁, rfl⟩ := Option.map_eq_some_iff.mp hy
    obtain ⟨server, client, hs, hc, rfl⟩ := both_eq_some hy₁
    exact .openStream hs hc
  | greet i =>
    simp only [step] at hy
    split at hy
    · rename_i l hl
      split at hy
      · rename_i t ht
        split at hy
        · cases hy
        · rename_i hg
          obtain ⟨y₁, hy₁, rfl⟩ := Option.map_eq_some_iff.mp hy
          obtain ⟨server, hs, rfl⟩ := serverStep_eq_some.mp hy₁
          exact .greet hl ht (by simpa using hg) hs
      · cases hy
    · cases hy
  | take i =>
    simp only [step] at hy
    split at hy
    · rename_i l hl
      split at hy
      · rename_i request queue hrecv
        obtain ⟨st, hst, hq⟩ := Option.bind_eq_some_iff.mp hrecv
        obtain ⟨y₁, hy₁, rfl⟩ := Option.map_eq_some_iff.mp hy
        obtain ⟨server, hs, rfl⟩ := serverStep_eq_some.mp hy₁
        exact .take hl hst hq hs
      · cases hy
    · cases hy
  | deliver i =>
    simp only [step] at hy
    split at hy
    · rename_i l hl
      split at hy
      · rename_i request rest hf
        obtain ⟨y₁, hy₁, rfl⟩ := Option.map_eq_some_iff.mp hy
        obtain ⟨client, hc, rfl⟩ := clientStep_eq_some.mp hy₁
        exact .deliver hl hf hc
      · cases hy
    · cases hy
  | respond k =>
    simp only [step] at hy
    split at hy
    · split at hy
      · obtain ⟨server, client, hs, hc, rfl⟩ := both_eq_some hy
        exact .respond hs hc
      · cases hy
    · cases hy

/-- In a step of the system the server takes a step, or stays. -/
theorem Transition.server_step {y y' : System Sigma} {a : SystemAction Sigma}
    (hy : Transition svc h y a y') :
    y'.server = y.server ∨ ∃ b, Server.step svc y.server b = some y'.server := by
  cases hy with
  | client ha hc => exact Or.inl rfl
  | deliver hl hf hc => exact Or.inl rfl
  | server ha hs => exact Or.inr ⟨_, hs⟩
  | report hs => exact Or.inr ⟨_, hs⟩
  | establishSession hs hc => exact Or.inr ⟨_, hs⟩
  | registerReader hp hs hc => exact Or.inr ⟨_, hs⟩
  | heartbeat hs hc => exact Or.inr ⟨_, hs⟩
  | openStream hs hc => exact Or.inr ⟨_, hs⟩
  | greet hl ht hg hs => exact Or.inr ⟨_, hs⟩
  | take hl hst hq hs => exact Or.inr ⟨_, hs⟩
  | respond hs hc => exact Or.inr ⟨_, hs⟩

/-- **The server of the system runs as a server.** -/
theorem Reachable.server {y : System Sigma} (hy : y.Reachable svc h) :
    y.server.Reachable svc := by
  obtain ⟨d, m, enabled, sigma, hreaches⟩ := hy
  refine StepRun.invariant_reaches (P := fun y => y.server.Reachable svc) ?_ (.refl _) hreaches
  intro y a y' hP hstep
  rcases (step_transition hstep).server_step with hsame | ⟨b, hb⟩
  · rw [hsame]
    exact hP
  · exact hP.snoc hb

end System

end RemoteSmartcard
