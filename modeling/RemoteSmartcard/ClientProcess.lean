/-
# The client process (`client/src/main.rs`, `client/src/grpc_client.rs`)

The loop of `main` with its calls of `run_connection`, and the tasks that
`start_command_channel` has spawned.  A task owns its stream of commands; it is
detached, so `run_connection` can return while it is still listening.

An action is what the loop or one task does up to the next point where it awaits
something, with what it was answered there.  The calls into `pcsc_reader` hold the
lock of `CARD_CONNECTIONS`, so those of one command, and those of one reader in
`get_reader_info`, come without those of other tasks in between; they are run against
a handler `h` of PC/SC, whose state is `Sigma`.

`executed` and `answered` record the commands handed to `process_command` and the
responses handed to `send_command_response`, each with its task.
-/
import RemoteSmartcard.ReconnectLoop

namespace RemoteSmartcard

open Program hiding pure

/-! ## The local readers -/

/-- What `get_reader_info` notes for a reader: its name, the ATR, and whether there is
a card. -/
def readerEntry (reader : String) : Except ClientError Bytes → String × Bytes × Bool
  | .ok atr => (reader, atr, true)
  | .error _ => (reader, [], false)

/-- `get_reader_info`, for the readers that `list_readers` gives (none when it fails);
`list_readers` itself, with a context of its own, is not modelled. -/
def getReaderInfo (g : CardConnections) :
    List String → PcscProgram (List (String × Bytes × Bool) × CardConnections)
  | [] => pure ([], g)
  | reader :: readers => do
    let (atr, g) ← g.getAtr reader
    let (info, g) ← getReaderInfo g readers
    pure (readerEntry reader atr :: info, g)

/-! ## The state -/

/-- Where a task of `start_command_channel` stands: opening the stream, waiting for the
next command, carrying one out, responding, or after its loop. -/
inductive CommandTaskPhase
  | opening
  | listening
  | processing (request : CommandRequest)
  | responding (response : CommandResponse)
  | ended
  deriving DecidableEq

/-- A task of `start_command_channel`. -/
structure CommandTask where
  sessionId : String
  phase : CommandTaskPhase
  deriving DecidableEq

/-- Where `main` stands: before the next call of `run_connection`, in it, or after its
return, until the end of the round.  While it serves, `task` is the task of the
connection and `events` is what the `select!` has come upon. -/
inductive ConnectionPhase
  | idle
  | connecting (readerInfo : List (String × Bytes × Bool))
  | establishing (readerInfo : List (String × Bytes × Bool))
  | registering (sessionId : String) (readerInfo : List (String × Bytes × Bool))
  | serving (sessionId : String) (task : ℕ) (events : List ConnectionEvent)
  | returned (attempt : Attempt)

/-- The state of the process. -/
structure ClientProcess (Sigma : Type) where
  loop : MainLoop
  phase : ConnectionPhase
  tasks : List CommandTask
  cards : CardConnections
  surroundings : Sigma
  executed : List (ℕ × CommandRequest)
  answered : List (ℕ × CommandResponse)

/-- The actions.  `surroundings` is what happens to the readers and cards meanwhile;
the outcome of registering a reader and of a response is only logged. -/
inductive ClientAction (Sigma : Type)
  | surroundings (sigma : Sigma)
  | getReaderInfo (readers : List String)
  | connect (outcome : Except ClientError Unit)
  | establishSession (outcome : Except String String)
  | registerReader
  | startCommandChannel
  | event (e : ConnectionEvent)
  | endRound (wait : Wait) (shutdown : Bool)
  | opened (k : ℕ) (success : Bool)
  | next (k : ℕ) (item : Option (Except String CommandRequest))
  | process (k : ℕ)
  | respond (k : ℕ)

namespace ClientProcess

variable {Sigma : Type} (h : (o : PcscOp) → Sigma → PcscRet o × Sigma)

/-- The process at its start. -/
def start (initialDelay maxDelay : Duration) (enabled : Bool) (sigma : Sigma) :
    ClientProcess Sigma :=
  ⟨.start initialDelay maxDelay enabled, .idle, [], none, sigma, [], []⟩

/-- The task `k` is after its loop, so that `cmd_shutdown.recv()` returns. -/
def taskEnded (s : ClientProcess Sigma) (k : ℕ) : Bool :=
  match s.tasks[k]? with
  | some t => decide (t.phase = .ended)
  | none => false

/-- What the `select!` can come upon. -/
def eventEnabled (s : ClientProcess Sigma) (k : ℕ) : ConnectionEvent → Bool
  | .channelClosed => s.taskEnded k
  | _ => true

/-- Move the task `k` on. -/
def setPhase (s : ClientProcess Sigma) (k : ℕ) (t : CommandTask) (phase : CommandTaskPhase) :
    ClientProcess Sigma :=
  { s with tasks := s.tasks.set k { t with phase := phase } }

/-! ## The steps -/

/-- `process_command` on the local card, by the task `k`. -/
def process (s : ClientProcess Sigma) (k : ℕ) (t : CommandTask) (request : CommandRequest) :
    ClientProcess Sigma :=
  let result := exec h (GrpcClient.processCommand s.cards t.sessionId request) s.surroundings
  { s with
    tasks := s.tasks.set k { t with phase := .responding result.1.1 }
    cards := result.1.2
    surroundings := result.2.2
    executed := s.executed ++ [(k, request)] }

/-- One step of the task `k`. -/
def taskStep (s : ClientProcess Sigma) (k : ℕ) (t : CommandTask) :
    ClientAction Sigma → Option (ClientProcess Sigma)
  | .opened _ success =>
    match t.phase with
    | .opening => some (s.setPhase k t (if success then .listening else .ended))
    | _ => none
  | .next _ item =>
    match t.phase with
    | .listening =>
      match item with
      | some (.ok request) => some (s.setPhase k t (.processing request))
      | some (.error _) => some (s.setPhase k t .ended)
      | none => some (s.setPhase k t .ended)
    | _ => none
  | .process _ =>
    match t.phase with
    | .processing request => some (s.process h k t request)
    | _ => none
  | .respond _ =>
    match t.phase with
    | .responding response =>
      some { s.setPhase k t .listening with answered := s.answered ++ [(k, response)] }
    | _ => none
  | _ => none

/-- The `select!` of `run_connection` comes upon `e`. -/
def serve (s : ClientProcess Sigma) (sessionId : String) (k : ℕ) (events : List ConnectionEvent)
    (e : ConnectionEvent) : ClientProcess Sigma :=
  let attempt : Attempt := ⟨.ok (), .ok sessionId, events ++ [e]⟩
  match runConnection attempt with
  | none => { s with phase := .serving sessionId k (events ++ [e]) }
  | some _ => { s with phase := .returned attempt }

/-- One step of `main`. -/
def mainStep (s : ClientProcess Sigma) : ClientAction Sigma → Option (ClientProcess Sigma)
  | .getReaderInfo readers =>
    match s.phase with
    | .idle =>
      let result := exec h (RemoteSmartcard.getReaderInfo s.cards readers) s.surroundings
      some { s with
        phase := .connecting result.1.1
        cards := result.1.2
        surroundings := result.2.2 }
    | _ => none
  | .connect outcome =>
    match s.phase with
    | .connecting readerInfo =>
      match outcome with
      | .ok () => some { s with phase := .establishing readerInfo }
      | .error e => some { s with phase := .returned ⟨.error e, .error "", []⟩ }
    | _ => none
  | .establishSession outcome =>
    match s.phase with
    | .establishing readerInfo =>
      match outcome with
      | .ok sessionId => some { s with phase := .registering sessionId readerInfo }
      | .error e => some { s with phase := .returned ⟨.ok (), .error e, []⟩ }
    | _ => none
  | .registerReader =>
    match s.phase with
    | .registering sessionId (_ :: readerInfo) =>
      some { s with phase := .registering sessionId readerInfo }
    | _ => none
  | .startCommandChannel =>
    match s.phase with
    | .registering sessionId [] =>
      some { s with
        phase := .serving sessionId s.tasks.length []
        tasks := s.tasks ++ [⟨sessionId, .opening⟩] }
    | _ => none
  | .event e =>
    match s.phase with
    | .serving sessionId k events =>
      if s.eventEnabled k e then some (s.serve sessionId k events e) else none
    | _ => none
  | .endRound wait shutdown =>
    match s.phase with
    | .returned attempt =>
      (s.loop.round ⟨attempt, wait, shutdown⟩).map fun loop =>
        { s with loop := loop, phase := if loop.result.isSome then s.phase else .idle }
    | _ => none
  | _ => none

/-- The task that an action is of. -/
def taskOf : ClientAction Sigma → Option ℕ
  | .opened k _ => some k
  | .next k _ => some k
  | .process k => some k
  | .respond k => some k
  | _ => none

/-- One step of the process; none once `main` has returned. -/
def step (s : ClientProcess Sigma) (a : ClientAction Sigma) : Option (ClientProcess Sigma) :=
  if s.loop.result.isSome then none
  else
    match a with
    | .surroundings sigma => some { s with surroundings := sigma }
    | a =>
      match taskOf a with
      | some k =>
        match s.tasks[k]? with
        | some t => s.taskStep h k t a
        | none => none
      | none => s.mainStep h a

/-! ## The inversion of the steps -/

/-- What each action can do. -/
inductive Transition (s : ClientProcess Sigma) : ClientAction Sigma → ClientProcess Sigma → Prop
  | surroundings {sigma : Sigma} :
      Transition s (.surroundings sigma) { s with surroundings := sigma }
  | getReaderInfo {readers : List String} (hp : s.phase = .idle) :
      Transition s (.getReaderInfo readers) { s with
        phase := .connecting
          (exec h (RemoteSmartcard.getReaderInfo s.cards readers) s.surroundings).1.1
        cards := (exec h (RemoteSmartcard.getReaderInfo s.cards readers) s.surroundings).1.2
        surroundings :=
          (exec h (RemoteSmartcard.getReaderInfo s.cards readers) s.surroundings).2.2 }
  | connected {readerInfo : List (String × Bytes × Bool)} (hp : s.phase = .connecting readerInfo) :
      Transition s (.connect (.ok ())) { s with phase := .establishing readerInfo }
  | unreachable {readerInfo : List (String × Bytes × Bool)} {e : ClientError}
      (hp : s.phase = .connecting readerInfo) :
      Transition s (.connect (.error e)) { s with phase := .returned ⟨.error e, .error "", []⟩ }
  | established {readerInfo : List (String × Bytes × Bool)} {sessionId : String}
      (hp : s.phase = .establishing readerInfo) :
      Transition s (.establishSession (.ok sessionId))
        { s with phase := .registering sessionId readerInfo }
  | refused {readerInfo : List (String × Bytes × Bool)} {e : String}
      (hp : s.phase = .establishing readerInfo) :
      Transition s (.establishSession (.error e))
        { s with phase := .returned ⟨.ok (), .error e, []⟩ }
  | registered {sessionId : String} {entry : String × Bytes × Bool}
      {readerInfo : List (String × Bytes × Bool)}
      (hp : s.phase = .registering sessionId (entry :: readerInfo)) :
      Transition s .registerReader { s with phase := .registering sessionId readerInfo }
  | started {sessionId : String} (hp : s.phase = .registering sessionId []) :
      Transition s .startCommandChannel { s with
        phase := .serving sessionId s.tasks.length []
        tasks := s.tasks ++ [⟨sessionId, .opening⟩] }
  | event {sessionId : String} {k : ℕ} {events : List ConnectionEvent} {e : ConnectionEvent}
      (hp : s.phase = .serving sessionId k events) (he : s.eventEnabled k e = true) :
      Transition s (.event e) (s.serve sessionId k events e)
  | endRound {attempt : Attempt} {wait : Wait} {shutdown : Bool} {loop : MainLoop}
      (hp : s.phase = .returned attempt)
      (hround : s.loop.round ⟨attempt, wait, shutdown⟩ = some loop) :
      Transition s (.endRound wait shutdown)
        { s with loop := loop, phase := if loop.result.isSome then s.phase else .idle }
  | opened {k : ℕ} {t : CommandTask} {success : Bool} (ht : s.tasks[k]? = some t)
      (hp : t.phase = .opening) :
      Transition s (.opened k success) (s.setPhase k t (if success then .listening else .ended))
  | command {k : ℕ} {t : CommandTask} {request : CommandRequest} (ht : s.tasks[k]? = some t)
      (hp : t.phase = .listening) :
      Transition s (.next k (some (.ok request))) (s.setPhase k t (.processing request))
  | ended {k : ℕ} {t : CommandTask} {item : Option (Except String CommandRequest)}
      (ht : s.tasks[k]? = some t) (hp : t.phase = .listening)
      (hitem : ∀ request, item ≠ some (.ok request)) :
      Transition s (.next k item) (s.setPhase k t .ended)
  | processed {k : ℕ} {t : CommandTask} {request : CommandRequest} (ht : s.tasks[k]? = some t)
      (hp : t.phase = .processing request) :
      Transition s (.process k) (s.process h k t request)
  | responded {k : ℕ} {t : CommandTask} {response : CommandResponse} (ht : s.tasks[k]? = some t)
      (hp : t.phase = .responding response) :
      Transition s (.respond k)
        { s.setPhase k t .listening with answered := s.answered ++ [(k, response)] }

variable {h}

/-- A step of a command task, by the phase it is in. -/
theorem taskStep_transition {s s' : ClientProcess Sigma} {k : ℕ} {t : CommandTask}
    {a : ClientAction Sigma} (hk : taskOf a = some k) (ht : s.tasks[k]? = some t)
    (hs : s.taskStep h k t a = some s') : Transition h s a s' := by
  cases a with
  | opened _ success =>
    cases hk
    simp only [taskStep] at hs
    split at hs
    · rename_i hp
      cases hs
      exact .opened ht hp
    · cases hs
  | next _ item =>
    cases hk
    simp only [taskStep] at hs
    split at hs
    · rename_i hp
      split at hs
      · cases hs
        exact .command ht hp
      · cases hs
        exact .ended ht hp (by simp)
      · cases hs
        exact .ended ht hp (by simp)
    · cases hs
  | process _ =>
    cases hk
    simp only [taskStep] at hs
    split at hs
    · rename_i request hp
      cases hs
      exact .processed ht hp
    · cases hs
  | respond _ =>
    cases hk
    simp only [taskStep] at hs
    split at hs
    · rename_i response hp
      cases hs
      exact .responded ht hp
    · cases hs
  | _ => cases hk

/-- A step of the main task, by the phase it is in. -/
theorem mainStep_transition {s s' : ClientProcess Sigma} {a : ClientAction Sigma}
    (hs : s.mainStep h a = some s') : Transition h s a s' := by
  cases a with
  | getReaderInfo readers =>
    simp only [mainStep] at hs
    split at hs
    · rename_i hp
      cases hs
      exact .getReaderInfo hp
    · cases hs
  | connect outcome =>
    simp only [mainStep] at hs
    split at hs
    · rename_i readerInfo hp
      split at hs
      · cases hs
        exact .connected hp
      · cases hs
        exact .unreachable hp
    · cases hs
  | establishSession outcome =>
    simp only [mainStep] at hs
    split at hs
    · rename_i readerInfo hp
      split at hs
      · cases hs
        exact .established hp
      · cases hs
        exact .refused hp
    · cases hs
  | registerReader =>
    simp only [mainStep] at hs
    split at hs
    · rename_i hp
      cases hs
      exact .registered hp
    · cases hs
  | startCommandChannel =>
    simp only [mainStep] at hs
    split at hs
    · rename_i hp
      cases hs
      exact .started hp
    · cases hs
  | event e =>
    simp only [mainStep] at hs
    split at hs
    · rename_i hp
      split at hs
      · rename_i he
        cases hs
        exact .event hp he
      · cases hs
    · cases hs
  | endRound wait shutdown =>
    simp only [mainStep] at hs
    split at hs
    · rename_i attempt hp
      obtain ⟨loop, hround, rfl⟩ := Option.map_eq_some_iff.mp hs
      exact .endRound hp hround
    · cases hs
  | _ => cases hs

/-- **The inversion of the step function.** -/
theorem step_transition {s s' : ClientProcess Sigma} {a : ClientAction Sigma}
    (hs : s.step h a = some s') : Transition h s a s' := by
  unfold step at hs
  split at hs
  · cases hs
  · split at hs
    · cases hs
      exact .surroundings
    · split at hs
      · rename_i k hk
        split at hs
        · rename_i t ht
          exact taskStep_transition hk ht hs
        · cases hs
      · exact mainStep_transition hs

end ClientProcess

end RemoteSmartcard
