/-
# Who drives the card

A command task that has not ended carries out every command that comes on its
stream.  So only the session of `run_connection` drives the card as long as no task is
left behind: `SoleDriver`.  `run_connection` leaves its task behind exactly when it
gives up because of the heartbeats while the task is still there (`soleDriver_iff`);
when it is told that the command channel is closed, the task has ended.
-/
import RemoteSmartcard.ClientProcess

namespace RemoteSmartcard

open Program hiding pure

/-! ## When a connection is given up -/

/-- The number of consecutive heartbeat failures after an event. -/
def failuresAfter (failures : ℕ) : ConnectionEvent → ℕ
  | .heartbeat (.ok _) => 0
  | .heartbeat (.error _) => failures + 1
  | _ => failures

/-- After these events the event `e` has `run_connection` give up because of the
heartbeats: the session is not valid, or it is the third failure in a row. -/
def givesUp (events : List ConnectionEvent) : ConnectionEvent → Bool
  | .heartbeat (.ok sessionValid) => !sessionValid
  | .heartbeat (.error _) => decide (maxHeartbeatFailures ≤ events.foldl failuresAfter 0 + 1)
  | _ => false

theorem connectionLoop_snoc {failures : ℕ} {events : List ConnectionEvent}
    (hlive : connectionLoop failures events = none) (e : ConnectionEvent) :
    connectionLoop failures (events ++ [e]) =
      connectionLoop (events.foldl failuresAfter failures) [e] := by
  induction events generalizing failures with
  | nil => rfl
  | cons e' es ih =>
    rw [List.cons_append, List.foldl_cons]
    match e' with
    | .heartbeat (.ok sessionValid) =>
      simp only [connectionLoop] at hlive ⊢
      split at hlive
      · rename_i hvalid
        rw [if_pos hvalid]
        exact ih hlive
      · cases hlive
    | .heartbeat (.error text) =>
      simp only [connectionLoop] at hlive ⊢
      split at hlive
      · cases hlive
      · rename_i hfew
        rw [if_neg hfew]
        exact ih hlive
    | .channelClosed => cases hlive
    | .shutdownChanged value =>
      simp only [connectionLoop] at hlive ⊢
      split at hlive
      · cases hlive
      · rename_i hvalue
        rw [if_neg hvalue]
        exact ih hlive

/-- A connection that lives comes upon one event more: it is lost if the heartbeats
have it given up or the command channel is closed. -/
theorem runConnection_snoc {sessionId : String} {events : List ConnectionEvent}
    (hlive : runConnection ⟨.ok (), .ok sessionId, events⟩ = none) (e : ConnectionEvent) :
    (∃ error, runConnection ⟨.ok (), .ok sessionId, events ++ [e]⟩ = some (.error error)) ↔
      givesUp events e = true ∨ e = .channelClosed := by
  have hsnoc : runConnection ⟨.ok (), .ok sessionId, events ++ [e]⟩ =
      connectionLoop (events.foldl failuresAfter 0) [e] := connectionLoop_snoc hlive e
  rw [hsnoc]
  match e with
  | .heartbeat (.ok sessionValid) => cases sessionValid <;> simp [connectionLoop, givesUp]
  | .heartbeat (.error text) =>
    simp only [connectionLoop, givesUp]
    split <;> simp_all
  | .channelClosed => simp [connectionLoop]
  | .shutdownChanged value => cases value <;> simp [connectionLoop, givesUp]

namespace ClientProcess

variable {Sigma : Type} {h : (o : PcscOp) → Sigma → PcscRet o × Sigma}

/-! ## The property -/

/-- The task `k` is that of the session that `run_connection` serves; or that of the
last one, when a shutdown has been requested. -/
def Drives (s : ClientProcess Sigma) (k : ℕ) (t : CommandTask) : Prop :=
  (∃ events, s.phase = .serving t.sessionId k events) ∨
    ∃ events, s.phase = .returned ⟨.ok (), .ok t.sessionId, events⟩ ∧
      runConnection ⟨.ok (), .ok t.sessionId, events⟩ = some (.ok ()) ∧ k + 1 = s.tasks.length

/-- Only the current session drives the card: no other task is left that would carry
out a command if one came, there is one at most, and the commands carried out are
grouped by task, one session after the other. -/
structure SoleDriver (s : ClientProcess Sigma) : Prop where
  current : ∀ (k : ℕ) (t : CommandTask), s.tasks[k]? = some t → t.phase ≠ .ended → s.Drives k t
  unique : ∀ (k k' : ℕ) (t t' : CommandTask), s.tasks[k]? = some t → t.phase ≠ .ended →
    s.tasks[k']? = some t' → t'.phase ≠ .ended → k = k'
  grouped : (s.executed.map Prod.fst).Pairwise (· ≤ ·)

/-- `run_connection` gives up because of the heartbeats only when its command task has
ended. -/
def endsWithTask (s : ClientProcess Sigma) : ClientAction Sigma → Bool
  | .event e =>
    match s.phase with
    | .serving _ k events => !givesUp events e || s.taskEnded k
    | _ => true
  | _ => true

/-! ## The invariant -/

/-- The tasks of the process; the newest one belongs to the connection served. -/
structure OneTask (s : ClientProcess Sigma) : Prop where
  drives : ∀ (k : ℕ) (t : CommandTask), s.tasks[k]? = some t → t.phase ≠ .ended → s.Drives k t
  serving : ∀ sessionId k events, s.phase = .serving sessionId k events →
    k + 1 = s.tasks.length ∧ (∃ t, s.tasks[k]? = some t ∧ t.sessionId = sessionId) ∧
      runConnection ⟨.ok (), .ok sessionId, events⟩ = none
  grouped : (s.executed.map Prod.fst).Pairwise (· ≤ ·)
  executed : ∀ e ∈ s.executed, e.1 < s.tasks.length
  result : s.loop.result.isSome → ∃ attempt, s.phase = .returned attempt

theorem oneTask_start (d m : Duration) (enabled : Bool) (sigma : Sigma) :
    (start d m enabled sigma).OneTask where
  drives := by intro k t ht; simp [start] at ht
  serving := by intro sessionId k events hp; cases hp
  grouped := .nil
  executed := by intro e he; cases he
  result := by intro hr; cases hr

/-- The task that drives the card is the newest. -/
theorem OneTask.newest {s : ClientProcess Sigma} (ho : s.OneTask) {k : ℕ} {t : CommandTask}
    (hd : s.Drives k t) : k + 1 = s.tasks.length := by
  rcases hd with ⟨events, hp⟩ | ⟨events, -, -, hk⟩
  · exact (ho.serving _ _ _ hp).1
  · exact hk

theorem OneTask.soleDriver {s : ClientProcess Sigma} (ho : s.OneTask) : s.SoleDriver where
  current := ho.drives
  unique := by
    intro k k' t t' ht hlive ht' hlive'
    have hk := ho.newest (ho.drives k t ht hlive)
    have hk' := ho.newest (ho.drives k' t' ht' hlive')
    omega
  grouped := ho.grouped

/-- Where no task drives the card, `main` moves on and the tasks stay. -/
theorem OneTask.of_between {s s' : ClientProcess Sigma} (ho : s.OneTask)
    (hnot : ∀ k t, ¬ s.Drives k t) (htasks : s'.tasks = s.tasks)
    (hexecuted : s'.executed = s.executed)
    (hphase : ∀ sessionId k events, s'.phase ≠ .serving sessionId k events)
    (hresult : s'.loop.result.isSome → ∃ attempt, s'.phase = .returned attempt) :
    s'.OneTask where
  drives := by
    intro k t ht hlive
    exact absurd (ho.drives k t (htasks ▸ ht) hlive) (hnot k t)
  serving := fun sessionId k events hp => absurd hp (hphase sessionId k events)
  grouped := hexecuted ▸ ho.grouped
  executed := by
    rw [hexecuted, htasks]
    exact ho.executed
  result := hresult

theorem Drives.congr {s s' : ClientProcess Sigma} {k : ℕ} {t t' : CommandTask} (h : s.Drives k t)
    (hphase : s'.phase = s.phase) (hlength : s'.tasks.length = s.tasks.length)
    (hsid : t'.sessionId = t.sessionId) : s'.Drives k t' := by
  unfold Drives
  rw [hphase, hlength, hsid]
  exact h

/-- A task that has not ended moves on, and may have carried out commands. -/
theorem OneTask.of_set {s s' : ClientProcess Sigma} (ho : s.OneTask) {k : ℕ} {t t' : CommandTask}
    (ht : s.tasks[k]? = some t) (hlive : t.phase ≠ .ended) (htasks : s'.tasks = s.tasks.set k t')
    (hsid : t'.sessionId = t.sessionId) (hphase : s'.phase = s.phase) (hloop : s'.loop = s.loop)
    {new : List (ℕ × CommandRequest)} (hexecuted : s'.executed = s.executed ++ new)
    (hnew : ∀ e ∈ new, e.1 = k) : s'.OneTask := by
  have hdrives := ho.drives k t ht hlive
  have hnewest := ho.newest hdrives
  have hlength : s'.tasks.length = s.tasks.length := by rw [htasks, List.length_set]
  have hself : s'.tasks[k]? = some t' := by
    rw [htasks]
    exact List.getElem?_set_self (by omega)
  constructor
  case drives =>
    intro j t₀ ht₀ hlive₀
    rw [htasks, List.getElem?_set] at ht₀
    split_ifs at ht₀ with hj
    · cases ht₀
      subst hj
      exact hdrives.congr hphase hlength hsid
    · exact (ho.drives j t₀ ht₀ hlive₀).congr hphase hlength rfl
  case serving =>
    intro sessionId j events hp
    obtain ⟨hj, ⟨t₀, ht₀, hsid₀⟩, hconn⟩ := ho.serving sessionId j events (hphase ▸ hp)
    refine ⟨by omega, ?_, hconn⟩
    obtain rfl : j = k := by omega
    obtain rfl := Option.some.inj (ht.symm.trans ht₀)
    exact ⟨t', hself, hsid.trans hsid₀⟩
  case grouped =>
    -- the earlier commands were carried out by tasks no newer than this one
    rw [hexecuted, List.map_append, List.pairwise_append]
    refine ⟨ho.grouped, ?_, ?_⟩
    · refine List.pairwise_of_forall_mem_list fun i hi j hj => ?_
      obtain ⟨e, he, rfl⟩ := List.mem_map.mp hi
      obtain ⟨f, hf, rfl⟩ := List.mem_map.mp hj
      rw [hnew e he, hnew f hf]
    · intro i hi j hj
      obtain ⟨e, he, rfl⟩ := List.mem_map.mp hi
      obtain ⟨f, hf, rfl⟩ := List.mem_map.mp hj
      have hlt := ho.executed e he
      rw [hnew f hf]
      omega
  case executed =>
    intro e he
    rw [hexecuted, List.mem_append] at he
    rcases he with he | he
    · have hlt := ho.executed e he
      omega
    · rw [hnew e he]
      omega
  case result =>
    rw [hloop, hphase]
    exact ho.result

/-- A round after `run_connection` has returned `Ok` ends the loop. -/
theorem round_ok {loop loop' : MainLoop} {attempt : Attempt} {wait : Wait} {shutdown : Bool}
    (hok : runConnection attempt = some (.ok ()))
    (hround : loop.round ⟨attempt, wait, shutdown⟩ = some loop') : loop'.result.isSome := by
  unfold MainLoop.round at hround
  split at hround
  · cases hround
  · simp only [hok, Option.some.injEq] at hround
    subst hround
    rfl

/-- No task drives the card while `main` is on its way to the next connection. -/
theorem not_drives_of_phase {s : ClientProcess Sigma} {p : ConnectionPhase} (hp : s.phase = p)
    (hserving : ∀ sessionId k events, p ≠ .serving sessionId k events)
    (hreturned : ∀ attempt, p ≠ .returned attempt) (k : ℕ) (t : CommandTask) :
    ¬ s.Drives k t := by
  rintro (⟨events, hp'⟩ | ⟨events, hp', -⟩)
  · exact hserving _ _ _ (hp.symm.trans hp')
  · exact hreturned _ (hp.symm.trans hp')

/-- Before the return of `run_connection` the loop of `main` goes on. -/
theorem OneTask.running {s : ClientProcess Sigma} (ho : s.OneTask) {p : ConnectionPhase}
    (hp : s.phase = p) (hreturned : ∀ attempt, p ≠ .returned attempt) :
    ¬ s.loop.result.isSome := by
  intro hr
  obtain ⟨attempt, hp'⟩ := ho.result hr
  exact hreturned attempt (hp.symm.trans hp')

/-- `main` moves on towards the next connection. -/
theorem OneTask.of_phase {s s' : ClientProcess Sigma} (ho : s.OneTask) {p : ConnectionPhase}
    (hp : s.phase = p) (hserving : ∀ sessionId k events, p ≠ .serving sessionId k events)
    (hreturned : ∀ attempt, p ≠ .returned attempt) (htasks : s'.tasks = s.tasks)
    (hexecuted : s'.executed = s.executed) (hloop : s'.loop = s.loop)
    (hphase : ∀ sessionId k events, s'.phase ≠ .serving sessionId k events) : s'.OneTask := by
  refine ho.of_between (not_drives_of_phase hp hserving hreturned) htasks hexecuted hphase ?_
  rw [hloop]
  intro hr
  exact absurd hr (ho.running hp hreturned)

/-- The command task of a new connection is started. -/
theorem OneTask.of_started {s : ClientProcess Sigma} (ho : s.OneTask) {sessionId : String}
    (hp : s.phase = .registering sessionId []) :
    OneTask { s with
      phase := .serving sessionId s.tasks.length []
      tasks := s.tasks ++ [⟨sessionId, .opening⟩] } := by
  have hnot := not_drives_of_phase hp (by simp) (by simp)
  constructor
  case drives =>
    intro k t ht hlive
    rw [StepRun.getElem?_concat] at ht
    split_ifs at ht with hk
    · cases ht
      subst hk
      exact Or.inl ⟨[], rfl⟩
    · exact absurd (ho.drives k t ht hlive) (hnot k t)
  case serving =>
    intro sessionId' k events hp'
    cases hp'
    exact ⟨by simp, ⟨⟨sessionId, .opening⟩, by simp, rfl⟩, rfl⟩
  case grouped => exact ho.grouped
  case executed =>
    intro e he
    have hlt := ho.executed e he
    rw [List.length_append]
    omega
  case result => exact fun hr => absurd hr (ho.running hp (by simp))

/-- `run_connection` comes upon an event and does not leave its task behind. -/
theorem OneTask.of_serve {s : ClientProcess Sigma} (ho : s.OneTask) {sessionId : String} {k : ℕ}
    {events : List ConnectionEvent} {e : ConnectionEvent}
    (hp : s.phase = .serving sessionId k events) (he : s.eventEnabled k e = true)
    (hG : givesUp events e = true → s.taskEnded k = true) :
    (s.serve sessionId k events e).OneTask := by
  obtain ⟨hk, ⟨t₀, ht₀, rfl⟩, hlive⟩ := ho.serving sessionId k events hp
  have honly : ∀ (j : ℕ) (t : CommandTask), s.tasks[j]? = some t → t.phase ≠ .ended →
      j = k ∧ t = t₀ := by
    intro j t ht hne
    have hj := ho.newest (ho.drives j t ht hne)
    obtain rfl : j = k := by omega
    exact ⟨rfl, Option.some.inj (ht.symm.trans ht₀)⟩
  unfold ClientProcess.serve
  dsimp only
  split
  · rename_i hconn
    refine ⟨fun j t ht hne => ?_, fun sessionId j events' hp' => ?_, ho.grouped, ho.executed,
      fun hr => absurd hr (ho.running hp (by simp))⟩
    · obtain ⟨rfl, rfl⟩ := honly j t ht hne
      exact Or.inl ⟨_, rfl⟩
    · cases hp'
      exact ⟨hk, ⟨t₀, ht₀, rfl⟩, hconn⟩
  · rename_i result hconn
    refine ⟨fun j t ht hne => ?_, fun sessionId j events' hp' => (by cases hp'), ho.grouped,
      ho.executed, fun _ => ⟨_, rfl⟩⟩
    obtain ⟨rfl, rfl⟩ := honly j t ht hne
    cases result with
    | ok u => exact Or.inr ⟨_, rfl, hconn, hk⟩
    | error error =>
      -- the connection is given up, and the task has ended by then
      refine absurd ?_ hne
      have hended : s.taskEnded j = true := by
        rcases (runConnection_snoc hlive e).mp ⟨error, hconn⟩ with hgive | rfl
        · exact hG hgive
        · exact he
      simpa [taskEnded, ht] using hended

/-- A round ends: `main` has returned, or goes on to the next connection. -/
theorem OneTask.of_round {s : ClientProcess Sigma} (ho : s.OneTask) {attempt : Attempt}
    {wait : Wait} {shutdown : Bool} {loop : MainLoop} (hp : s.phase = .returned attempt)
    (hround : s.loop.round ⟨attempt, wait, shutdown⟩ = some loop) :
    OneTask { s with loop := loop, phase := if loop.result.isSome then s.phase else .idle } := by
  by_cases hresult : loop.result.isSome
  · refine ⟨fun k t ht hlive => ?_, fun sessionId k events hp' => ?_, ho.grouped, ho.executed,
      fun _ => ⟨attempt, by simp [hresult, hp]⟩⟩
    · exact (ho.drives k t ht hlive).congr (by simp [hresult]) rfl rfl
    · simp [hresult, hp] at hp'
  · -- `run_connection` has not returned `Ok`
    refine ho.of_between ?_ rfl rfl (by simp [hresult]) fun hr => absurd hr hresult
    rintro k t (⟨events, hp'⟩ | ⟨events, hp', hok, -⟩)
    · rw [hp] at hp'
      cases hp'
    · rw [hp] at hp'
      cases hp'
      exact hresult (round_ok hok hround)

/-- **One task at most is left** as long as none is left behind. -/
theorem Transition.oneTask {s s' : ClientProcess Sigma} {a : ClientAction Sigma}
    (ht : Transition h s a s') (ho : s.OneTask) (hG : s.endsWithTask a = true) : s'.OneTask := by
  cases ht with
  | surroundings => exact ⟨ho.drives, ho.serving, ho.grouped, ho.executed, ho.result⟩
  | getReaderInfo hp => exact ho.of_phase hp (by simp) (by simp) rfl rfl rfl (by simp)
  | connected hp => exact ho.of_phase hp (by simp) (by simp) rfl rfl rfl (by simp)
  | unreachable hp => exact ho.of_phase hp (by simp) (by simp) rfl rfl rfl (by simp)
  | established hp => exact ho.of_phase hp (by simp) (by simp) rfl rfl rfl (by simp)
  | refused hp => exact ho.of_phase hp (by simp) (by simp) rfl rfl rfl (by simp)
  | registered hp => exact ho.of_phase hp (by simp) (by simp) rfl rfl rfl (by simp)
  | started hp => exact ho.of_started hp
  | event hp he => exact ho.of_serve hp he fun hgive => by simpa [endsWithTask, hp, hgive] using hG
  | endRound hp hround => exact ho.of_round hp hround
  | opened ht hp =>
    exact ho.of_set ht (by simp [hp]) rfl rfl rfl rfl (List.append_nil _).symm (by simp)
  | command ht hp =>
    exact ho.of_set ht (by simp [hp]) rfl rfl rfl rfl (List.append_nil _).symm (by simp)
  | ended ht hp hitem =>
    exact ho.of_set ht (by simp [hp]) rfl rfl rfl rfl (List.append_nil _).symm (by simp)
  | processed ht hp => exact ho.of_set ht (by simp [hp]) rfl rfl rfl rfl rfl (by simp)
  | responded ht hp =>
    exact ho.of_set ht (by simp [hp]) rfl rfl rfl rfl (List.append_nil _).symm (by simp)

/-! ## The theorem on runs -/

/-- A connection given up while its task is still there leaves the task behind. -/
theorem OneTask.leaves {s : ClientProcess Sigma} {a : ClientAction Sigma} (ho : s.OneTask)
    (hG : s.endsWithTask a = false) : ∃ s', s.step h a = some s' ∧ ¬ s'.SoleDriver := by
  unfold endsWithTask at hG
  split at hG
  · rename_i e
    split at hG
    · rename_i sessionId k events hp
      simp only [Bool.or_eq_false_iff, Bool.not_eq_false'] at hG
      obtain ⟨hgive, hleft⟩ := hG
      obtain ⟨hk, ⟨t, ht, rfl⟩, hlive⟩ := ho.serving sessionId k events hp
      obtain ⟨error, hconn⟩ := (runConnection_snoc hlive e).mpr (Or.inl hgive)
      have hresult : s.loop.result.isSome = false := by
        by_contra hr
        obtain ⟨attempt, hp'⟩ := ho.result (by rwa [Bool.not_eq_false] at hr)
        rw [hp] at hp'
        cases hp'
      have henabled : s.eventEnabled k e = true := by
        cases e with
        | channelClosed => cases hgive
        | _ => rfl
      have hstep : s.step h (.event e) =
          some { s with phase := .returned ⟨.ok (), .ok t.sessionId, events ++ [e]⟩ } := by
        simp [step, hresult, taskOf, mainStep, hp, henabled, serve, hconn]
      refine ⟨_, hstep, fun hsole => ?_⟩
      have hne : t.phase ≠ .ended := by simpa [taskEnded, ht] using hleft
      rcases hsole.current k t ht hne with ⟨events', hp'⟩ | ⟨events', hp', hok, -⟩
      · cases hp'
      · cases hp'
        rw [hconn] at hok
        cases hok
    · cases hG
  · cases hG

/-- **Who drives the card.**  In every run of the process, only the current session
drives the card in all states if and only if `run_connection` gives up because of the
heartbeats only when its command task has ended.  `SoleDriver` asks for more than that no
command of an older session be carried out: a task that is left behind violates it by
listening, whether or not a command comes on its stream. -/
theorem soleDriver_iff (h : (o : PcscOp) → Sigma → PcscRet o × Sigma) (d m : Duration)
    (enabled : Bool) (sigma : Sigma) (as : List (ClientAction Sigma)) :
    StepRun.StepsMeet (step h) (fun s a => ∀ s', s.step h a = some s' → s'.SoleDriver)
        (start d m enabled sigma) as ↔
      StepRun.StepsMeet (step h) (fun s a => s.endsWithTask a = true)
        (start d m enabled sigma) as := by
  have hiff : ∀ s a, OneTask s → ((∀ s', s.step h a = some s' → s'.SoleDriver) ↔
      s.endsWithTask a = true) := by
    intro s a ho
    constructor
    · intro hall
      by_contra hG
      obtain ⟨s', hs, hnot⟩ := ho.leaves (h := h) (by simpa using hG)
      exact hnot (hall s' hs)
    · intro hG s' hs
      exact ((step_transition hs).oneTask ho hG).soleDriver
  refine StepRun.stepsMeet_congr (P := OneTask) ?_ hiff (oneTask_start d m enabled sigma) as
  intro s a s' ho hG hs
  exact (step_transition hs).oneTask ho ((hiff s a ho).mp hG)

/-- A connection with the session `sessionId` and the reader `r`, whose command task
is `k`. -/
def connects (sessionId : String) (k : ℕ) : List (ClientAction ℕ) :=
  [.getReaderInfo ["r"], .connect (.ok ()), .establishSession (.ok sessionId), .registerReader,
    .startCommandChannel, .opened k true]

/-- The task `k` carries out a command. -/
def carriesOut (k : ℕ) (request : CommandRequest) : List (ClientAction ℕ) :=
  [.next k (some (.ok request)), .process k, .respond k]

/-- The server invalidates the session `s`, the client comes back with the session `t`,
and commands come on both streams. -/
def leftBehindRun : List (ClientAction ℕ) :=
  connects "s" 0 ++ [.event (.heartbeat (.ok false)), .endRound .elapsed false] ++
  connects "t" 1 ++ carriesOut 0 ⟨1, some (.apdu ⟨[0x00, 0xA4]⟩), "r"⟩ ++
  carriesOut 1 ⟨2, some (.apdu ⟨[0x00, 0xB0]⟩), "r"⟩ ++
  carriesOut 0 ⟨3, some (.apdu ⟨[0x00, 0xA4]⟩), "r"⟩

/-- The session that `run_connection` serves, and its task. -/
def served (s : ClientProcess Sigma) : Option (String × ℕ) :=
  match s.phase with
  | .serving sessionId k _ => some (sessionId, k)
  | _ => none

/-- The task of a session that was given up carries out commands along with that of the
new session, on the same card. -/
theorem not_soleDriver_leftBehindRun :
    ∃ s, StepRun.run (step (flakyCard 9 false))
        (start (.fromSecs 1) (.fromSecs 60) true 0) leftBehindRun = some s ∧
      s.served = some ("t", 1) ∧ s.tasks = [⟨"s", .listening⟩, ⟨"t", .listening⟩] ∧
      s.executed.map (fun e => (e.1, e.2.commandId)) = [(0, 1), (1, 2), (0, 3)] ∧
      ¬ s.SoleDriver := by
  have hrun : (StepRun.run (step (flakyCard 9 false))
      (start (.fromSecs 1) (.fromSecs 60) true 0) leftBehindRun).map
      (fun s => (s.served, s.tasks, s.executed.map fun e => (e.1, e.2.commandId))) =
      some (some ("t", 1), [⟨"s", .listening⟩, ⟨"t", .listening⟩], [(0, 1), (1, 2), (0, 3)]) := by
    decide
  obtain ⟨s, hs, heq⟩ := Option.map_eq_some_iff.mp hrun
  obtain ⟨hserved, htasks, hexecuted⟩ := Prod.mk.injEq .. ▸ Prod.mk.injEq .. ▸ heq
  refine ⟨s, hs, hserved, htasks, hexecuted, fun hsole => ?_⟩
  have hgrouped := hsole.grouped
  have hfst : s.executed.map Prod.fst = [0, 1, 0] := by
    have hmap := congrArg (List.map Prod.fst) hexecuted
    rw [List.map_map] at hmap
    exact hmap
  rw [hfst] at hgrouped
  revert hgrouped
  decide

end ClientProcess

end RemoteSmartcard
