/-
# The pauses of the vpcd tasks (`VpcdManager::start_client`)

A vpcd task pauses for 100 ms after a connection, and after the `n`-th failure in a row
for `n` seconds, up to five.  How long it pauses is read off the outcomes of its own attempts
to connect alone (`pause_of_run`): what the other tasks, the clients and vpcd do in between
has no influence on it, however they are interleaved with them.
-/
import RemoteSmartcard.LinkErrors
import RemoteSmartcard.ServerSteps

namespace RemoteSmartcard

namespace Server

/-! ## The attempts -/

/-- The outcome of an attempt of the task `i` to connect. -/
def attemptOf (i : ℕ) : Action → Option Bool
  | .taskConnect j outcome => if j = i then some outcome.isOk else none
  | _ => none

/-- The outcomes of the attempts of the task `i`. -/
def attempts (i : ℕ) (as : List Action) : List Bool := as.filterMap (attemptOf i)

/-- The failures since the last connection. -/
def failuresOf (outcomes : List Bool) : ℕ := (outcomes.reverse.takeWhile (!·)).length

/-- The pause after these attempts, in milliseconds.  The counter of the task is an `u32`. -/
def pauseAfter (outcomes : List Bool) : ℕ :=
  if outcomes.getLast? = some true then 100 else min (failuresOf outcomes % 2 ^ 32) 5 * 1000

theorem attempts_concat (i : ℕ) (as : List Action) (a : Action) :
    attempts i (as ++ [a]) = attempts i as ++ (attemptOf i a).toList := by
  cases h : attemptOf i a <;> simp [attempts, h]

theorem failuresOf_true (outcomes : List Bool) : failuresOf (outcomes ++ [true]) = 0 := by
  simp [failuresOf]

theorem failuresOf_false (outcomes : List Bool) :
    failuresOf (outcomes ++ [false]) = failuresOf outcomes + 1 := by
  simp [failuresOf]

/-- Where a task stands after the attempts: its counter is the number of failures while it
is not connected, and it pauses as it should. -/
def Paced (t : VpcdTask) (outcomes : List Bool) : Prop :=
  match t.phase with
  | .connecting => t.consecutiveErrors = UInt32.ofNat (failuresOf outcomes)
  | .pausing millis =>
    t.consecutiveErrors = UInt32.ofNat (failuresOf outcomes) ∧ millis = pauseAfter outcomes
  | .connected _ _ => outcomes.getLast? = some true

/-- The task `i` is as its attempts have it; before it is started there are none. -/
def PacedTask (i : ℕ) (s : Server) (as : List Action) : Prop :=
  match s.tasks[i]? with
  | some t => Paced t (attempts i as)
  | none => attempts i as = []

/-- After a success no failures count. -/
theorem failuresOf_of_connected {outcomes : List Bool} (h : outcomes.getLast? = some true) :
    failuresOf outcomes = 0 := by
  obtain ⟨front, rfl⟩ := List.getLast?_eq_some_iff.mp h
  exact failuresOf_true front

/-- A failure more, and the pause that the retry loop makes after it. -/
theorem paced_refused {t : VpcdTask} {outcomes : List Bool} (hp : t.phase = .connecting)
    (h : Paced t outcomes) (e : String) :
    Paced { t with
      consecutiveErrors := (afterConnect t.consecutiveErrors (.error e)).1
      phase := .pausing (afterConnect t.consecutiveErrors (.error e)).2 }
      (outcomes ++ [false]) := by
  rw [Paced, hp] at h
  have herrors : t.consecutiveErrors + 1 = UInt32.ofNat (failuresOf (outcomes ++ [false])) := by
    rw [h, failuresOf_false, UInt32.ofNat_add]
    rfl
  refine ⟨herrors, ?_⟩
  rw [afterConnect, herrors, pauseAfter, if_neg (by simp), UInt32.toNat_ofNat']

/-- The pause that the retry loop makes after a connection. -/
theorem paced_returned {t : VpcdTask} {outcomes : List Bool} {stream : TcpStream}
    {p : VpcdProgram (Bool × VpcdClient)} (hp : t.phase = .connected stream p)
    (h : Paced t outcomes) (client : VpcdClient) :
    Paced { t with
      client := client
      consecutiveErrors := (afterConnect t.consecutiveErrors (.ok ())).1
      phase := .pausing (afterConnect t.consecutiveErrors (.ok ())).2 } outcomes := by
  rw [Paced, hp] at h
  refine ⟨?_, ?_⟩
  · rw [failuresOf_of_connected h]
    rfl
  · rw [afterConnect, pauseAfter, if_pos h]

/-! ## The steps -/

/-- The tasks stay where they are. -/
theorem PacedTask.of_tasks {i : ℕ} {s s' : Server} {as : List Action} {a : Action}
    (h : PacedTask i s as) (htasks : s'.tasks = s.tasks) (ha : attemptOf i a = none) :
    PacedTask i s' (as ++ [a]) := by
  unfold PacedTask
  rw [htasks, attempts_concat, ha, Option.toList_none, List.append_nil]
  exact h

/-- A task moves on. -/
theorem PacedTask.of_set {i j : ℕ} {s s' : Server} {as : List Action} {a : Action}
    {t t' : VpcdTask} (h : PacedTask i s as) (ht : s.tasks[j]? = some t)
    (htasks : s'.tasks = s.tasks.set j t') (ha : j ≠ i → attemptOf i a = none)
    (hmove : j = i → ∀ outcomes, Paced t outcomes →
      Paced t' (outcomes ++ (attemptOf i a).toList)) : PacedTask i s' (as ++ [a]) := by
  unfold PacedTask at h ⊢
  rw [htasks, List.getElem?_set, attempts_concat]
  by_cases hj : j = i
  · subst hj
    rw [ht] at h
    rw [if_pos rfl, if_pos (List.getElem?_eq_some_iff.mp ht).1]
    exact hmove rfl _ h
  · rw [if_neg hj, ha hj, Option.toList_none, List.append_nil]
    exact h

/-- **Each step** keeps the pauses of a task with the outcomes of its attempts. -/
theorem pacedTask_step {svc : SmartcardService} {i : ℕ} {s s' : Server} {as : List Action}
    {a : Action} (h : PacedTask i s as) (hstep : step svc s a = some s') :
    PacedTask i s' (as ++ [a]) := by
  -- a refused connection is read off the step itself, which has the length of the pause
  by_cases hrefused : ∃ j e, a = .taskConnect j (.error e)
  · obtain ⟨j, e, rfl⟩ := hrefused
    simp only [step] at hstep
    split at hstep
    · rename_i t ht
      cases hp : t.phase with
      | connecting =>
        rw [taskConnect_failed hp] at hstep
        cases hstep
        refine h.of_set ht rfl (fun hj => if_neg hj) fun hj outcomes hpaced => ?_
        rw [attemptOf, if_pos hj]
        exact paced_refused hp hpaced e
      | connected stream program => simp [taskConnect, hp] at hstep
      | pausing millis => simp [taskConnect, hp] at hstep
    · cases hstep
  · cases step_transition hstep with
    | refused ht hp => exact absurd ⟨_, _, rfl⟩ hrefused
    | @connected j t stream ht hp =>
      refine h.of_set ht rfl (fun hj => if_neg hj) fun hj outcomes hpaced => ?_
      rw [attemptOf, if_pos hj]
      exact List.getLast?_concat
    | @wake j t millis ht hp =>
      refine h.of_set ht rfl (fun _ => rfl) fun hj outcomes hpaced => ?_
      rw [Paced, hp] at hpaced
      have hnone : attemptOf i (.taskWake j) = none := rfl
      rw [hnone, Option.toList_none, List.append_nil]
      exact hpaced.1
    | @disconnected j outcome t stream client ht hp =>
      refine h.of_set ht rfl (fun _ => rfl) fun hj outcomes hpaced => ?_
      have hnone : attemptOf i (.taskRun j outcome) = none := rfl
      rw [hnone, Option.toList_none, List.append_nil]
      exact paced_returned hp hpaced client
    | @turn j outcome t stream client ht hp =>
      refine h.of_set ht rfl (fun _ => rfl) fun hj outcomes hpaced => ?_
      rw [Paced, hp] at hpaced
      have hnone : attemptOf i (.taskRun j outcome) = none := rfl
      rwa [hnone, Option.toList_none, List.append_nil]
    | suspend ht hp hperform hperformed =>
      obtain ⟨shared, streams, lock, rfl, -, -⟩ := perform_frame hperform
      exact h.of_tasks rfl rfl
    | @answer j outcome t stream stream' o k r s₁ ht hp hperform hperformed =>
      obtain ⟨shared, streams, lock, rfl, -, -⟩ := perform_frame hperform
      refine h.of_set ht rfl (fun _ => rfl) fun hj outcomes hpaced => ?_
      rw [Paced, hp] at hpaced
      have hnone : attemptOf i (.taskRun j outcome) = none := rfl
      rwa [hnone, Option.toList_none, List.append_nil]
    | @spawn k start hk =>
      unfold PacedTask at h ⊢
      have hnone : attemptOf i (.startClient k) = none := rfl
      rw [attempts_concat, hnone, Option.toList_none, List.append_nil]
      show match (s.tasks ++ [_])[i]? with
        | some t => Paced t (attempts i as)
        | none => attempts i as = []
      rw [StepRun.getElem?_concat]
      split_ifs with hi
      · subst hi
        rw [List.getElem?_eq_none (le_refl _)] at h
        rw [h]
        rfl
      · exact h
    | _ => exact h.of_tasks rfl rfl

/-- **The pauses.**  In every run of the server a vpcd task that pauses does so for 100 ms
if its last attempt was a connection, and else for as many seconds as attempts have failed
in a row (counted modulo 2^32), up to five. -/
theorem pause_of_run {svc : SmartcardService} {as : List Action} {s : Server}
    (hrun : StepRun.run (step svc) init as = some s) {i : ℕ} {t : VpcdTask}
    (ht : s.tasks[i]? = some t) {millis : ℕ} (hp : t.phase = .pausing millis) :
    millis = pauseAfter (attempts i as) := by
  have hinit : PacedTask i init [] := by
    rw [PacedTask]
    rfl
  have hpaced : PacedTask i s as :=
    StepRun.invariant_history (fun _ _ _ _ => pacedTask_step) hinit hrun
  rw [PacedTask, ht] at hpaced
  dsimp only at hpaced
  rw [Paced, hp] at hpaced
  exact hpaced.2

/-- A card is reported, and vpcd cannot be reached twice. -/
def refusedRun : List Action :=
  [.establishSession "s" ⟨"client", "1"⟩, .updateReaderInfo ⟨"s", "r", [0x3B], true⟩,
    .startClient 0, .taskConnect 0 (.error "refused"), .taskWake 0, .heartbeat "s",
    .taskConnect 0 (.error "refused")]

/-- The task of `refusedRun` has failed twice and pauses for two seconds. -/
theorem pause_of_run_refused :
    ∃ s t millis, StepRun.run (step ⟨"127.0.0.1", 35963, true⟩) init refusedRun = some s ∧
      s.tasks[0]? = some t ∧ t.phase = .pausing millis ∧ millis = pauseAfter [false, false] ∧
      millis = 2000 := by
  have hrun : (StepRun.run (step ⟨"127.0.0.1", 35963, true⟩) init refusedRun).isSome := by
    decide
  obtain ⟨s, hs⟩ := Option.isSome_iff_exists.mp hrun
  have htask : (StepRun.run (step ⟨"127.0.0.1", 35963, true⟩) init refusedRun).map
      (fun s => (s.tasks[0]?).map (·.phase)) = some (some (.pausing 2000)) := rfl
  rw [hs, Option.map_some, Option.some.injEq, Option.map_eq_some_iff] at htask
  obtain ⟨t, ht, hp⟩ := htask
  exact ⟨s, t, _, hs, ht, hp, pause_of_run hs ht hp, rfl⟩

end Server

end RemoteSmartcard
