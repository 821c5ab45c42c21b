/-
# Who waits for which response

The receivers that have not been dropped are exactly those that a vpcd task
awaits, and the one of a command whose sender is suspended; and each of them
belongs to one task (`Attended`).  A receiver handed to a task by
`send_command_async` is awaited by it until it has been awaited with an answer.
-/
import RemoteSmartcard.RoundProtocol
import RemoteSmartcard.Correlation

namespace RemoteSmartcard

open VpcdOp
open Program hiding pure

namespace Shared

/-! ## Live receivers -/

/-- The receiver `rx` has not been dropped. -/
def Alive (t : Shared) (rx : ℕ) : Prop :=
  ∃ w, t.waiters[rx]? = some w ∧ w.oneshot.receiverAlive = true

/-- What is done to the oneshot channels one by one leaves a receiver there, if it drops
none. -/
theorem alive_of_map {t t' : Shared} {f : ℕ → Oneshot CommandResponse → Oneshot CommandResponse}
    {rx : ℕ} (hwaiters : t'.waiters[rx]? = t.waiters[rx]?.map (Waiter.mapOneshot (f rx)))
    (hf : ∀ o, (f rx o).receiverAlive = o.receiverAlive) : t'.Alive rx ↔ t.Alive rx := by
  unfold Alive
  rw [hwaiters]
  cases t.waiters[rx]? with
  | none => simp
  | some w =>
    simp only [Option.map_some, Option.some.injEq, exists_eq_left']
    rw [show (w.mapOneshot (f rx)).oneshot = f rx w.oneshot from rfl, hf]

/-- Dropping senders drops no receiver. -/
theorem alive_closeSenders {t t' : Shared} {pending : PendingMap}
    (hw : t'.waiters = closeSenders pending t.waiters) (rx : ℕ) : t'.Alive rx ↔ t.Alive rx := by
  refine alive_of_map (f := fun rx => if pending.Holds rx then Oneshot.dropSender else id)
    (by rw [hw, getElem?_closeSenders]) fun o => ?_
  split_ifs
  · exact Oneshot.receiverAlive_dropSender o
  · rfl

/-- A receiver is there as long as the oneshot channels are the same. -/
theorem alive_congr {t t' : Shared} (h : t'.waiters = t.waiters) (rx : ℕ) :
    t'.Alive rx ↔ t.Alive rx := by
  unfold Alive
  rw [h]

/-- A registration drops senders, and no receiver. -/
theorem alive_setCommandChannel (t : Shared) (sid : String) (tx rx : ℕ) :
    (t.setCommandChannel sid tx).Alive rx ↔ t.Alive rx := by
  unfold setCommandChannel
  split
  · exact alive_closeSenders rfl rx
  · exact Iff.rfl

/-- A clean-up drops senders, and no receiver. -/
theorem alive_clearCommandChannel (t : Shared) (sid : String) (rx : ℕ) :
    (t.clearCommandChannel sid).Alive rx ↔ t.Alive rx := by
  unfold clearCommandChannel
  split
  · exact alive_closeSenders rfl rx
  · exact Iff.rfl

/-- The removal of a session drops senders, and no receiver. -/
theorem alive_removeSession (t : Shared) (sid : String) (rx : ℕ) :
    (t.removeSession sid).Alive rx ↔ t.Alive rx := by
  cases hs : t.getSession sid with
  | none =>
    rw [removeSession_of_none hs]
    exact alive_congr rfl rx
  | some session =>
    rw [removeSession_of_some hs]
    exact alive_closeSenders rfl rx

theorem alive_updateSession (t : Shared) (sid : String) (f : Session → Session) (rx : ℕ) :
    (t.updateSession sid f).Alive rx ↔ t.Alive rx := by
  unfold updateSession
  split
  · exact alive_congr rfl rx
  · exact Iff.rfl

/-- A response takes its sender, and leaves the receiver. -/
theorem alive_handleResponse (t : Shared) (sid : String) (response : CommandResponse) (rx : ℕ) :
    (t.handleResponse sid response).2.Alive rx ↔ t.Alive rx := by
  rcases handleResponse_cases t sid response with heq | heq | ⟨_, _, tx, -, -, -, heq⟩
  · rw [heq]
  · rw [heq]
    exact alive_congr rfl rx
  · rw [heq]
    refine alive_of_map (f := fun rx => if tx = rx then fun c => (c.send response).2 else id)
      (getElem?_modifyOneshot ..) fun o => ?_
    split_ifs
    · exact Oneshot.receiverAlive_send o response
    · rfl

/-- Dropping a receiver leaves the others. -/
theorem alive_dropReceiver (t : Shared) (rx rx' : ℕ) :
    (t.dropReceiver rx).Alive rx' ↔ t.Alive rx' ∧ rx' ≠ rx := by
  unfold Alive dropReceiver
  rw [getElem?_modifyOneshot]
  by_cases h : rx = rx'
  · subst h
    rw [if_pos rfl]
    cases t.waiters[rx]? <;> simp [Waiter.mapOneshot]
  · rw [if_neg h]
    cases t.waiters[rx']? <;> simp [Ne.symm h]

/-! No operation but `issue` changes the number of commands issued. -/

/-- A registration issues no command. -/
theorem length_setCommandChannel (t : Shared) (sid : String) (tx : ℕ) :
    (t.setCommandChannel sid tx).waiters.length = t.waiters.length := by
  unfold setCommandChannel
  split
  · exact length_closeSenders ..
  · rfl

/-- A clean-up issues none. -/
theorem length_clearCommandChannel (t : Shared) (sid : String) :
    (t.clearCommandChannel sid).waiters.length = t.waiters.length := by
  unfold clearCommandChannel
  split
  · exact length_closeSenders ..
  · rfl

/-- The removal of a session issues none. -/
theorem length_removeSession (t : Shared) (sid : String) :
    (t.removeSession sid).waiters.length = t.waiters.length := by
  cases hs : t.getSession sid with
  | none => rw [removeSession_of_none hs]
  | some session =>
    rw [removeSession_of_some hs]
    exact length_closeSenders ..

theorem length_updateSession (t : Shared) (sid : String) (f : Session → Session) :
    (t.updateSession sid f).waiters.length = t.waiters.length := by
  unfold updateSession
  split <;> rfl

/-- A response issues none. -/
theorem length_handleResponse (t : Shared) (sid : String) (response : CommandResponse) :
    (t.handleResponse sid response).2.waiters.length = t.waiters.length := by
  rcases handleResponse_cases t sid response with heq | heq | ⟨_, _, tx, -, -, -, heq⟩
  · rw [heq]
  · rw [heq]
  · rw [heq]
    exact List.length_modify ..

theorem length_dropReceiver (t : Shared) (rx : ℕ) :
    (t.dropReceiver rx).waiters.length = t.waiters.length := List.length_modify ..

/-- A command issued has a new oneshot channel. -/
theorem length_issue {t : Shared} {sid : String} {command : Command} {readerName : String}
    {issued : Issued} (hi : t.issue sid command readerName = some (.ok issued)) :
    issued.shared.waiters.length = t.waiters.length + 1 := by
  obtain ⟨session, channel, -, -, -, -, -, hshared⟩ := issue_eq_ok hi
  rw [hshared, List.length_append, length_closeSender]
  rfl

/-- The next oneshot channel is not there yet. -/
theorem not_alive_length (t : Shared) : ¬ t.Alive t.waiters.length := by
  rintro ⟨w, hw, -⟩
  simp at hw

/-- A command issued adds its receiver to those that are there. -/
theorem alive_issue {t : Shared} {sid : String} {command : Command} {readerName : String}
    {issued : Issued} (hi : t.issue sid command readerName = some (.ok issued)) (rx : ℕ) :
    issued.shared.Alive rx ↔ t.Alive rx ∨ rx = issued.rx := by
  obtain ⟨session, channel, -, -, -, hrx, -, hshared⟩ := issue_eq_ok hi
  rw [hrx, hshared]
  unfold Alive
  dsimp only
  rw [StepRun.getElem?_concat, length_closeSender]
  split_ifs with hne
  · simp [hne, Waiter.new, Oneshot.new]
  · rw [getElem?_closeSender]
    cases t.waiters[rx]? with
    | none => simp [hne]
    | some w =>
      simp only [Option.map_some, Option.some.injEq, exists_eq_left', hne, or_false]
      split_ifs
      · rw [show (w.mapOneshot Oneshot.dropSender).oneshot = w.oneshot.dropSender from rfl,
          Oneshot.receiverAlive_dropSender]
      · rfl

end Shared

/-! ## Lists with one entry exchanged -/

/-- An element of a list taken out of what is filtered from it. -/
theorem filterMap_perm {Alpha Beta : Type*} (f : Alpha → Option Beta) {l : List Alpha} {i : ℕ}
    {a : Alpha} (h : l[i]? = some a) :
    (l.filterMap f).Perm ((f a).toList ++ (l.eraseIdx i).filterMap f) := by
  obtain ⟨hlt, rfl⟩ := List.getElem?_eq_some_iff.mp h
  have hperm := (List.getElem_cons_eraseIdx_perm hlt).symm.filterMap f
  rw [List.filterMap_cons] at hperm
  cases hf : f l[i] <;> simpa [hf] using hperm

/-- What is filtered from the list after the element has been replaced. -/
theorem filterMap_set_perm {Alpha Beta : Type*} (f : Alpha → Option Beta) {l : List Alpha}
    {i : ℕ} (h : i < l.length) (a : Alpha) :
    ((l.set i a).filterMap f).Perm ((f a).toList ++ (l.eraseIdx i).filterMap f) := by
  have hperm := (List.set_perm_cons_eraseIdx h a).filterMap f
  rw [List.filterMap_cons] at hperm
  cases hf : f a <;> simpa [hf] using hperm

/-- The entry records that a command was accepted into the queue, and its
receiver. -/
def LogEntry.Accepts (e : LogEntry) (rx : ℕ) : Prop :=
  ∃ sid command readerName, e.event = ⟨.sendCommand sid command readerName, some (.ok rx)⟩

namespace Server

/-! ## The receivers in use -/

/-- The receiver of the command whose sender is suspended. -/
def suspended (s : Server) : List ℕ := (s.lock.map (·.rx)).toList

/-- The receivers that tasks wait for: awaited, or of a command still to be handed
over. -/
def waiting (s : Server) : List ℕ := s.tasks.filterMap VpcdTask.awaiting ++ s.suspended

/-- The invariant: the receivers still there are those that tasks wait for, each
task for its own. -/
structure Attended (s : Server) : Prop where
  nodup : s.waiting.Nodup
  alive : ∀ rx, rx ∈ s.waiting ↔ s.shared.Alive rx

/-- At the start nobody waits, and there is no receiver. -/
theorem attended_init : init.Attended where
  nodup := .nil
  alive := by intro rx; simp [waiting, suspended, init, Shared.Alive, Shared.init]

/-- The receivers in use stay the same. -/
theorem Attended.of_perm {s s' : Server} (h : s.Attended) (hperm : s'.waiting.Perm s.waiting)
    (halive : ∀ rx, s'.shared.Alive rx ↔ s.shared.Alive rx) : s'.Attended where
  nodup := hperm.nodup_iff.mpr h.nodup
  alive := by
    intro rx
    rw [hperm.mem_iff, h.alive, halive]

/-- A new receiver comes into use. -/
theorem Attended.of_add {s s' : Server} (h : s.Attended) {rx : ℕ}
    (hperm : s'.waiting.Perm (rx :: s.waiting)) (hnew : ¬ s.shared.Alive rx)
    (halive : ∀ rx', s'.shared.Alive rx' ↔ s.shared.Alive rx' ∨ rx' = rx) : s'.Attended where
  nodup := by
    rw [hperm.nodup_iff, List.nodup_cons, h.alive]
    exact ⟨hnew, h.nodup⟩
  alive := by
    intro rx'
    rw [hperm.mem_iff, List.mem_cons, h.alive, halive, or_comm]

/-- A receiver is dropped. -/
theorem Attended.of_drop {s s' : Server} (h : s.Attended) {rx : ℕ}
    (hperm : s.waiting.Perm (rx :: s'.waiting))
    (halive : ∀ rx', s'.shared.Alive rx' ↔ s.shared.Alive rx' ∧ rx' ≠ rx) : s'.Attended := by
  have hnodup := hperm.nodup_iff.mp h.nodup
  rw [List.nodup_cons] at hnodup
  refine ⟨hnodup.2, fun rx' => ?_⟩
  rw [halive, ← h.alive, hperm.mem_iff, List.mem_cons]
  constructor
  · intro hmem
    refine ⟨Or.inr hmem, ?_⟩
    rintro rfl
    exact hnodup.1 hmem
  · rintro ⟨hmem, hne⟩
    exact hmem.resolve_left hne

/-- The receivers in use before and after one task has moved on. -/
theorem waiting_perm {s s' : Server} {i : ℕ} {t t' : VpcdTask} (ht : s.tasks[i]? = some t)
    (htasks : s'.tasks = s.tasks.set i t') :
    ∃ others, s.waiting.Perm (t.awaiting.toList ++ s.suspended ++ others) ∧
      s'.waiting.Perm (t'.awaiting.toList ++ s'.suspended ++ others) := by
  refine ⟨(s.tasks.eraseIdx i).filterMap VpcdTask.awaiting, ?_, ?_⟩
  · refine ((filterMap_perm _ ht).append_right _).trans ?_
    rw [List.append_assoc, List.append_assoc]
    exact List.perm_append_comm.append_left _
  · unfold waiting
    rw [htasks]
    refine ((filterMap_set_perm _ (List.getElem?_eq_some_iff.mp ht).1 t').append_right _).trans ?_
    rw [List.append_assoc, List.append_assoc]
    exact List.perm_append_comm.append_left _

theorem suspended_congr {s s' : Server} (h : s'.lock = s.lock) : s'.suspended = s.suspended := by
  unfold suspended
  rw [h]

/-- A task between two commands moves on, and the lock stays as it is. -/
theorem Attended.of_idle {s s' : Server} (h : s.Attended) {i : ℕ} {t t' : VpcdTask}
    (ht : s.tasks[i]? = some t) (htasks : s'.tasks = s.tasks.set i t')
    (hidle : t'.awaiting = t.awaiting) (hlock : s'.lock = s.lock)
    (halive : ∀ rx, s'.shared.Alive rx ↔ s.shared.Alive rx) : s'.Attended := by
  obtain ⟨others, hbefore, hafter⟩ := waiting_perm ht htasks
  refine h.of_perm ?_ halive
  rw [suspended_congr hlock, hidle] at hafter
  exact hafter.trans hbefore.symm

/-! ## The steps -/

/-- The receiver a task awaits after an answer. -/
theorem Rounds.awaiting_answer {s : Server} (hr : s.Rounds) {i : ℕ} {t : VpcdTask}
    {stream : TcpStream} {o : VpcdOp} {k : VpcdRet o → VpcdProgram (Bool × VpcdClient)}
    (ht : s.tasks[i]? = some t) (hp : t.phase = .connected stream (.op o k)) (r : VpcdRet o) :
    awaitingOf (k r) = roundNext t.awaiting o r :=
  awaitingOf_of_obeys ((hr i t stream _ ht hp).2 r)

/-- What a task does on its connection alone hands it no receiver. -/
theorem awaiting_of_isLocal {o : VpcdOp} (ho : o.IsLocal) {Alpha : Type}
    (k : VpcdRet o → VpcdProgram Alpha) (h : Option ℕ) (r : VpcdRet o) :
    roundNext h o r = awaitingOf (.op o k) := by
  cases o with
  | getSession _ | sendCommand _ _ _ | recvResponse _ => exact absurd ho id
  | _ => rfl

/-- An operation of a task that is answered keeps the invariant: a command accepted makes
the task await its receiver, an answer awaited drops it. -/
theorem Attended.answer {s s₁ : Server} (h : s.Attended) (hr : s.Rounds) {i : ℕ} {t : VpcdTask}
    {outcome : Outcome} {stream stream' : TcpStream} {o : VpcdOp}
    {k : VpcdRet o → VpcdProgram (Bool × VpcdClient)} {r : VpcdRet o}
    (ht : s.tasks[i]? = some t) (hp : t.phase = .connected stream (.op o k))
    (hperf : Performed s i outcome o (some r) s₁) (e : LogEntry) :
    ((s₁.setTask i { t with phase := .connected stream' (k r) }).record e).Attended := by
  have htasks : ((s₁.setTask i { t with phase := .connected stream' (k r) }).record e).tasks =
      s.tasks.set i { t with phase := .connected stream' (k r) } := by
    rw [← performed_tasks hperf]
    rfl
  have hbefore : t.awaiting = awaitingOf (.op o k) := VpcdTask.awaiting_connected hp
  have hafter : VpcdTask.awaiting { t with phase := .connected stream' (k r) } =
      roundNext t.awaiting o r := hr.awaiting_answer ht hp r
  obtain ⟨others, hperm, hperm'⟩ := waiting_perm ht htasks
  rw [hbefore] at hperm
  rw [hafter] at hperm'
  cases hperf with
  | onConnection ho =>
    have hidle := awaiting_of_isLocal ho k t.awaiting r
    exact h.of_idle ht htasks ((hafter.trans hidle).trans hbefore.symm) rfl fun _ => Iff.rfl
  | looked | notFound | notConnected =>
    exact h.of_idle ht htasks (hafter.trans hbefore.symm) rfl fun _ => Iff.rfl
  | @issued sid command readerName issued answer s₁ hlock hissue hhanded =>
    obtain ⟨-, -, -, -, -, hrx, -, -⟩ := Shared.issue_eq_ok hissue
    have hnew : ¬ s.shared.Alive issued.rx := hrx ▸ s.shared.not_alive_length
    cases hhanded with
    | closed hst hclosed =>
      -- the receiver goes with the error
      refine h.of_idle ht htasks (hafter.trans hbefore.symm) hlock.symm fun rx => ?_
      refine (Shared.alive_dropReceiver ..).trans ?_
      rw [Shared.alive_issue hissue]
      constructor
      · rintro ⟨hold | hself, hne⟩
        · exact hold
        · exact absurd hself hne
      · intro hold
        refine ⟨Or.inl hold, ?_⟩
        rintro rfl
        exact hnew hold
    | sent hst hq =>
      have hfree : s.suspended = [] := by rw [suspended, hlock]; rfl
      rw [hfree] at hperm
      exact h.of_add (hperm'.trans (hperm.symm.cons _)) hnew fun rx => Shared.alive_issue hissue rx
  | @resumed sid command readerName b answer s₁ hlock htask hhanded =>
    have hheld : s.suspended = [b.rx] := by rw [suspended, hlock]; rfl
    rw [hheld] at hperm
    cases hhanded with
    | closed hst hclosed =>
      exact h.of_drop (hperm.trans (hperm'.symm.cons _)) fun rx => Shared.alive_dropReceiver ..
    | sent hst hq => exact h.of_perm (hperm'.trans hperm.symm) fun _ => Iff.rfl
  | response | released | elapsed =>
    exact h.of_drop (hperm.trans (hperm'.symm.cons _)) fun rx' => Shared.alive_dropReceiver ..

/-- A sender is suspended with its new receiver, or stays suspended. -/
theorem Attended.suspend {s s' : Server} (h : s.Attended) {i : ℕ} {outcome : Outcome} {o : VpcdOp}
    (hperf : Performed s i outcome o none s') : s'.Attended := by
  cases hperf with
  | @issued sid command readerName issued answer s' hlock hissue hhanded =>
    obtain ⟨-, -, -, -, -, hrx, -, -⟩ := Shared.issue_eq_ok hissue
    have hnew : ¬ s.shared.Alive issued.rx := hrx ▸ s.shared.not_alive_length
    cases hhanded with
    | full hst halive hfull =>
      refine h.of_add ?_ hnew fun rx => Shared.alive_issue hissue rx
      show (s.tasks.filterMap VpcdTask.awaiting ++ [issued.rx]).Perm _
      rw [waiting, suspended, hlock]
      simp
  | resumed hlock htask hhanded =>
    cases hhanded with
    | full hst halive hfull =>
      refine h.of_perm (List.Perm.of_eq ?_) fun _ => Iff.rfl
      rw [waiting, waiting, suspended, suspended, hlock]

/-- **Each step** keeps the receivers and those who wait for them in step. -/
theorem Transition.attended {svc : SmartcardService} {s s' : Server} {a : Action}
    (h : Transition svc s a s') (hr : s.Rounds) (ha : s.Attended) : s'.Attended := by
  cases h with
  | report hlock hs => exact ha.of_perm (.refl _) fun _ => Shared.alive_updateSession ..
  | heartbeat hlock => exact ha.of_perm (.refl _) fun _ => Shared.alive_updateSession ..
  | establish hlock hfresh => exact ha.of_perm (.refl _) fun _ => Shared.alive_congr rfl _
  | remove hlock => exact ha.of_perm (.refl _) fun _ => Shared.alive_removeSession ..
  | handle hlock hid => exact ha.of_perm (.refl _) fun _ => Shared.alive_handleResponse ..
  | register hlock hi hp hs =>
    exact ha.of_perm (.refl _) fun _ => Shared.alive_setCommandChannel ..
  | respond hlock hi hp hsid => exact ha.of_perm (.refl _) fun _ => Shared.alive_handleResponse ..
  | cleanup hlock hi hp hsid =>
    exact ha.of_perm (.refl _) fun _ => Shared.alive_clearCommandChannel ..
  | @spawn k start hk =>
    refine ha.of_perm (List.Perm.of_eq ?_) fun _ => Iff.rfl
    show (s.tasks ++ [_]).filterMap VpcdTask.awaiting ++ s.suspended = _
    rw [List.filterMap_append, List.filterMap_cons_none rfl, List.filterMap_nil, List.append_nil]
    rfl
  | @connected i t stream ht hp =>
    have hbody := awaitingOf_of_obeys (obeysRound_messageLoopBody { t.client with powered := true })
    refine ha.of_idle ht rfl ?_ rfl fun _ => Iff.rfl
    rw [VpcdTask.awaiting, VpcdTask.awaiting, hp]
    exact hbody
  | refused ht hp =>
    refine ha.of_idle ht rfl ?_ rfl fun _ => Iff.rfl
    rw [VpcdTask.awaiting, VpcdTask.awaiting, hp]
  | wake ht hp =>
    refine ha.of_idle ht rfl ?_ rfl fun _ => Iff.rfl
    rw [VpcdTask.awaiting, VpcdTask.awaiting, hp]
  | suspend ht hp hperform h => exact ha.suspend h
  | answer ht hp hperform h => exact ha.answer hr ht hp h _
  | @turn i outcome t stream client ht hp =>
    have hbody := awaitingOf_of_obeys (obeysRound_messageLoopBody client)
    refine ha.of_idle ht rfl ?_ rfl fun _ => Iff.rfl
    rw [VpcdTask.awaiting, VpcdTask.awaiting, hp]
    exact hbody
  | disconnected ht hp =>
    refine ha.of_idle ht rfl ?_ rfl fun _ => Iff.rfl
    rw [VpcdTask.awaiting, VpcdTask.awaiting, hp]
    rfl
  | _ => exact ha.of_perm (.refl _) fun _ => Iff.rfl

/-- In every reachable state the receivers there are those that tasks wait for, each task
for its own. -/
theorem Reachable.attended {svc : SmartcardService} {s : Server} (h : s.Reachable svc) :
    s.Attended :=
  (StepRun.invariant_reaches (P := fun s => s.Rounds ∧ s.Attended)
    (fun _ _ _ hP hstep => ⟨(step_transition hstep).rounds hP.1,
      (step_transition hstep).attended hP.1 hP.2⟩) ⟨rounds_init, attended_init⟩ h).2

/-! ## Receivers dropped -/

/-- The next operation of the vpcd task `i` on its connection. -/
def nextOp (s : Server) (i : ℕ) : Option VpcdOp :=
  match s.tasks[i]? with
  | some t =>
    match t.phase with
    | .connected _ (.op o _) => some o
    | _ => none
  | none => none

/-- The next operation of a task on a connection. -/
theorem nextOp_eq_some {s : Server} {i : ℕ} {t : VpcdTask} {stream : TcpStream} {o : VpcdOp}
    {k : VpcdRet o → VpcdProgram (Bool × VpcdClient)} (ht : s.tasks[i]? = some t)
    (hp : t.phase = .connected stream (.op o k)) : s.nextOp i = some o := by
  unfold nextOp
  rw [ht]
  dsimp only
  rw [hp]

/-- Only a task on a connection has a next operation. -/
theorem exists_of_nextOp {s : Server} {i : ℕ} {o : VpcdOp} (h : s.nextOp i = some o) :
    ∃ t stream k, s.tasks[i]? = some t ∧ t.phase = .connected stream (.op o k) := by
  unfold nextOp at h
  split at h
  · rename_i t ht
    split at h
    · rename_i stream o' k hp
      cases h
      exact ⟨t, stream, k, ht, hp⟩
    · cases h
  · cases h

/-- The stream whose queue the next command of a task goes to. -/
def targetStream (s : Server) (sid : String) : Option ℕ :=
  match s.lock with
  | some b => some b.stream
  | none => s.shared.channelOf sid

/-- The receiver that a step drops: one that was awaited, or that of a command
handed to a queue without receiver. -/
inductive Drops (s : Server) : Action → ℕ → Prop
  | awaited {i rx : ℕ} {outcome : Outcome} {w : Waiter} (hop : s.nextOp i = some (.recvResponse rx))
      (hw : s.shared.waiters[rx]? = some w)
      (houtcome : w.oneshot.sender = .held → ∃ text, outcome = .fail text) :
      Drops s (.taskRun i outcome) rx
  | refused {i : ℕ} {outcome : Outcome} {sid : String} {command : Command} {readerName : String}
      {b : BlockedSend} {st : CommandStream}
      (hop : s.nextOp i = some (.sendCommand sid command readerName))
      (hb : s.lock = some b ∨ s.lock = none ∧ s.shared.channelOf sid = some b.stream ∧
        b.rx = s.shared.waiters.length)
      (hst : s.streams[b.stream]? = some st) (hclosed : st.queue.receiverAlive = false) :
      Drops s (.taskRun i outcome) b.rx

/-- The receiver is alive, or is that of a command issued in the step. -/
def AliveOrNew (s s' : Server) (rx : ℕ) : Prop :=
  s.shared.Alive rx ∨ s.shared.waiters.length ≤ rx ∧ rx < s'.shared.waiters.length

/-- In a step that issues no command the receiver was there before. -/
theorem AliveOrNew.alive {s s' : Server} {rx : ℕ} (h : s.AliveOrNew s' rx)
    (hlength : s'.shared.waiters.length = s.shared.waiters.length) : s.shared.Alive rx := by
  refine h.resolve_right fun hnew => ?_
  rw [hlength] at hnew
  omega

/-- Awaiting a receiver with an answer drops that one alone. -/
theorem alive_or_drops_awaited {s : Server} {i rx rx' : ℕ} {outcome : Outcome} {w : Waiter}
    (hop : s.nextOp i = some (.recvResponse rx)) (hw : s.shared.waiters[rx]? = some w)
    (houtcome : w.oneshot.sender = .held → ∃ text, outcome = .fail text)
    (halive : s.shared.Alive rx') :
    (s.shared.dropReceiver rx).Alive rx' ∨ Drops s (.taskRun i outcome) rx' := by
  by_cases hself : rx' = rx
  · subst hself
    exact Or.inr (.awaited hop hw houtcome)
  · exact Or.inl ((Shared.alive_dropReceiver ..).mpr ⟨halive, hself⟩)

/-- An operation keeps a receiver, or is one that drops it. -/
theorem Performed.alive_or_drops {s s' : Server} {i : ℕ} {outcome : Outcome} {o : VpcdOp}
    {answer : Option (VpcdRet o)} (h : Performed s i outcome o answer s')
    (hop : s.nextOp i = some o) {rx : ℕ} (halive : s.AliveOrNew s' rx) :
    s'.shared.Alive rx ∨ Drops s (.taskRun i outcome) rx := by
  cases h with
  | onConnection | looked | notFound | notConnected => exact Or.inl (halive.alive rfl)
  | @issued sid command readerName issued answer s' hlock hissue hhanded =>
    obtain ⟨session, channel, hs, hch, hst₀, hrx, -, hshared⟩ := Shared.issue_eq_ok hissue
    have hissued : s.shared.Alive rx ∨ s.shared.waiters.length ≤ rx ∧
        rx < issued.shared.waiters.length → issued.shared.Alive rx := by
      rw [Shared.alive_issue hissue, hrx, Shared.length_issue hissue]
      exact fun h => h.imp_right fun h => by omega
    cases hhanded with
    | closed hst hclosed =>
      rw [AliveOrNew, Shared.length_dropReceiver] at halive
      by_cases hself : rx = issued.rx
      · subst hself
        refine Or.inr (.refused hop (Or.inr ⟨hlock, ?_, hrx⟩) hst hclosed)
        rw [Shared.channelOf, hs]
        simp [hch, hst₀]
      · exact Or.inl ((Shared.alive_dropReceiver ..).mpr ⟨hissued halive, hself⟩)
    | full | sent => exact Or.inl (hissued halive)
  | @resumed sid command readerName b answer s' hlock htask hhanded =>
    cases hhanded with
    | closed hst hclosed =>
      have hold := halive.alive (Shared.length_dropReceiver ..)
      by_cases hself : rx = b.rx
      · subst hself
        exact Or.inr (.refused hop (Or.inl hlock) hst hclosed)
      · exact Or.inl ((Shared.alive_dropReceiver ..).mpr ⟨hold, hself⟩)
    | full | sent => exact Or.inl (halive.alive rfl)
  | response hw _ hsent =>
    exact alive_or_drops_awaited hop hw (by simp [hsent])
      (halive.alive (Shared.length_dropReceiver ..))
  | released hw _ hdropped =>
    exact alive_or_drops_awaited hop hw (by simp [hdropped])
      (halive.alive (Shared.length_dropReceiver ..))
  | elapsed hw _ _ houtcome =>
    exact alive_or_drops_awaited hop hw (fun _ => ⟨_, houtcome⟩)
      (halive.alive (Shared.length_dropReceiver ..))

/-- **A receiver goes out of use only in these steps.** -/
theorem Transition.alive_or_drops {svc : SmartcardService} {s s' : Server} {a : Action}
    (h : Transition svc s a s') {rx : ℕ} (halive : s.AliveOrNew s' rx) :
    s'.shared.Alive rx ∨ Drops s a rx := by
  cases h with
  | report hlock hs =>
    have hold := halive.alive (Shared.length_updateSession ..)
    exact Or.inl ((Shared.alive_updateSession ..).mpr hold)
  | heartbeat hlock =>
    have hold := halive.alive (Shared.length_updateSession ..)
    exact Or.inl ((Shared.alive_updateSession ..).mpr hold)
  | establish hlock hfresh =>
    have hold := halive.alive rfl
    exact Or.inl ((Shared.alive_congr rfl _).mpr hold)
  | remove hlock =>
    have hold := halive.alive (Shared.length_removeSession ..)
    exact Or.inl ((Shared.alive_removeSession ..).mpr hold)
  | handle hlock hid =>
    have hold := halive.alive (Shared.length_handleResponse ..)
    exact Or.inl ((Shared.alive_handleResponse ..).mpr hold)
  | register hlock hi hp hs =>
    have hold := halive.alive (Shared.length_setCommandChannel ..)
    exact Or.inl ((Shared.alive_setCommandChannel ..).mpr hold)
  | respond hlock hi hp hsid =>
    have hold := halive.alive (Shared.length_handleResponse ..)
    exact Or.inl ((Shared.alive_handleResponse ..).mpr hold)
  | cleanup hlock hi hp hsid =>
    have hold := halive.alive (Shared.length_clearCommandChannel ..)
    exact Or.inl ((Shared.alive_clearCommandChannel ..).mpr hold)
  | suspend ht hp hperform h => exact h.alive_or_drops (nextOp_eq_some ht hp) halive
  | answer ht hp hperform h => exact h.alive_or_drops (nextOp_eq_some ht hp) halive
  | _ => exact Or.inl (halive.alive rfl)

/-! ## Commands accepted -/

/-- The receiver of every accepted command is awaited by a task, or has been awaited
with an answer. -/
def InUse (s : Server) : Prop :=
  ∀ e ∈ s.log, ∀ rx, e.Accepts rx →
    (s.shared.Alive rx ∧ rx ∉ s.suspended) ∨ ∃ f ∈ s.log, f.Awaits rx

/-- A sender suspended after an operation was so before, or is that of a new command. -/
theorem Performed.suspended {s s' : Server} {i : ℕ} {outcome : Outcome} {o : VpcdOp}
    {answer : Option (VpcdRet o)} (h : Performed s i outcome o answer s') {rx : ℕ}
    (hrx : rx ∈ s'.suspended) : rx ∈ s.suspended ∨ rx = s.shared.waiters.length := by
  cases h with
  | issued hlock hissue hhanded =>
    obtain ⟨-, -, -, -, -, hnew, -, -⟩ := Shared.issue_eq_ok hissue
    cases hhanded with
    | full hst halive hfull =>
      have hself : rx = _ := List.mem_singleton.mp hrx
      exact Or.inr (hself.trans hnew)
    | closed | sent => cases hrx
  | resumed hlock htask hhanded =>
    cases hhanded with
    | full hst halive hfull =>
      rw [Server.suspended, hlock]
      exact Or.inl hrx
    | closed | sent => cases hrx
  | _ => exact Or.inl hrx

/-- And so it is after any step. -/
theorem Transition.suspended {svc : SmartcardService} {s s' : Server} {a : Action}
    (h : Transition svc s a s') {rx : ℕ} (hrx : rx ∈ s'.suspended) :
    rx ∈ s.suspended ∨ rx = s.shared.waiters.length := by
  cases h with
  | suspend ht hp hperform h => exact h.suspended hrx
  | answer ht hp hperform h => exact h.suspended hrx
  | _ => exact Or.inl hrx

/-- What a step adds to the log. -/
theorem Transition.log {svc : SmartcardService} {s s' : Server} {a : Action}
    (h : Transition svc s a s') :
    s'.log = s.log ∨ ∃ i outcome o r s₁ connection, a = .taskRun i outcome ∧ s.nextOp i = some o ∧
      Performed s i outcome o (some r) s₁ ∧ s'.shared = s₁.shared ∧ s'.lock = s₁.lock ∧
      s'.log = s.log ++ [⟨i, connection, ⟨o, r⟩⟩] := by
  cases h with
  | suspend ht hp hperform h => exact Or.inl (by rw [h.eq_frame])
  | @answer i outcome t stream stream' o k r s₁ ht hp hperform h =>
    refine Or.inr ⟨i, outcome, o, r, s₁, t.connections, rfl, nextOp_eq_some ht hp, h, rfl, rfl, ?_⟩
    show s₁.log ++ _ = _
    rw [h.eq_frame]
  | _ => exact Or.inl rfl

/-- The log grows only. -/
theorem Transition.log_subset {svc : SmartcardService} {s s' : Server} {a : Action}
    (h : Transition svc s a s') : s.log ⊆ s'.log := by
  rcases h.log with hlog | ⟨_, _, _, _, _, _, -, -, -, -, -, hlog⟩
  · rw [hlog]
    exact List.Subset.refl _
  · rw [hlog]
    exact List.subset_append_left ..

/-- A task that awaits a receiver and takes a step has its answer in the log. -/
theorem Transition.awaited_logged {svc : SmartcardService} {s s' : Server} {i rx : ℕ}
    {outcome : Outcome} (h : Transition svc s (.taskRun i outcome) s')
    (hop : s.nextOp i = some (.recvResponse rx)) : ∃ f ∈ s'.log, f.Awaits rx := by
  obtain ⟨t, stream, k, ht, hp⟩ := exists_of_nextOp hop
  cases h with
  | suspend ht' hp' hperform h =>
    obtain rfl := Option.some.inj (ht.symm.trans ht')
    rw [hp] at hp'
    cases hp'
    cases h
  | answer ht' hp' hperform h =>
    obtain rfl := Option.some.inj (ht.symm.trans ht')
    rw [hp] at hp'
    cases hp'
    exact ⟨_, List.mem_append_right _ List.mem_cons_self, rfl⟩
  | turn ht' hp' | disconnected ht' hp' =>
    obtain rfl := Option.some.inj (ht.symm.trans ht')
    rw [hp] at hp'
    cases hp'

/-- The receiver of a command just accepted is in use. -/
theorem Performed.accepted {s s' : Server} {i : ℕ} {outcome : Outcome} {sid : String}
    {command : Command} {readerName : String} {rx : ℕ} (ha : s.Attended)
    (h : Performed s i outcome (.sendCommand sid command readerName) (some (some (.ok rx))) s') :
    s'.shared.Alive rx ∧ s'.lock = none := by
  cases h with
  | onConnection ho => exact absurd ho id
  | issued hlock hissue hhanded =>
    cases hhanded with
    | sent hst hq => exact ⟨(Shared.alive_issue hissue _).mpr (Or.inr rfl), rfl⟩
  | @resumed sid command readerName b answer s' hlock htask hhanded =>
    cases hhanded with
    | sent hst hq =>
      refine ⟨(ha.alive b.rx).mp (List.mem_append_right _ ?_), rfl⟩
      rw [Server.suspended, hlock]
      exact List.mem_singleton.mpr rfl

/-- **Each step** keeps the receivers of the accepted commands in use until they are
awaited. -/
theorem Transition.inUse {svc : SmartcardService} {s s' : Server} {a : Action}
    (h : Transition svc s a s') (ha : s.Attended) (hu : s.InUse) : s'.InUse := by
  -- a command accepted before
  have hold : ∀ e ∈ s.log, ∀ rx, e.Accepts rx →
      (s'.shared.Alive rx ∧ rx ∉ s'.suspended) ∨ ∃ f ∈ s'.log, f.Awaits rx := by
    intro e he rx hacc
    rcases hu e he rx hacc with ⟨halive, hfree⟩ | ⟨f, hf, hawaits⟩
    · rcases h.alive_or_drops (Or.inl halive) with halive' | hdrops
      · refine Or.inl ⟨halive', fun hsus => ?_⟩
        rcases h.suspended hsus with hsus | rfl
        · exact hfree hsus
        · exact s.shared.not_alive_length halive
      · cases hdrops with
        | awaited hop hw houtcome => exact Or.inr (h.awaited_logged hop)
        | refused hop hb hst hclosed =>
          rcases hb with hb | ⟨-, -, hb⟩
          · rw [Server.suspended, hb] at hfree
            exact absurd (List.mem_singleton.mpr rfl) hfree
          · rw [hb] at halive
            exact absurd halive s.shared.not_alive_length
    · exact Or.inr ⟨f, h.log_subset hf, hawaits⟩
  intro e he rx hacc
  rcases h.log with hlog | ⟨i, outcome, o, r, s₁, connection, rfl, hop, hperf, hsh, hl, hlog⟩
  · exact hold e (hlog ▸ he) rx hacc
  · rw [hlog, List.mem_append, List.mem_singleton] at he
    rcases he with he | rfl
    · exact hold e he rx hacc
    · obtain ⟨sid, command, readerName, hev⟩ := hacc
      cases hev
      obtain ⟨halive, hlock⟩ := hperf.accepted ha
      refine Or.inl ⟨hsh ▸ halive, ?_⟩
      rw [Server.suspended, hl, hlock]
      exact List.not_mem_nil

/-- In every reachable state an accepted command has been awaited, or is still. -/
theorem Reachable.inUse {svc : SmartcardService} {s : Server} (h : s.Reachable svc) : s.InUse :=
  (StepRun.invariant_reaches (P := fun s => s.Rounds ∧ s.Attended ∧ s.InUse)
    (fun _ _ _ hP hstep => ⟨(step_transition hstep).rounds hP.1,
      (step_transition hstep).attended hP.1 hP.2.1, (step_transition hstep).inUse hP.2.1 hP.2.2⟩)
    ⟨rounds_init, attended_init, by intro e he; cases he⟩ h).2.2

/-! ## The holder of the lock -/

/-- What a step does that leaves `b` with the lock: `b` had it, and at most a
receiver was dropped; or `b` has just issued its command. -/
def Holds (s s' : Server) (b : BlockedSend) : Prop :=
  (s.lock = some b ∧ (s'.shared = s.shared ∨ ∃ rx, s'.shared = s.shared.dropReceiver rx)) ∨
    ∃ i sid command readerName issued, s.lock = none ∧
      s.shared.issue sid command readerName = some (.ok issued) ∧ s'.shared = issued.shared ∧
      b = ⟨i, issued.request, issued.stream, issued.rx⟩

/-- An operation that leaves the lock held has just taken it, or does next to nothing to the
table. -/
theorem Performed.holds {s s' : Server} {i : ℕ} {outcome : Outcome} {o : VpcdOp}
    {answer : Option (VpcdRet o)} (h : Performed s i outcome o answer s') {b : BlockedSend}
    (hb : s'.lock = some b) : s.Holds s' b := by
  cases h with
  | issued hlock hissue hhanded =>
    cases hhanded with
    | full hst halive hfull =>
      cases hb
      exact Or.inr ⟨_, _, _, _, _, hlock, hissue, rfl, rfl⟩
    | closed | sent => cases hb
  | resumed hlock htask hhanded =>
    cases hhanded with
    | full hst halive hfull =>
      cases hb
      exact Or.inl ⟨hlock, Or.inl rfl⟩
    | closed | sent => cases hb
  | response | released | elapsed => exact Or.inl ⟨hb, Or.inr ⟨_, rfl⟩⟩
  | _ => exact Or.inl ⟨hb, Or.inl rfl⟩

/-- **Nobody else acts on the table** while a task holds the lock. -/
theorem Transition.holds {svc : SmartcardService} {s s' : Server} {a : Action}
    (h : Transition svc s a s') {b : BlockedSend} (hb : s'.lock = some b) : s.Holds s' b := by
  cases h with
  | suspend ht hp hperform h => exact h.holds hb
  | answer ht hp hperform h =>
    have hholds := h.holds hb
    exact hholds
  | establish hlock | unknownReport hlock | report hlock | heartbeat hlock | remove hlock
  | handle hlock | register hlock | unknown hlock | respond hlock | cleanup hlock =>
    have hb' : s.lock = some b := hb
    rw [hlock] at hb'
    cases hb'
  | _ => exact Or.inl ⟨hb, Or.inl rfl⟩

/-- The holder of the lock waits with the newest command there is, and that command
is still pending. -/
structure HeldBy (s : Server) (b : BlockedSend) : Prop where
  newest : b.rx + 1 = s.shared.waiters.length
  pending : ∃ w, s.shared.waiters[b.rx]? = some w ∧ w.stream = b.stream ∧ w.request = b.request ∧
    w.oneshot.sender = .held

/-- A step keeps what is known of the holder of the lock. -/
theorem Transition.heldBy {svc : SmartcardService} {s s' : Server} {a : Action}
    (h : Transition svc s a s') (hheld : ∀ b, s.lock = some b → s.HeldBy b) {b : BlockedSend}
    (hb : s'.lock = some b) : s'.HeldBy b := by
  rcases h.holds hb with ⟨hlock, hsh | ⟨rx, hsh⟩⟩ | ⟨i, sid, command, readerName, issued, -, hissue,
    hsh, rfl⟩
  · obtain ⟨hnewest, hpending⟩ := hheld b hlock
    constructor
    · rw [hsh]
      exact hnewest
    · rw [hsh]
      exact hpending
  · obtain ⟨hnewest, w, hw, hst, hreq, hsender⟩ := hheld b hlock
    constructor
    · rw [hsh, Shared.length_dropReceiver]
      exact hnewest
    · rw [hsh, Shared.dropReceiver, List.getElem?_modify, hw]
      by_cases hrx : rx = b.rx
      · exact ⟨w.mapOneshot Oneshot.dropReceiver, by simp [hrx], hst, hreq, hsender⟩
      · exact ⟨w, by simp [hrx], hst, hreq, hsender⟩
  · obtain ⟨session, channel, -, -, -, hrx, -, hshared⟩ := Shared.issue_eq_ok hissue
    constructor
    · rw [hsh, Shared.length_issue hissue, hrx]
    · refine ⟨Waiter.new sid issued.request issued.stream, ?_, rfl, rfl, rfl⟩
      rw [hsh, hshared, hrx]
      simp

/-- In every reachable state the holder of the lock has the newest command, still pending. -/
theorem Reachable.heldBy {svc : SmartcardService} {s : Server} (h : s.Reachable svc) :
    ∀ b, s.lock = some b → s.HeldBy b :=
  StepRun.invariant_reaches (P := fun s => ∀ b, s.lock = some b → s.HeldBy b)
    (fun _ _ _ hP hstep _ hb => (step_transition hstep).heldBy hP hb) (by intro b hb; cases hb) h

end Server

end RemoteSmartcard
