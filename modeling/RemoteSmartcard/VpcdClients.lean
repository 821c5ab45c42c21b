/-
# Which vpcd clients are started

`update_reader_info` tests whether a reader is new, inserts it and starts a vpcd
client for it, the last after it has dropped the lock.  `Once` is the invariant
behind what follows: every call of `start_client`, made or still to be made, is
for a session and reader of its own, and the reader is in the table of its
session as long as the session exists.  No operation makes a reader new again.

* `startCalls_le_one` — at most one call for each session and reader in a run;
* `started_iff_firstReport` — the first report of a reader decides;
* `ownEndpoints_iff_loneStart` — all clients are started for one vpcd endpoint.
-/
import RemoteSmartcard.RoundProtocol
import RemoteSmartcard.Correlation

namespace RemoteSmartcard

/-- What a vpcd client is started for: the session and the reader, and the
endpoint of vpcd. -/
abbrev Job := (Option String × Option String) × String × UInt16

/-- The job of a call of `start_client`. -/
def StartClient.job (start : StartClient) : Job :=
  ((some start.sessionId, some start.readerName), start.vpcdHost, start.vpcdPort.getD 35963)

/-- The job of a vpcd task. -/
def VpcdTask.job (t : VpcdTask) : Job := (t.client.target, t.vpcdHost, t.port)

namespace Shared

/-! ## The readers of a session -/

/-- The session is in the table and has this reader. -/
def HasReader (t : Shared) (sid readerName : String) : Prop :=
  ∃ session, t.getSession sid = some session ∧ readerName ∈ session.readers

/-- The reader table of a session. -/
def readersOf (t : Shared) (sid : String) : Option (Finmap fun _ : String => ReaderInfo) :=
  (t.getSession sid).map (·.readers)

/-- A session in the table has the readers of its reader table. -/
theorem hasReader_iff {t : Shared} {sid : String}
    {readers : Finmap fun _ : String => ReaderInfo} (h : t.readersOf sid = some readers)
    (readerName : String) : t.HasReader sid readerName ↔ readerName ∈ readers := by
  obtain ⟨session, hs, rfl⟩ := Option.map_eq_some_iff.mp h
  constructor
  · rintro ⟨session', hs', hr⟩
    obtain rfl := Option.some.inj (hs.symm.trans hs')
    exact hr
  · exact fun hr => ⟨session, hs, hr⟩

/-- The reader tables are part of the session table. -/
theorem readersOf_congr {t t' : Shared} (h : t'.sessions = t.sessions) (sid : String) :
    t'.readersOf sid = t.readersOf sid := by
  unfold readersOf getSession
  rw [h]

/-- Putting a session back changes its own readers alone. -/
theorem readersOf_putSession (t : Shared) {t' : Shared} {id : String} {session : Session}
    (hm : t'.sessions = t.sessions.putSession id session) (sid : String) :
    t'.readersOf sid = if sid = id then some session.readers else t.readersOf sid := by
  unfold readersOf
  rw [getSession_putSession t id hm]
  split_ifs <;> rfl

/-- Writing back a session with the readers it had changes no session's readers. -/
theorem readersOf_putSession_of_eq {t t' : Shared} {id : String} {session session' : Session}
    (hs : t.getSession id = some session)
    (hm : t'.sessions = t.sessions.putSession id session')
    (hr : session'.readers = session.readers) (sid : String) :
    t'.readersOf sid = t.readersOf sid := by
  rw [readersOf_putSession t hm]
  split_ifs with hid
  · subst hid
    rw [readersOf, hs, hr]
    rfl
  · rfl

/-- A new session has no readers. -/
theorem readersOf_createSession (t : Shared) (id : String) (now : ℕ) (clientId sid : String) :
    (t.createSession id now clientId).readersOf sid =
      if sid = id then some ∅ else t.readersOf sid := by
  show _ = if sid = id then some (Session.new id now clientId).readers else t.readersOf sid
  exact readersOf_putSession t rfl sid

/-- A change of a session changes its own readers alone. -/
theorem readersOf_updateSession (t : Shared) (id : String) (f : Session → Session)
    (sid : String) :
    (t.updateSession id f).readersOf sid =
      if sid = id then (t.getSession id).map (fun session => (f session).readers)
      else t.readersOf sid := by
  unfold updateSession
  cases hs : t.getSession id with
  | none =>
    dsimp only
    split_ifs with hid
    · subst hid
      rw [readersOf, hs]
      rfl
    · rfl
  | some session => exact readersOf_putSession t rfl sid

/-- A registration leaves the readers alone. -/
theorem readersOf_setCommandChannel (t : Shared) (id : String) (tx : ℕ) (sid : String) :
    (t.setCommandChannel id tx).readersOf sid = t.readersOf sid := by
  unfold setCommandChannel
  cases hs : t.getSession id with
  | none => rfl
  | some session => exact readersOf_putSession_of_eq hs rfl (by rfl) sid

/-- So does a clean-up. -/
theorem readersOf_clearCommandChannel (t : Shared) (id sid : String) :
    (t.clearCommandChannel id).readersOf sid = t.readersOf sid := by
  unfold clearCommandChannel
  cases hs : t.getSession id with
  | none => rfl
  | some session => exact readersOf_putSession_of_eq hs rfl (by rfl) sid

/-- So does a response. -/
theorem readersOf_handleResponse (t : Shared) (id : String) (response : CommandResponse)
    (sid : String) : (t.handleResponse id response).2.readersOf sid = t.readersOf sid := by
  rcases handleResponse_cases t id response with
    heq | heq | ⟨session, channel, tx, hs, hch, -, heq⟩
  · rw [heq]
  · rw [heq]
    exact readersOf_congr rfl sid
  · rw [heq]
    exact readersOf_putSession_of_eq hs rfl (by rfl) sid

/-- So does a command issued. -/
theorem readersOf_issue {t : Shared} {id : String} {command : Command} {readerName : String}
    {issued : Issued} (hi : t.issue id command readerName = some (.ok issued)) (sid : String) :
    issued.shared.readersOf sid = t.readersOf sid := by
  obtain ⟨session, channel, hs, -, -, -, -, hshared⟩ := issue_eq_ok hi
  rw [hshared]
  exact readersOf_putSession_of_eq hs rfl (by rfl) sid

/-- A removed session takes its readers along. -/
theorem readersOf_removeSession (t : Shared) (id sid : String) :
    (t.removeSession id).readersOf sid = if sid = id then none else t.readersOf sid := by
  unfold readersOf
  rw [getSession_removeSession]
  split_ifs <;> rfl

end Shared

namespace Server

theorem Handed.readersOf {s s' : Server} {b : BlockedSend}
    {answer : Option (Option (Except String ℕ))} (h : Handed s b answer s') (sid : String) :
    s'.shared.readersOf sid = s.shared.readersOf sid := by
  cases h with
  | closed => exact Shared.readersOf_congr rfl sid
  | _ => rfl

/-- No operation of a vpcd task touches the readers. -/
theorem Performed.readersOf {s s' : Server} {i : ℕ} {outcome : Outcome} {o : VpcdOp}
    {answer : Option (VpcdRet o)} (h : Performed s i outcome o answer s') (sid : String) :
    s'.shared.readersOf sid = s.shared.readersOf sid := by
  cases h with
  | issued hlock hissue h => exact (h.readersOf sid).trans (Shared.readersOf_issue hissue sid)
  | resumed hlock htask h => exact h.readersOf sid
  | response | released | elapsed => exact Shared.readersOf_congr rfl sid
  | _ => rfl

/-- The reader table of the session `sid` after an action: a session begins with
no reader, a report enters one, a removal takes the table away, and nothing else
touches it. -/
def readersAfter (sid : String) (readers : Option (Finmap fun _ : String => ReaderInfo)) :
    Action → Option (Finmap fun _ : String => ReaderInfo)
  | .establishSession id _ => if sid = id then some ∅ else readers
  | .updateReaderInfo req =>
    if sid = req.sessionId then readers.map fun readers =>
      readers.insert req.readerName ⟨req.readerName, req.atr, req.cardPresent⟩
    else readers
  | .removeSession id => if sid = id then none else readers
  | _ => readers

/-- **Each step** changes the readers of a session as `readersAfter` says. -/
theorem Transition.readersOf {svc : SmartcardService} {s s' : Server} {a : Action}
    (h : Transition svc s a s') (sid : String) :
    s'.shared.readersOf sid = readersAfter sid (s.shared.readersOf sid) a := by
  cases h with
  | establish hlock hfresh => exact Shared.readersOf_createSession ..
  | @unknownReport req hlock hs =>
    dsimp only [readersAfter]
    split_ifs with hid
    · subst hid
      rw [Shared.readersOf, hs]
      rfl
    · rfl
  | @report req session hlock hs =>
    refine (Shared.readersOf_updateSession ..).trans ?_
    dsimp only [readersAfter]
    split_ifs with hid
    · subst hid
      rw [Shared.readersOf, hs]
      rfl
    · rfl
  | @heartbeat id hlock =>
    refine (Shared.readersOf_updateSession ..).trans ?_
    dsimp only [readersAfter]
    split_ifs with hid
    · subst hid
      rfl
    · rfl
  | remove hlock => exact Shared.readersOf_removeSession ..
  | handle hlock hid => exact Shared.readersOf_handleResponse ..
  | register hlock hi hp hs => exact Shared.readersOf_setCommandChannel ..
  | respond hlock hi hp hsid => exact Shared.readersOf_handleResponse ..
  | cleanup hlock hi hp hsid => exact Shared.readersOf_clearCommandChannel ..
  | suspend ht hp hperform h => exact h.readersOf sid
  | answer ht hp hperform h => exact h.readersOf sid
  | _ => rfl

/-! ## The calls of `start_client` -/

/-- The jobs of the vpcd tasks. -/
def taskJobs (s : Server) : List Job := s.tasks.map VpcdTask.job

/-- The jobs of all calls of `start_client`, still to be made or made. -/
def jobs (s : Server) : List Job := s.starting.map StartClient.job ++ s.taskJobs

/-- The calls of `start_client` that an action leads to. -/
def newStarts (svc : SmartcardService) (s : Server) : Action → List StartClient
  | .updateReaderInfo req =>
    match s.shared.getSession req.sessionId with
    | some session => startsFor svc session req
    | none => []
  | _ => []

/-- The call of `start_client` that an action makes. -/
def callsOf (s : Server) : Action → List StartClient
  | .startClient k => s.starting[k]?.toList
  | _ => []

/-- One task moves on, with the job it had. -/
theorem taskJobs_set {s s' : Server} {i : ℕ} {t t' : VpcdTask} (ht : s.tasks[i]? = some t)
    (htasks : s'.tasks = s.tasks.set i t') (hjob : t'.job = t.job) :
    s'.taskJobs = s.taskJobs := by
  obtain ⟨hlt, rfl⟩ := List.getElem?_eq_some_iff.mp ht
  unfold taskJobs
  rw [htasks, List.map_set, hjob]
  apply List.ext_getElem (by simp)
  intro j hj hj'
  rw [List.getElem_set]
  split_ifs with hij
  · subst hij
    simp
  · rfl

/-- The tasks after a step: a call of `start_client` adds one, and every task
keeps its job. -/
theorem Transition.taskJobs {svc : SmartcardService} {s s' : Server} {a : Action}
    (h : Transition svc s a s') (hr : s.Rounds) :
    s'.taskJobs = s.taskJobs ++ (s.callsOf a).map StartClient.job := by
  have hsame : ∀ {s₁ : Server}, s₁.taskJobs = s.taskJobs →
      s₁.taskJobs = s.taskJobs ++ ([] : List StartClient).map StartClient.job := by
    intro s₁ h
    rw [h, List.map_nil, List.append_nil]
  cases h with
  | spawn hk =>
    show ((s.tasks ++ _).map _) = s.taskJobs ++ (s.starting[_]?.toList).map _
    rw [hk, List.map_append]
    rfl
  | connected ht hp => exact hsame (taskJobs_set ht rfl rfl)
  | refused ht hp => exact hsame (taskJobs_set ht rfl rfl)
  | wake ht hp => exact hsame (taskJobs_set ht rfl rfl)
  | suspend ht hp hperform h => exact hsame (by rw [Server.taskJobs, performed_tasks h]; rfl)
  | answer ht hp hperform h =>
    exact hsame (taskJobs_set ht (congrArg (List.set · _ _) (performed_tasks h)) (by rfl))
  | turn ht hp => exact hsame (taskJobs_set ht rfl (congrArg (·, _) (hr.target_eq ht hp)))
  | disconnected ht hp => exact hsame (taskJobs_set ht rfl (congrArg (·, _) (hr.target_eq ht hp)))
  | _ => exact hsame rfl

/-- No operation of a vpcd task calls `start_client`. -/
theorem performed_starting {s s' : Server} {i : ℕ} {outcome : Outcome} {o : VpcdOp}
    {answer : Option (VpcdRet o)} (h : Performed s i outcome o answer s') :
    s'.starting = s.starting := by
  rw [h.eq_frame]

/-- The calls still to be made after an action. -/
def startingAfter (svc : SmartcardService) (s : Server) : Action → List StartClient
  | .updateReaderInfo req => s.starting ++ newStarts svc s (.updateReaderInfo req)
  | .startClient k => s.starting.eraseIdx k
  | _ => s.starting

/-- The calls under way after a step. -/
theorem Transition.starting {svc : SmartcardService} {s s' : Server} {a : Action}
    (h : Transition svc s a s') : s'.starting = startingAfter svc s a := by
  cases h with
  | unknownReport hlock hs =>
    dsimp only [startingAfter, newStarts]
    rw [hs, List.append_nil]
  | report hlock hs =>
    dsimp only [startingAfter, newStarts]
    rw [hs]
  | suspend ht hp hperform h => exact performed_starting h
  | answer ht hp hperform h =>
    have hstarting := performed_starting h
    exact hstarting
  | _ => rfl

/-- **All calls after a step**: those there were, and the new ones. -/
theorem Transition.jobs_perm {svc : SmartcardService} {s s' : Server} {a : Action}
    (h : Transition svc s a s') (hr : s.Rounds) :
    s'.jobs.Perm (s.jobs ++ (newStarts svc s a).map StartClient.job) := by
  have htasks := h.taskJobs hr
  have hstarting := h.starting
  unfold jobs
  rw [htasks, hstarting]
  cases h with
  | @unknownReport req | @report req =>
    simp only [startingAfter, callsOf, List.map_nil, List.append_nil, List.map_append,
      List.append_assoc]
    exact List.Perm.append_left _ List.perm_append_comm
  | @spawn k start hk =>
    obtain ⟨hlt, rfl⟩ := List.getElem?_eq_some_iff.mp hk
    have hperm := (List.getElem_cons_eraseIdx_perm hlt).map StartClient.job
    simp only [startingAfter, callsOf, newStarts, hk, Option.toList_some, List.map_cons,
      List.map_nil, List.append_nil] at hperm ⊢
    rw [← List.append_assoc]
    refine (List.perm_append_comm).trans ?_
    rw [List.singleton_append, ← List.cons_append]
    exact hperm.append_right _
  | _ => simp [startingAfter, callsOf, newStarts]

/-! ## One call for each reader -/

/-- Every call of `start_client` is for a session and reader of its own, and the
reader is in the table of the session, if that still exists. -/
structure Once (s : Server) : Prop where
  nodup : (s.jobs.map Prod.fst).Nodup
  known : ∀ job ∈ s.jobs, ∃ sid readerName, job.1 = (some sid, some readerName) ∧
    sid ∈ s.created ∧
    ∀ readers, s.shared.readersOf sid = some readers → readerName ∈ readers

/-- At the start no task has been started. -/
theorem once_init : init.Once where
  nodup := .nil
  known := by intro job h; simp [jobs, taskJobs, init] at h

/-- A call of `start_client` comes from the report of a new reader with a card. -/
theorem mem_newStarts {svc : SmartcardService} {s : Server} {a : Action} {start : StartClient}
    (h : start ∈ newStarts svc s a) :
    ∃ req session, a = .updateReaderInfo req ∧ s.shared.getSession req.sessionId = some session ∧
      req.readerName ∉ session.readers ∧ svc.autoVpcd = true ∧ req.cardPresent = true ∧
      start = ⟨req.sessionId, req.readerName, svc.vpcdHost, some svc.vpcdPort⟩ := by
  unfold newStarts at h
  split at h
  · rename_i req
    split at h
    · rename_i session hs
      unfold startsFor at h
      split at h
      · rename_i hcond
        simp only [Bool.and_eq_true, decide_eq_true_eq] at hcond
        exact ⟨req, session, rfl, hs, hcond.1.1, hcond.1.2, hcond.2, List.mem_singleton.mp h⟩
      · cases h
    · cases h
  · cases h

/-- The calls that a step makes are for different readers. -/
theorem nodup_newStarts (svc : SmartcardService) (s : Server) (a : Action) :
    (((newStarts svc s a).map StartClient.job).map Prod.fst).Nodup := by
  unfold newStarts
  split
  · split
    · unfold startsFor
      split <;> simp
    · exact .nil
  · exact .nil

/-- The ids that have been given out stay given out. -/
theorem Transition.created_subset {svc : SmartcardService} {s s' : Server} {a : Action}
    (h : Transition svc s a s') : s.created ⊆ s'.created := by
  have hframe : ∀ {i : ℕ} {outcome : Outcome} {o : VpcdOp} {answer : Option (VpcdRet o)}
      {s₁ : Server}, Performed s i outcome o answer s₁ → s.created ⊆ s₁.created := by
    intro i outcome o answer s₁ h
    rw [h.eq_frame]
    exact List.Subset.refl _
  cases h with
  | establish => exact List.subset_cons_self ..
  | suspend ht hp hperform h => exact hframe h
  | answer ht hp hperform h =>
    have hsubset := hframe h
    exact hsubset
  | _ => exact List.Subset.refl _

/-- No step makes a reader of an old session new again. -/
theorem Transition.known {svc : SmartcardService} {s s' : Server} {a : Action}
    (h : Transition svc s a s') {sid readerName : String} (hcreated : sid ∈ s.created)
    (hknown : ∀ readers, s.shared.readersOf sid = some readers → readerName ∈ readers) :
    ∀ readers, s'.shared.readersOf sid = some readers → readerName ∈ readers := by
  intro readers hreaders
  rw [h.readersOf sid] at hreaders
  cases h with
  | @establish id req hlock hfresh =>
    have hne : sid ≠ id := by
      rintro rfl
      exact hfresh.1 hcreated
    dsimp only [readersAfter] at hreaders
    rw [if_neg hne] at hreaders
    exact hknown readers hreaders
  | unknownReport | report =>
    dsimp only [readersAfter] at hreaders
    split_ifs at hreaders
    · obtain ⟨readers₀, hreaders₀, rfl⟩ := Option.map_eq_some_iff.mp hreaders
      rw [Finmap.mem_insert]
      exact Or.inr (hknown readers₀ hreaders₀)
    · exact hknown readers hreaders
  | remove hlock =>
    dsimp only [readersAfter] at hreaders
    split_ifs at hreaders
    exact hknown readers hreaders
  | _ => exact hknown readers hreaders

/-- **Test and insertion are one step**, and no step makes a reader new again. -/
theorem Transition.once {svc : SmartcardService} {s s' : Server} {a : Action}
    (h : Transition svc s a s') (hr : s.Rounds) (hs : s.Sound) (ho : s.Once) : s'.Once := by
  have hperm := h.jobs_perm hr
  constructor
  case nodup =>
    rw [(hperm.map Prod.fst).nodup_iff, List.map_append, List.nodup_append]
    refine ⟨ho.nodup, nodup_newStarts svc s a, ?_⟩
    rintro target hold _ hmap rfl
    obtain ⟨job, hjob, rfl⟩ := List.mem_map.mp hold
    obtain ⟨_, hcall, htarget⟩ := List.mem_map.mp hmap
    obtain ⟨start, hstart, rfl⟩ := List.mem_map.mp hcall
    obtain ⟨req, session, -, hsession, hnew, -, -, rfl⟩ := mem_newStarts hstart
    obtain ⟨sid, readerName, hfst, -, hknown⟩ := ho.known job hjob
    rw [hfst] at htarget
    cases htarget
    exact hnew (hknown session.readers (congrArg (Option.map _) hsession))
  case known =>
    intro job hjob
    rcases List.mem_append.mp (hperm.mem_iff.mp hjob) with hold | hmap
    · obtain ⟨sid, readerName, hfst, hcreated, hknown⟩ := ho.known job hold
      exact ⟨sid, readerName, hfst, h.created_subset hcreated, h.known hcreated hknown⟩
    · obtain ⟨start, hstart, rfl⟩ := List.mem_map.mp hmap
      obtain ⟨req, session, rfl, hsession, -, -, -, rfl⟩ := mem_newStarts hstart
      have hin : req.sessionId ∈ s.created := hs.created _ (by rw [hsession]; rfl)
      refine ⟨_, _, rfl, h.created_subset hin, fun readers hreaders => ?_⟩
      -- the report has just entered the reader
      rw [h.readersOf] at hreaders
      dsimp only [readersAfter] at hreaders
      rw [if_pos rfl, Option.map_eq_some_iff] at hreaders
      obtain ⟨readers₀, -, rfl⟩ := hreaders
      exact (Finmap.mem_insert ..).mpr (Or.inl rfl)

/-- In every reachable state there is one job at most for each session and reader. -/
theorem Reachable.once {svc : SmartcardService} {s : Server} (h : s.Reachable svc) : s.Once :=
  (StepRun.invariant_reaches (P := fun s => s.Rounds ∧ s.Sound ∧ s.Once)
    (fun _ _ _ hP hstep => ⟨(step_transition hstep).rounds hP.1,
      (step_effect hstep).sound hP.2.1, (step_transition hstep).once hP.1 hP.2.1 hP.2.2⟩)
    ⟨rounds_init, sound_init, once_init⟩ h).2.2

/-- The calls of `start_client` made in a run, as far as its actions are enabled. -/
def startCalls (svc : SmartcardService) : Server → List Action → List StartClient
  | _, [] => []
  | s, a :: as =>
    s.callsOf a ++
      match step svc s a with
      | some s' => startCalls svc s' as
      | none => []

/-- The calls made in a run are those for the tasks it adds. -/
theorem startCalls_taskJobs (svc : SmartcardService) {s : Server} (hr : s.Reachable svc)
    (as : List Action) :
    ∃ s' : Server, s'.Reachable svc ∧
      s'.taskJobs = s.taskJobs ++ (startCalls svc s as).map StartClient.job := by
  induction as generalizing s with
  | nil => exact ⟨s, hr, by simp [startCalls]⟩
  | cons a as ih =>
    unfold startCalls
    cases hstep : step svc s a with
    | none =>
      refine ⟨s, hr, ?_⟩
      cases a with
      | startClient k =>
        cases hk : s.starting[k]? with
        | none => simp [callsOf, hk]
        | some start => simp [step, hk] at hstep
      | _ => simp [callsOf]
    | some s₁ =>
      obtain ⟨s', hs', hjobs⟩ := ih (hr.snoc hstep)
      refine ⟨s', hs', ?_⟩
      rw [hjobs, (step_transition hstep).taskJobs hr.rounds, List.map_append, List.append_assoc]

/-- **At most one vpcd client for each reader of a session.**  In every run of
the server `start_client` is called at most once for each session and reader. -/
theorem startCalls_le_one (svc : SmartcardService) (as : List Action) (sid readerName : String) :
    ((startCalls svc init as).countP fun start =>
      decide (start.sessionId = sid ∧ start.readerName = readerName)) ≤ 1 := by
  obtain ⟨s, hs, hjobs⟩ := startCalls_taskJobs svc (StepRun.Reaches.refl init) as
  have hnodup : (s.taskJobs.map Prod.fst).Nodup := by
    have hall := hs.once.nodup
    rw [jobs, List.map_append] at hall
    exact hall.of_append_right
  rw [hjobs, List.map_append] at hnodup
  have hcalls := hnodup.of_append_right
  rw [List.map_map] at hcalls
  have hcount := List.nodup_iff_count_le_one.mp hcalls (some sid, some readerName)
  rw [List.count, List.countP_map] at hcount
  refine (List.countP_mono_left fun start _ h => ?_).trans hcount
  obtain ⟨rfl, rfl⟩ := of_decide_eq_true h
  simp [StartClient.job]

/-! ## Which readers get a client -/

/-- `start_client` has been called for this session and reader, or is about to be. -/
def Started (s : Server) (sid readerName : String) : Prop :=
  (some sid, some readerName) ∈ s.jobs.map Prod.fst

instance (s : Server) (sid readerName : String) : Decidable (s.Started sid readerName) :=
  inferInstanceAs (Decidable (_ ∈ _))

/-- The report of this reader that an action is, if it is one. -/
def reportOf (sid readerName : String) : Action → Option UpdateReaderInfoRequest
  | .updateReaderInfo req =>
    if req.sessionId = sid ∧ req.readerName = readerName then some req else none
  | _ => none

/-- The first report of this reader in a run. -/
def firstReport (sid readerName : String) (as : List Action) : Option UpdateReaderInfoRequest :=
  as.findSome? (reportOf sid readerName)

/-- The report is one on the reader in the session. -/
theorem reportOf_eq_some {sid readerName : String} {a : Action} {req : UpdateReaderInfoRequest}
    (h : reportOf sid readerName a = some req) :
    a = .updateReaderInfo req ∧ req.sessionId = sid ∧ req.readerName = readerName := by
  unfold reportOf at h
  split at h
  · split_ifs at h with hreq
    cases h
    exact ⟨rfl, hreq⟩
  · cases h

/-- A client is started in a step exactly for a first report with a card. -/
theorem Transition.started_iff {svc : SmartcardService} {s s' : Server} {a : Action}
    (h : Transition svc s a s') (hr : s.Rounds) (hauto : svc.autoVpcd = true)
    {sid readerName : String} (hexists : (s.shared.getSession sid).isSome) :
    s'.Started sid readerName ↔ s.Started sid readerName ∨
      (¬ s.shared.HasReader sid readerName ∧
        ∃ req, reportOf sid readerName a = some req ∧ req.cardPresent = true) := by
  unfold Started
  rw [((h.jobs_perm hr).map Prod.fst).mem_iff, List.map_append, List.mem_append]
  refine or_congr_right ?_
  constructor
  · intro hmem
    obtain ⟨_, hcall, htarget⟩ := List.mem_map.mp hmem
    obtain ⟨start, hstart, rfl⟩ := List.mem_map.mp hcall
    obtain ⟨req, session, rfl, hsession, hnew, -, hcard, rfl⟩ := mem_newStarts hstart
    cases htarget
    refine ⟨?_, req, if_pos ⟨rfl, rfl⟩, hcard⟩
    rintro ⟨session', hsession', hold⟩
    obtain rfl := Option.some.inj (hsession.symm.trans hsession')
    exact hnew hold
  · rintro ⟨hnew, req, hreport, hcard⟩
    obtain ⟨rfl, rfl, rfl⟩ := reportOf_eq_some hreport
    obtain ⟨session, hsession⟩ := Option.isSome_iff_exists.mp hexists
    have hnotin : req.readerName ∉ session.readers := fun hold => hnew ⟨session, hsession, hold⟩
    simp [newStarts, hsession, startsFor, hnotin, hauto, hcard, StartClient.job]

/-- The readers of an old session that stays in the table. -/
theorem readersAfter_some {sid : String} {a : Action}
    (readers : Finmap fun _ : String => ReaderInfo)
    (hold : ∀ req, a ≠ .establishSession sid req) (hkeep : a ≠ .removeSession sid) :
    ∃ readers', readersAfter sid (some readers) a = some readers' ∧
      ∀ readerName, readerName ∈ readers' ↔
        readerName ∈ readers ∨ (reportOf sid readerName a).isSome := by
  cases a with
  | establishSession id req =>
    have hne : sid ≠ id := by
      rintro rfl
      exact hold req rfl
    exact ⟨readers, if_neg hne, by simp [reportOf]⟩
  | updateReaderInfo req =>
    by_cases hid : sid = req.sessionId
    · refine ⟨_, if_pos hid, fun readerName => ?_⟩
      rw [Finmap.mem_insert, or_comm]
      refine or_congr_right ?_
      subst hid
      by_cases hreader : req.readerName = readerName
      · simp [reportOf, hreader]
      · simp [reportOf, hreader, Ne.symm hreader]
    · refine ⟨readers, if_neg hid, fun readerName => ?_⟩
      simp [reportOf, Ne.symm hid]
  | removeSession id =>
    have hne : sid ≠ id := by
      rintro rfl
      exact hkeep rfl
    exact ⟨readers, if_neg hne, by simp [reportOf]⟩
  | _ => exact ⟨readers, rfl, by simp [reportOf]⟩

/-- A session that is not removed stays, and knows afterwards the readers it knew
before and the one reported. -/
theorem Transition.hasReader_iff {svc : SmartcardService} {s s' : Server} {a : Action}
    (h : Transition svc s a s') (hs : s.Sound) {sid : String}
    (hexists : (s.shared.getSession sid).isSome) (hkeep : a ≠ .removeSession sid) :
    (s'.shared.getSession sid).isSome ∧ ∀ readerName, s'.shared.HasReader sid readerName ↔
      s.shared.HasReader sid readerName ∨ (reportOf sid readerName a).isSome := by
  obtain ⟨session, hsession⟩ := Option.isSome_iff_exists.mp hexists
  have hbefore : s.shared.readersOf sid = some session.readers :=
    congrArg (Option.map _) hsession
  have hold : ∀ req, a ≠ .establishSession sid req := by
    rintro req rfl
    cases h with
    | establish hlock hfresh => exact hfresh.1 (hs.created sid hexists)
  obtain ⟨readers', hreaders', hmem⟩ := readersAfter_some session.readers hold hkeep
  have hafter : s'.shared.readersOf sid = some readers' := by
    rw [h.readersOf, hbefore, hreaders']
  refine ⟨?_, fun readerName => ?_⟩
  · obtain ⟨session', hsession', -⟩ := Option.map_eq_some_iff.mp hafter
    rw [hsession']
    rfl
  · rw [Shared.hasReader_iff hafter, Shared.hasReader_iff hbefore, hmem]

/-- **The first report of a reader decides.**  With `auto_vpcd` on, for a session
that exists and is not removed, whatever else happens: after a run a vpcd client
has been started for a reader of the session if it had been before, or if the
reader was new and the first report of it in the run says that a card is present. -/
theorem started_iff_firstReport (svc : SmartcardService) (hauto : svc.autoVpcd = true)
    {s s' : Server} (hs : s.Reachable svc) {sid : String}
    (hexists : (s.shared.getSession sid).isSome) {as : List Action}
    (hkeep : Action.removeSession sid ∉ as) (hrun : StepRun.run (step svc) s as = some s')
    (readerName : String) :
    s'.Started sid readerName ↔ s.Started sid readerName ∨
      (¬ s.shared.HasReader sid readerName ∧
        ∃ req, firstReport sid readerName as = some req ∧ req.cardPresent = true) := by
  induction as generalizing s with
  | nil =>
    rw [StepRun.run_nil, Option.some.injEq] at hrun
    subst hrun
    simp [firstReport]
  | cons a as ih =>
    rw [StepRun.run_cons, Option.bind_eq_some_iff] at hrun
    obtain ⟨s₁, hstep, hrun⟩ := hrun
    have h := step_transition hstep
    rw [List.mem_cons, not_or] at hkeep
    obtain ⟨hexists₁, hreader⟩ := h.hasReader_iff hs.sound hexists (Ne.symm hkeep.1)
    rw [ih (hs.snoc hstep) hexists₁ hkeep.2 hrun, h.started_iff hs.rounds hauto hexists, or_assoc,
      hreader]
    refine or_congr_right ?_
    unfold firstReport
    rw [List.findSome?_cons]
    cases hreport : reportOf sid readerName a with
    | none => simp
    | some req => simp

/-- A reader is reported without a card, and again when the card has been put in. -/
def lateCard : List Action :=
  [.updateReaderInfo ⟨"s", "r", [], false⟩, .updateReaderInfo ⟨"s", "r", [0x3B], true⟩]

/-- The server with one new session. -/
def newSessionState : Server := init.establishSession "s" ⟨"client", "1"⟩

theorem reachable_newSessionState (svc : SmartcardService) : newSessionState.Reachable svc :=
  ⟨[.establishSession "s" ⟨"client", "1"⟩], rfl⟩

/-- A reader that gets its card after the first report gets no vpcd client. -/
theorem not_started_lateCard :
    newSessionState.Reachable ⟨"127.0.0.1", 35963, true⟩ ∧
      (newSessionState.shared.getSession "s").isSome ∧
      ∃ s, StepRun.run (step ⟨"127.0.0.1", 35963, true⟩) newSessionState lateCard = some s ∧
        ¬ (s.Started "s" "r" ↔
          ∃ a ∈ lateCard, ∃ req, reportOf "s" "r" a = some req ∧ req.cardPresent = true) := by
  refine ⟨reachable_newSessionState _, rfl, ?_⟩
  have hnot : (StepRun.run (step ⟨"127.0.0.1", 35963, true⟩) newSessionState lateCard).map
      (fun s => decide (s.Started "s" "r")) = some false := by decide
  obtain ⟨s, hs, hnot⟩ := Option.map_eq_some_iff.mp hnot
  refine ⟨s, hs, fun h => of_decide_eq_false hnot (h.mpr ?_)⟩
  exact ⟨_, List.mem_of_getElem? (i := 1) rfl, ⟨"s", "r", [0x3B], true⟩, rfl, rfl⟩

/-- A new session reports a reader with a card. -/
theorem started_iff_firstReport_newSession :
    ((StepRun.run (step ⟨"127.0.0.1", 35963, true⟩) newSessionState
      [.updateReaderInfo ⟨"s", "r", [0x3B], true⟩]).getD init).Started "s" "r" := by
  have hkeep : Action.removeSession "s" ∉ [Action.updateReaderInfo ⟨"s", "r", [0x3B], true⟩] := by
    rw [List.mem_singleton]
    intro h
    cases h
  refine (started_iff_firstReport ⟨"127.0.0.1", 35963, true⟩ rfl
    (reachable_newSessionState _) rfl hkeep rfl "r").mpr (Or.inr ⟨?_, _, rfl, rfl⟩)
  rintro ⟨session, hsession, hmem⟩
  cases hsession
  exact absurd hmem (by decide)

/-! ## The endpoints -/

/-- Two vpcd tasks for different sessions or readers have different endpoints of
vpcd. -/
def OwnEndpoints (s : Server) : Prop :=
  ∀ t ∈ s.tasks, ∀ u ∈ s.tasks, t.client.target ≠ u.client.target →
    (t.vpcdHost, t.port) ≠ (u.vpcdHost, u.port)

/-- A call of `start_client` is made only when no vpcd task runs for another
session or reader. -/
def LoneStart (s : Server) (a : Action) : Prop :=
  ∀ start ∈ s.callsOf a, ∀ t ∈ s.tasks, t.client.target = start.job.1

/-- Different readers have different endpoints exactly if their tasks have. -/
theorem ownEndpoints_iff {s : Server} :
    s.OwnEndpoints ↔ ∀ j ∈ s.taskJobs, ∀ j' ∈ s.taskJobs, j.1 ≠ j'.1 → j.2 ≠ j'.2 := by
  unfold OwnEndpoints taskJobs
  simp only [List.forall_mem_map]
  rfl

/-- Every job is for the one endpoint in the settings of the service. -/
theorem Transition.endpoint {svc : SmartcardService} {s s' : Server} {a : Action}
    (h : Transition svc s a s') (hr : s.Rounds)
    (he : ∀ job ∈ s.jobs, job.2 = (svc.vpcdHost, svc.vpcdPort)) :
    ∀ job ∈ s'.jobs, job.2 = (svc.vpcdHost, svc.vpcdPort) := by
  intro job hjob
  rcases List.mem_append.mp ((h.jobs_perm hr).mem_iff.mp hjob) with hold | hnew
  · exact he job hold
  · obtain ⟨start, hstart, rfl⟩ := List.mem_map.mp hnew
    obtain ⟨req, session, -, -, -, -, -, rfl⟩ := mem_newStarts hstart
    rfl

/-- In every reachable state each job goes to the endpoint that is configured. -/
theorem Reachable.endpoint {svc : SmartcardService} {s : Server} (h : s.Reachable svc) :
    ∀ job ∈ s.jobs, job.2 = (svc.vpcdHost, svc.vpcdPort) :=
  (StepRun.invariant_reaches
    (P := fun s => s.Rounds ∧ ∀ job ∈ s.jobs, job.2 = (svc.vpcdHost, svc.vpcdPort))
    (fun _ _ _ hP hstep => ⟨(step_transition hstep).rounds hP.1,
      (step_transition hstep).endpoint hP.1 hP.2⟩)
    ⟨rounds_init, by simp [jobs, taskJobs, init]⟩ h).2

/-- An action makes one call of `start_client` at most. -/
theorem eq_of_mem_callsOf {s : Server} {a : Action} {start start' : StartClient}
    (h : start ∈ s.callsOf a) (h' : start' ∈ s.callsOf a) : start' = start := by
  unfold callsOf at h h'
  split at h
  · rw [Option.mem_toList] at h h'
    exact Option.some.inj (h'.symm.trans h)
  · cases h

/-- The step makes the endpoints clash exactly if it starts a client while
another one runs. -/
theorem ownEndpoints_step_iff {svc : SmartcardService} {s s' : Server} {a : Action}
    (hs : s.Reachable svc) (ho : s.OwnEndpoints) (hstep : step svc s a = some s') :
    s'.OwnEndpoints ↔ s.LoneStart a := by
  have hs' : s'.Reachable svc := hs.snoc hstep
  have hendpoint : ∀ job ∈ s'.taskJobs, job.2 = (svc.vpcdHost, svc.vpcdPort) :=
    fun job hjob => hs'.endpoint job (List.mem_append_right _ hjob)
  have hjobs := (step_transition hstep).taskJobs hs.rounds
  rw [ownEndpoints_iff] at ho ⊢
  constructor
  · intro hown start hstart t ht
    by_contra hne
    have hold : t.job ∈ s'.taskJobs := by
      rw [hjobs]
      exact List.mem_append_left _ (List.mem_map_of_mem ht)
    have hnew : start.job ∈ s'.taskJobs := by
      rw [hjobs]
      exact List.mem_append_right _ (List.mem_map_of_mem hstart)
    exact hown _ hold _ hnew hne ((hendpoint _ hold).trans (hendpoint _ hnew).symm)
  · intro hlone j hj j' hj' hne
    have hlone' : ∀ start ∈ s.callsOf a, ∀ job ∈ s.taskJobs, job.1 = start.job.1 := by
      intro start hstart job hjob
      obtain ⟨t, ht, rfl⟩ := List.mem_map.mp hjob
      exact hlone start hstart t ht
    rw [hjobs, List.mem_append] at hj hj'
    rcases hj with hj | hj <;> rcases hj' with hj' | hj'
    · exact ho j hj j' hj' hne
    · obtain ⟨start, hstart, rfl⟩ := List.mem_map.mp hj'
      exact absurd (hlone' start hstart j hj) hne
    · obtain ⟨start, hstart, rfl⟩ := List.mem_map.mp hj
      exact absurd (hlone' start hstart j' hj').symm hne
    · obtain ⟨start, hstart, rfl⟩ := List.mem_map.mp hj
      obtain ⟨start', hstart', rfl⟩ := List.mem_map.mp hj'
      exact absurd (congrArg (·.job.1) (eq_of_mem_callsOf hstart' hstart)) hne

/-- **One endpoint for all.**  The steps of a run from the start all keep the
endpoints of different readers apart exactly if no client is started in the run
while one for another session or reader is running. -/
theorem ownEndpoints_iff_loneStart (svc : SmartcardService) (as : List Action) :
    StepRun.StepsMeet (step svc) (fun s a => ∀ s', step svc s a = some s' → s'.OwnEndpoints)
        init as ↔
      StepRun.StepsMeet (step svc) LoneStart init as := by
  refine StepRun.stepsMeet_congr (P := fun s => s.Reachable svc ∧ s.OwnEndpoints) ?_ ?_
    ⟨.refl _, by simp [OwnEndpoints, init]⟩ as
  · rintro s a s' ⟨hs, ho⟩ hG hstep
    exact ⟨hs.snoc hstep, hG s' hstep⟩
  · rintro s a ⟨hs, ho⟩
    constructor
    · intro hG start hstart
      cases a with
      | startClient k =>
        have hk : s.starting[k]? = some start := Option.mem_toList.mp hstart
        have hstep : step svc s (.startClient k) =
            some ({ s with starting := s.starting.eraseIdx k }.startClient start) := by
          simp [step, hk]
        exact (ownEndpoints_step_iff hs ho hstep).mp (hG _ hstep) start hstart
      | _ => cases hstart
    · intro hlone s' hstep
      exact (ownEndpoints_step_iff hs ho hstep).mpr hlone

/-- Two clients connect; each reports a reader with a card. -/
def twoClientsRun : List Action :=
  [.establishSession "a" ⟨"alice", "1"⟩, .establishSession "b" ⟨"bob", "1"⟩,
    .updateReaderInfo ⟨"a", "r", [0x3B], true⟩, .updateReaderInfo ⟨"b", "r", [0x3B], true⟩,
    .startClient 0, .startClient 0]

/-- The readers of two clients are served on one endpoint of vpcd. -/
theorem not_ownEndpoints_twoClientsRun :
    ∃ s, StepRun.run (step ⟨"127.0.0.1", 35963, true⟩) init twoClientsRun = some s ∧
      ¬ s.OwnEndpoints := by
  have hjobs : (StepRun.run (step ⟨"127.0.0.1", 35963, true⟩) init twoClientsRun).map taskJobs =
      some [((some "a", some "r"), "127.0.0.1", 35963),
        ((some "b", some "r"), "127.0.0.1", 35963)] := by decide
  obtain ⟨s, hs, hjobs⟩ := Option.map_eq_some_iff.mp hjobs
  refine ⟨s, hs, fun hown => ?_⟩
  rw [ownEndpoints_iff, hjobs] at hown
  exact hown _ List.mem_cons_self _
    (List.mem_cons_of_mem _ (List.mem_singleton.mpr rfl)) (by decide) rfl

end Server

end RemoteSmartcard
