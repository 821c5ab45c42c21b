/-
# How long a session is accepted

No handler asks whether a session has expired, and no task of the server calls
`cleanup_expired`.  A session is accepted from its establishment until it is
removed, however long its client is silent, and a heartbeat makes an expired one
recent again.  Before and after, every call that names it is refused.
-/
import RemoteSmartcard.VpcdClients

namespace RemoteSmartcard

namespace Server

/-! ## Acceptance -/

/-- The session is accepted: a heartbeat is valid and makes it recent, the calls that
name it are answered, and a command of a vpcd task for it goes into the queue of its
channel. -/
structure Accepted (svc : SmartcardService) (s : Server) (sid : String) : Prop where
  heartbeat : (s.heartbeat sid).1 = true
  revived : ∀ timeoutSecs, ∃ session, (s.heartbeat sid).2.shared.getSession sid = some session ∧
    session.isExpired s.now timeoutSecs = false
  updateReaderInfo : ∀ req : UpdateReaderInfoRequest, req.sessionId = sid →
    (s.updateReaderInfo svc req).1 = .ok ⟨true, s!"Virtual PCD ({req.readerName})"⟩
  listReaders : ∃ response, s.listReaders ⟨sid⟩ = .ok response
  transmit : ∀ req : TransmitRequest, req.sessionId = sid →
    s.transmit req = .ok ⟨[], 0x6D, 0x00, [0x6D, 0x00]⟩
  sendCommand : ∀ (i j : ℕ) (command : Command) (readerName : String) (st : CommandStream)
    (queue : Mpsc CommandRequest), s.lock = none → s.shared.channelOf sid = some j →
    s.streams[j]? = some st →
    st.queue.send ⟨s.shared.commandIdCounter, some command, readerName⟩ = .sent queue →
    ∃ s', s.sendCommand i sid command readerName =
        some (some (some (.ok s.shared.waiters.length)), s') ∧
      s'.streams = s.streams.set j { st with queue := queue }

/-- The session is refused: a heartbeat is not valid, the calls that name it answer
`NOT_FOUND`, no command of a vpcd task for it is sent, and nothing changes. -/
structure Refused (svc : SmartcardService) (s : Server) (sid : String) : Prop where
  heartbeat : s.heartbeat sid = (false, s)
  updateReaderInfo : ∀ req : UpdateReaderInfoRequest, req.sessionId = sid →
    s.updateReaderInfo svc req = (.error (.notFound "Session not found"), s)
  listReaders : s.listReaders ⟨sid⟩ = .error (.notFound "Session not found")
  transmit : ∀ req : TransmitRequest, req.sessionId = sid →
    s.transmit req = .error (.notFound "Session not found")
  sendCommand : ∀ (i : ℕ) (command : Command) (readerName : String), s.lock = none →
    s.sendCommand i sid command readerName = some (some none, s)

/-- A session that was touched just now has not expired. -/
theorem isExpired_touch (session : Session) (now timeoutSecs : ℕ) :
    (session.touch now).isExpired now timeoutSecs = false := by
  simp [Session.isExpired, Session.touch]

/-- **A session of the table is accepted**, whatever its last activity. -/
theorem accepted_of_getSession (svc : SmartcardService) {s : Server} {sid : String}
    {session : Session} (hs : s.shared.getSession sid = some session) : s.Accepted svc sid where
  heartbeat := by
    have htable : s.shared.sessions.getSession sid = some session := hs
    simp [heartbeat, SessionManager.touchSession, htable]
  revived := by
    intro timeoutSecs
    refine ⟨session.touch s.now, ?_, isExpired_touch session s.now timeoutSecs⟩
    simp only [heartbeat, Shared.updateSession, hs]
    rw [Shared.getSession_putSession s.shared sid rfl, if_pos rfl]
  updateReaderInfo := by
    rintro req rfl
    simp [updateReaderInfo, hs]
  listReaders := by simp [listReaders, hs]
  transmit := by
    rintro req rfl
    simp [transmit, hs]
  sendCommand := by
    intro i j command readerName st queue hlock hchannel hj hqueue
    rw [Shared.channelOf, hs, Option.bind_some, Option.map_eq_some_iff] at hchannel
    obtain ⟨channel, hch, rfl⟩ := hchannel
    simp [sendCommand, hlock, Shared.issue, hs, Session.sendCommandAsync, hch, enqueue, hj,
      nextCommandId, hqueue]

/-- **An id that is not in the table is refused.** -/
theorem refused_of_getSession (svc : SmartcardService) {s : Server} {sid : String}
    (hs : s.shared.getSession sid = none) : s.Refused svc sid where
  heartbeat := by
    have htable : s.shared.sessions.getSession sid = none := hs
    simp [heartbeat, SessionManager.touchSession, Shared.updateSession, htable, hs]
  updateReaderInfo := by
    rintro req rfl
    simp [updateReaderInfo, hs]
  listReaders := by simp [listReaders, hs]
  transmit := by
    rintro req rfl
    simp [transmit, hs]
  sendCommand := by
    intro i command readerName hlock
    simp [sendCommand, hlock, Shared.issue, hs]

/-! ## The sessions of the table -/

theorem isSome_readersOf (t : Shared) (sid : String) :
    (t.readersOf sid).isSome = (t.getSession sid).isSome :=
  Option.isSome_map

/-- A session is in the table after a step iff the step establishes it, or it was
there and the step does not remove it. -/
theorem Transition.getSession_isSome {svc : SmartcardService} {s s' : Server} {a : Action}
    (h : Transition svc s a s') (sid : String) :
    (s'.shared.getSession sid).isSome ↔
      (∃ req, a = .establishSession sid req) ∨
        (s.shared.getSession sid).isSome ∧ a ≠ .removeSession sid := by
  rw [← isSome_readersOf, ← isSome_readersOf, h.readersOf]
  cases a with
  | establishSession id req =>
    by_cases hid : sid = id
    · simp [readersAfter, hid]
    · simp [readersAfter, hid, Ne.symm hid]
  | removeSession id =>
    by_cases hid : sid = id
    · simp [readersAfter, hid]
    · simp [readersAfter, hid, Ne.symm hid]
  | updateReaderInfo req =>
    dsimp only [readersAfter]
    split_ifs <;> simp
  | _ => simp [readersAfter]

/-- The actions establish the session and do not remove it afterwards. -/
def Established (as : List Action) (sid : String) : Prop :=
  ∃ as₁ req as₂, as = as₁ ++ .establishSession sid req :: as₂ ∧ .removeSession sid ∉ as₂

theorem established_concat {as : List Action} {a : Action} {sid : String} :
    Established (as ++ [a]) sid ↔
      (∃ req, a = .establishSession sid req) ∨ Established as sid ∧ a ≠ .removeSession sid := by
  constructor
  · rintro ⟨as₁, req, as₂, heq, hkept⟩
    rcases List.eq_nil_or_concat' as₂ with rfl | ⟨as₃, b, rfl⟩
    · exact Or.inl ⟨req, List.singleton_inj.mp (List.append_inj' heq rfl).2⟩
    · right
      rw [← List.cons_append, ← List.append_assoc] at heq
      obtain ⟨rfl, hb⟩ := List.append_inj' heq rfl
      cases hb
      rw [List.mem_append, not_or, List.mem_singleton] at hkept
      exact ⟨⟨as₁, req, as₃, rfl, hkept.1⟩, fun heq => hkept.2 heq.symm⟩
  · rintro (⟨req, rfl⟩ | ⟨⟨as₁, req, as₂, rfl, hkept⟩, ha⟩)
    · exact ⟨as, req, [], rfl, by simp⟩
    · refine ⟨as₁, req, as₂ ++ [a], by simp, ?_⟩
      rw [List.mem_append, not_or, List.mem_singleton]
      exact ⟨hkept, fun heq => ha heq.symm⟩

/-- **The table after a run** holds the sessions that were established and not
removed. -/
theorem getSession_isSome_iff {svc : SmartcardService} {as : List Action} {s : Server}
    (h : StepRun.run (step svc) init as = some s) (sid : String) :
    (s.shared.getSession sid).isSome ↔ Established as sid := by
  induction as using List.reverseRecOn generalizing s with
  | nil =>
    cases h
    simp [Established, init, Shared.init, Shared.getSession]
  | append_singleton as a ih =>
    rw [StepRun.run_append, Option.bind_eq_some_iff] at h
    obtain ⟨s₁, h₁, hlast⟩ := h
    rw [StepRun.run_cons, Option.bind_eq_some_iff] at hlast
    obtain ⟨s₂, hstep, hrest⟩ := hlast
    cases hrest
    rw [(step_transition hstep).getSession_isSome, ih h₁, established_concat]

/-! ## The theorem -/

/-- **A session is accepted exactly while it lasts.**  After every run, a session that
was established and not removed since is accepted, expired or not; every other id is
refused. -/
theorem accepted_while_established {svc : SmartcardService} {as : List Action} {s : Server}
    (h : StepRun.run (step svc) init as = some s) (sid : String) :
    (Established as sid → s.Accepted svc sid) ∧ (¬ Established as sid → s.Refused svc sid) := by
  rw [← getSession_isSome_iff h]
  cases hs : s.shared.getSession sid with
  | none => exact ⟨nofun, fun _ => refused_of_getSession svc hs⟩
  | some session => exact ⟨fun _ => accepted_of_getSession svc hs, fun hno => absurd rfl hno⟩

/-- A client that establishes a session and then is silent for 301 seconds. -/
def silentRun : List Action := [.establishSession "s" ⟨"client", "1"⟩, .tick 301000000000]

/-- The silent client is accepted. -/
theorem accepted_silentRun : ∃ s, StepRun.run (step ⟨"127.0.0.1", 35963, true⟩) init silentRun =
    some s ∧ s.Accepted ⟨"127.0.0.1", 35963, true⟩ "s" ∧
      s.Refused ⟨"127.0.0.1", 35963, true⟩ "t" := by
  have hrun : (StepRun.run (step ⟨"127.0.0.1", 35963, true⟩) init silentRun).isSome := by decide
  obtain ⟨s, hs⟩ := Option.isSome_iff_exists.mp hrun
  refine ⟨s, hs, (accepted_while_established hs "s").1 ?_,
    (accepted_while_established hs "t").2 ?_⟩
  · exact ⟨[], _, [.tick 301000000000], rfl, by simp⟩
  · rw [← getSession_isSome_iff hs]
    cases hs
    decide

/-! ## A silent session -/

/-- Every session that has expired is refused. -/
def ExpiredRefused (svc : SmartcardService) (s : Server) : Prop :=
  ∀ sid session, s.shared.getSession sid = some session →
    session.isExpired s.now s.shared.sessions.sessionTimeoutSecs = true → s.Refused svc sid

/-- After 301 seconds of silence the session has expired and is not refused. -/
theorem not_expiredRefused_silentRun :
    ∃ s, StepRun.run (step ⟨"127.0.0.1", 35963, true⟩) init silentRun = some s ∧
      ¬ s.ExpiredRefused ⟨"127.0.0.1", 35963, true⟩ := by
  have hrun : (StepRun.run (step ⟨"127.0.0.1", 35963, true⟩) init silentRun).isSome := by decide
  obtain ⟨s, hs⟩ := Option.isSome_iff_exists.mp hrun
  refine ⟨s, hs, fun hrefused => ?_⟩
  cases hs
  have hbeat := (hrefused "s" _ rfl (by decide)).heartbeat
  exact absurd (congrArg Prod.fst hbeat) (by decide)

end Server

end RemoteSmartcard
