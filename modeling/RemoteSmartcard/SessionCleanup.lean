/-
# Expired sessions

`cleanup_expired` removes the sessions that have been silent for more whole
seconds than the timeout.  Its iteration over the map meets the sessions in any
order and reads the clock anew for each.  `SessionTable` is the session manager
with the clock; its runs mix all operations on the table with time passing,
between them and within a clean-up.
-/
import RemoteSmartcard.Server

namespace RemoteSmartcard

/-- The session manager and the last reading of the clock. -/
structure SessionTable where
  manager : SessionManager
  now : ℕ

/-- The operations on the table, and time passing. -/
inductive TableAction
  | tick (nanos : ℕ)
  | createSession (id clientId : String)
  | touchSession (id : String)
  | removeSession (id : String)
  | cleanupExpired (examined : List (String × ℕ))

namespace TableAction

/-- The last reading of the clock after an action. -/
def clock (now : ℕ) : TableAction → ℕ
  | tick nanos => now + nanos
  | cleanupExpired examined => (examined.map (·.2)).getLastD now
  | _ => now

/-- The action is an activity of the session. -/
def Touches (sid : String) : TableAction → Prop
  | createSession id _ => id = sid
  | touchSession id => id = sid
  | _ => False

instance (sid : String) (a : TableAction) : Decidable (a.Touches sid) := by
  cases a <;> unfold Touches <;> infer_instance

end TableAction

namespace SessionTable

open TableAction

/-- The iteration meets every session of the table once, and the clock does not run
backwards. -/
def Examines (s : SessionTable) (examined : List (String × ℕ)) : Prop :=
  (examined.map (·.1)).Nodup ∧ (examined.map (·.1)).toFinset = s.manager.sessions.keys ∧
    (s.now :: examined.map (·.2)).Pairwise (· ≤ ·)

instance (s : SessionTable) (examined : List (String × ℕ)) : Decidable (s.Examines examined) :=
  inferInstanceAs (Decidable (_ ∧ _ ∧ _))

/-- One operation on the table. -/
def step (s : SessionTable) : TableAction → Option SessionTable
  | tick nanos => some ⟨s.manager, s.now + nanos⟩
  | createSession id clientId => some ⟨s.manager.createSession id s.now clientId, s.now⟩
  | touchSession id => some ⟨(s.manager.touchSession id s.now).2, s.now⟩
  | removeSession id => some ⟨(s.manager.removeSession id).2, s.now⟩
  | cleanupExpired examined =>
    if s.Examines examined then
      some ⟨(s.manager.cleanupExpired examined).2, (examined.map (·.2)).getLastD s.now⟩
    else none

end SessionTable

/-! ## A clean-up -/

namespace SessionManager

/-- A new session is in the table, with the others. -/
theorem getSession_createSession (m : SessionManager) (id id' clientId : String) (now : ℕ) :
    (m.createSession id now clientId).getSession id' =
      if id' = id then some (Session.new id now clientId) else m.getSession id' :=
  m.getSession_putSession id id' (Session.new id now clientId)

/-- A heartbeat touches its own session. -/
theorem getSession_touchSession (m : SessionManager) (id id' : String) (now : ℕ) :
    (m.touchSession id now).2.getSession id' =
      if id' = id then (m.getSession id).map fun session => session.touch now
      else m.getSession id' := by
  unfold touchSession
  cases hs : m.getSession id with
  | none =>
    by_cases hid : id' = id
    · rw [if_pos hid, hid, hs]
      rfl
    · rw [if_neg hid]
  | some session => exact m.getSession_putSession id id' (session.touch now)

/-- Removing several sessions takes these out. -/
theorem getSession_removeAll (m : SessionManager) (ids : List String) (id' : String) :
    (ids.foldl (fun m id => (m.removeSession id).2) m).getSession id' =
      if id' ∈ ids then none else m.getSession id' := by
  induction ids generalizing m with
  | nil => simp
  | cons id ids ih =>
    rw [List.foldl_cons, ih, getSession_removeSession]
    by_cases hid : id' = id <;> by_cases hids : id' ∈ ids <;> simp [hid, hids]

/-- It does not change the timeout. -/
theorem timeout_removeAll (m : SessionManager) (ids : List String) :
    (ids.foldl (fun m id => (m.removeSession id).2) m).sessionTimeoutSecs =
      m.sessionTimeoutSecs := by
  induction ids generalizing m with
  | nil => rfl
  | cons id ids ih =>
    rw [List.foldl_cons, ih]
    rfl

/-- The ids that `cleanup_expired` returns. -/
theorem mem_cleanupExpired_iff {m : SessionManager} {examined : List (String × ℕ)} {id : String} :
    id ∈ (m.cleanupExpired examined).1 ↔ ∃ session instant, m.getSession id = some session ∧
      (id, instant) ∈ examined ∧
        m.sessionTimeoutSecs < (instant - session.lastActivity) / 1000000000 := by
  unfold cleanupExpired
  simp only [List.mem_map, List.mem_filter, Option.any_eq_true, Session.isExpired,
    decide_eq_true_eq]
  constructor
  · rintro ⟨⟨_, instant⟩, ⟨hmem, session, hs, hlate⟩, rfl⟩
    exact ⟨session, instant, hs, hmem, hlate⟩
  · rintro ⟨session, instant, hs, hmem, hlate⟩
    exact ⟨(id, instant), ⟨hmem, session, hs, hlate⟩, rfl⟩

/-- `cleanup_expired` takes out what it says it has. -/
theorem getSession_cleanupExpired (m : SessionManager) (examined : List (String × ℕ))
    (id : String) : (m.cleanupExpired examined).2.getSession id =
      if id ∈ (m.cleanupExpired examined).1 then none else m.getSession id :=
  getSession_removeAll ..

/-- A clean-up of the table `m` that examines the sessions as `examined` says, returns
`removed` and leaves the table `m'` has done what it should: it has removed exactly the
sessions silent for more whole seconds than the timeout when they were examined, and
returned each of their ids once. -/
structure CleanedUp (m : SessionManager) (examined : List (String × ℕ)) (removed : List String)
    (m' : SessionManager) : Prop where
  removed_iff : ∀ id, id ∈ removed ↔ ∃ session instant, m.getSession id = some session ∧
    (id, instant) ∈ examined ∧
      m.sessionTimeoutSecs < (instant - session.lastActivity) / 1000000000
  nodup : removed.Nodup
  gone : ∀ id ∈ removed, m'.getSession id = none
  kept : ∀ id ∉ removed, m'.getSession id = m.getSession id

/-- **A clean-up is exact**, in whatever order it meets the sessions. -/
theorem cleanedUp_cleanupExpired (m : SessionManager) {examined : List (String × ℕ)}
    (hnodup : (examined.map (·.1)).Nodup) :
    m.CleanedUp examined (m.cleanupExpired examined).1 (m.cleanupExpired examined).2 where
  removed_iff := fun _ => mem_cleanupExpired_iff
  nodup := hnodup.sublist (List.filter_sublist.map _)
  gone := fun id hid => by rw [getSession_cleanupExpired, if_pos hid]
  kept := fun id hid => by rw [getSession_cleanupExpired, if_neg hid]

end SessionManager

/-! ## The clock -/

namespace SessionTable

open TableAction StepRun

/-- The last of the readings of the clock is the latest. -/
theorem le_lastReading {now : ℕ} {instants : List ℕ}
    (h : (now :: instants).Pairwise (· ≤ ·)) :
    ∀ instant ∈ now :: instants, instant ≤ instants.getLastD now := by
  rcases List.eq_nil_or_concat' instants with rfl | ⟨earlier, last, rfl⟩
  · simp
  · rw [List.getLastD_concat]
    rw [← List.cons_append, List.pairwise_append] at h
    intro instant hmem
    rw [← List.cons_append, List.mem_append, List.mem_singleton] at hmem
    rcases hmem with hmem | rfl
    · exact h.2.2 _ hmem _ (List.mem_singleton_self _)
    · exact Nat.le_refl _

/-- The clock at which a clean-up examines a session is read before the clean-up ends. -/
theorem instant_le_now {s s' : SessionTable} {examined : List (String × ℕ)}
    (h : s.step (cleanupExpired examined) = some s') :
    ∀ instant ∈ s.now :: examined.map (·.2), instant ≤ s'.now := by
  rw [step, Option.ite_none_right_eq_some] at h
  obtain ⟨⟨-, -, hclock⟩, heq⟩ := h
  cases heq
  exact le_lastReading hclock

/-- The clock of the table never goes back. -/
theorem clock_of_step {s s' : SessionTable} {a : TableAction} (h : s.step a = some s') :
    s'.now = a.clock s.now ∧ s.now ≤ s'.now := by
  cases a with
  | cleanupExpired examined =>
    have hle : s.now ≤ s'.now := instant_le_now h _ List.mem_cons_self
    rw [step, Option.ite_none_right_eq_some] at h
    cases h.2
    exact ⟨rfl, hle⟩
  | tick nanos =>
    cases h
    exact ⟨rfl, Nat.le_add_right ..⟩
  | createSession id clientId | touchSession id | removeSession id =>
    cases h
    exact ⟨rfl, Nat.le_refl _⟩

/-! ## Activity -/

/-- The instants at which the actions are an activity of the session, and the one at
which they end. -/
def activity (sid : String) : ℕ → List TableAction → List ℕ
  | now, [] => [now]
  | now, a :: as =>
    if a.Touches sid then a.clock now :: activity sid (a.clock now) as
    else activity sid (a.clock now) as

/-- From its activity at `last` on, the session is touched at gaps of at most `t` whole
seconds, up to the end of the actions. -/
def TouchedWithin (sid : String) (t last now : ℕ) (as : List TableAction) : Prop :=
  (last :: activity sid now as).IsChain fun a b => (b - a) / 1000000000 ≤ t

/-- The beginning of the run is an activity. -/
theorem exists_activity_eq_cons (sid : String) (now : ℕ) (as : List TableAction) :
    ∃ b bs, activity sid now as = b :: bs := by
  induction as generalizing now with
  | nil => exact ⟨now, [], rfl⟩
  | cons a as ih =>
    rw [activity]
    split_ifs
    · exact ⟨_, _, rfl⟩
    · exact ih (a.clock now)

/-- The clock of a run does not go back behind its start. -/
theorem now_le_of_mem_activity {s s' : SessionTable} {as : List TableAction}
    (h : run step s as = some s') {sid : String} {b : ℕ} (hb : b ∈ activity sid s.now as) :
    s.now ≤ b := by
  induction as generalizing s with
  | nil => exact Nat.le_of_eq (List.mem_singleton.mp hb).symm
  | cons a as ih =>
    rw [run_cons, Option.bind_eq_some_iff] at h
    obtain ⟨s₁, hstep, hrest⟩ := h
    obtain ⟨hclock, hle⟩ := clock_of_step hstep
    rw [activity, ← hclock] at hb
    split_ifs at hb
    · rcases List.mem_cons.mp hb with rfl | hb
      · exact hle
      · exact hle.trans (ih hrest hb)
    · exact hle.trans (ih hrest hb)

/-- The first action: it comes within `t` seconds of the last activity, and so does
what follows it. -/
theorem TouchedWithin.head {s s₁ s' : SessionTable} {a : TableAction} {as : List TableAction}
    {sid : String} {t last : ℕ} (h : TouchedWithin sid t last s.now (a :: as))
    (hstep : s.step a = some s₁) (hrest : run step s₁ as = some s') :
    (s₁.now - last) / 1000000000 ≤ t ∧
      TouchedWithin sid t (if a.Touches sid then s₁.now else last) s₁.now as := by
  unfold TouchedWithin at h ⊢
  rw [activity, ← (clock_of_step hstep).1] at h
  split_ifs at h ⊢ with htouch
  · exact List.isChain_cons_cons.mp h
  · -- the next activity, or the end, comes no earlier than the action
    refine ⟨?_, h⟩
    obtain ⟨b, bs, hact⟩ := exists_activity_eq_cons sid s₁.now as
    have hmem : b ∈ activity sid s₁.now as := by simp [hact]
    have hle : s₁.now ≤ b := now_le_of_mem_activity hrest hmem
    rw [hact, List.isChain_cons_cons] at h
    exact (Nat.div_le_div_right (Nat.sub_le_sub_right hle last)).trans h.1

/-! ## A live session -/

/-- No step changes the timeout. -/
theorem timeout_of_step {s s' : SessionTable} {a : TableAction} (h : s.step a = some s') :
    s'.manager.sessionTimeoutSecs = s.manager.sessionTimeoutSecs := by
  cases a with
  | touchSession id =>
    cases h
    dsimp only
    unfold SessionManager.touchSession
    split <;> rfl
  | cleanupExpired examined =>
    rw [step, Option.ite_none_right_eq_some] at h
    cases h.2
    exact SessionManager.timeout_removeAll ..
  | tick nanos | createSession id clientId | removeSession id =>
    cases h
    rfl

/-- **The step lemma.**  An action other than its removal, within the timeout of its
last activity, leaves the session in the table and its last activity up to date. -/
theorem step_keeps_live {s s' : SessionTable} {a : TableAction} (h : s.step a = some s')
    {sid : String} {session : Session} (hs : s.manager.getSession sid = some session)
    (ha : a ≠ removeSession sid)
    (hgap : (s'.now - session.lastActivity) / 1000000000 ≤ s.manager.sessionTimeoutSecs) :
    ∃ session', s'.manager.getSession sid = some session' ∧
      session'.lastActivity = if a.Touches sid then s'.now else session.lastActivity := by
  cases a with
  | tick nanos =>
    cases h
    exact ⟨session, hs, rfl⟩
  | createSession id clientId =>
    cases h
    dsimp only [Touches]
    rw [SessionManager.getSession_createSession]
    by_cases hid : id = sid
    · exact ⟨_, if_pos hid.symm, (if_pos hid).symm⟩
    · exact ⟨session, (if_neg (Ne.symm hid)).trans hs, (if_neg hid).symm⟩
  | touchSession id =>
    cases h
    dsimp only [Touches]
    rw [SessionManager.getSession_touchSession]
    by_cases hid : id = sid
    · subst hid
      exact ⟨session.touch s.now, by simp [hs], (if_pos rfl).symm⟩
    · exact ⟨session, (if_neg (Ne.symm hid)).trans hs, (if_neg hid).symm⟩
  | removeSession id =>
    cases h
    have hid : sid ≠ id := by
      rintro rfl
      exact ha rfl
    exact ⟨session, by rw [SessionManager.getSession_removeSession, if_neg hid, hs], rfl⟩
  | cleanupExpired examined =>
    have hinstant : ∀ instant, (sid, instant) ∈ examined → instant ≤ s'.now := fun instant hmem =>
      instant_le_now h instant (List.mem_cons_of_mem _ (List.mem_map_of_mem hmem))
    rw [step, Option.ite_none_right_eq_some] at h
    obtain ⟨-, heq⟩ := h
    cases heq
    refine ⟨session, ?_, rfl⟩
    -- it is examined before the clean-up ends, so within the timeout
    have hlive : sid ∉ (s.manager.cleanupExpired examined).1 := by
      rw [SessionManager.mem_cleanupExpired_iff]
      rintro ⟨session', instant, hs', hmem, hlate⟩
      rw [hs] at hs'
      cases hs'
      have hle := Nat.div_le_div_right (c := 1000000000)
        (Nat.sub_le_sub_right (hinstant instant hmem) session.lastActivity)
      dsimp only at hgap hle
      omega
    dsimp only
    rw [SessionManager.getSession_cleanupExpired, if_neg hlive, hs]

/-- **The run lemma.** -/
theorem run_keeps_live {as₁ as₂ : List TableAction} {s s' : SessionTable}
    (h : run step s (as₁ ++ as₂) = some s') {sid : String} {session : Session}
    (hs : s.manager.getSession sid = some session) (hkept : removeSession sid ∉ as₁)
    (hgaps : TouchedWithin sid s.manager.sessionTimeoutSecs session.lastActivity s.now
      (as₁ ++ as₂)) :
    ∃ s₁, run step s as₁ = some s₁ ∧ (s₁.manager.getSession sid).isSome := by
  induction as₁ generalizing s session with
  | nil => exact ⟨s, rfl, by rw [hs]; rfl⟩
  | cons a as₁ ih =>
    rw [List.cons_append] at h hgaps
    rw [run_cons, Option.bind_eq_some_iff] at h
    obtain ⟨s₁, hstep, hrest⟩ := h
    rw [List.mem_cons, not_or] at hkept
    obtain ⟨hgap, hgaps'⟩ := hgaps.head hstep hrest
    obtain ⟨session', hs', hactivity⟩ := step_keeps_live hstep hs (Ne.symm hkept.1) hgap
    rw [← timeout_of_step hstep, ← hactivity] at hgaps'
    rw [run_cons, hstep]
    exact ih hrest hs' hkept.2 hgaps'

/-- **Clean-ups are exact and spare the live.**  In any table a clean-up removes exactly
the sessions that have been silent for too long when it examines them.  In any run a
session that is touched at gaps of at most the timeout and not removed stays in the
table all along, and every heartbeat on it is valid. -/
theorem cleanup_exact_and_spares_live (s : SessionTable) :
    (∀ examined s', s.step (cleanupExpired examined) = some s' →
      s.manager.CleanedUp examined (s.manager.cleanupExpired examined).1 s'.manager) ∧
    ∀ as s' sid session, run step s as = some s' → s.manager.getSession sid = some session →
      removeSession sid ∉ as →
      TouchedWithin sid s.manager.sessionTimeoutSecs session.lastActivity s.now as →
      ∀ as₁ as₂, as = as₁ ++ as₂ → ∃ s₁, run step s as₁ = some s₁ ∧
        (s₁.manager.getSession sid).isSome ∧
        ∀ server : Server, server.shared.sessions = s₁.manager →
          (server.heartbeat sid).1 = true := by
  refine ⟨fun examined s' h => ?_, ?_⟩
  · rw [step, Option.ite_none_right_eq_some] at h
    obtain ⟨⟨hnodup, -, -⟩, heq⟩ := h
    cases heq
    exact s.manager.cleanedUp_cleanupExpired hnodup
  · rintro as s' sid session h hs hkept hgaps as₁ as₂ rfl
    obtain ⟨s₁, hrun, hsome⟩ := run_keeps_live h hs
      (fun hmem => hkept (List.mem_append_left _ hmem)) hgaps
    refine ⟨s₁, hrun, hsome, fun server hserver => ?_⟩
    obtain ⟨session', hs'⟩ := Option.isSome_iff_exists.mp hsome
    simp [Server.heartbeat, SessionManager.touchSession, hserver, hs']

/-- Two sessions, of which one is silent. -/
def twoSessions : SessionTable :=
  ⟨(SessionManager.new.createSession "live" 0 "c").createSession "silent" 0 "d", 0⟩

/-- The live one is touched after 300.9 seconds; a clean-up follows 300.9 seconds later. -/
def touchedRun : List TableAction :=
  [tick 300900000000, touchSession "live", tick 300900000000,
    cleanupExpired [("silent", 601800000000), ("live", 601800000005)]]

/-- The clean-up removes the silent session only. -/
theorem cleanup_spares_touchedRun : ∃ s', run step twoSessions touchedRun = some s' ∧
    (s'.manager.getSession "live").isSome ∧ s'.manager.getSession "silent" = none := by
  have hrun : (run step twoSessions touchedRun).isSome := by decide
  obtain ⟨s', hs'⟩ := Option.isSome_iff_exists.mp hrun
  have hgaps : TouchedWithin "live" 300 0 0 touchedRun := by
    unfold TouchedWithin
    decide
  obtain ⟨s₁, hs₁, hlive, -⟩ := (cleanup_exact_and_spares_live twoSessions).2 touchedRun s' "live"
    _ hs' rfl (by simp [touchedRun]) hgaps touchedRun [] rfl
  refine ⟨s₁, hs₁, hlive, ?_⟩
  cases hs₁
  decide

end SessionTable

end RemoteSmartcard
