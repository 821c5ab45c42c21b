/-
# The delays between the attempts to connect

`Backoff` is what exponential backoff asks of the waits of a run: the wait after
the `k`-th failure in a row is `min (d * 2 ^ (k - 1)) m`, and the delay goes
back to `d` only after an attempt that connected.

The loop of `main` resets the delay at the end of every round, so all its waits
are `d` (`run_lost`).  It keeps to `Backoff` exactly as long as no attempt is
the second failure in a row (`backoff_iff`).
-/
import RemoteSmartcard.ReconnectLoop

namespace RemoteSmartcard

/-! ## Exponential backoff -/

/-- The number of attempts at the end of the list that failed without a session,
in a row. -/
def streak (attempts : List Attempt) : ℕ :=
  (attempts.reverse.takeWhile fun a => !a.established).length

theorem streak_nil : streak [] = 0 := rfl

theorem streak_snoc (attempts : List Attempt) (a : Attempt) :
    streak (attempts ++ [a]) = if a.established then 0 else streak attempts + 1 := by
  unfold streak
  rw [List.reverse_append, List.reverse_singleton, List.singleton_append, List.takeWhile_cons]
  cases a.established <;> rfl

/-- **Exponential backoff** over the waits of a run, from the delay `d` up to
`m`. -/
structure Backoff (d m : Duration) (waits : List (Attempt × Duration)) : Prop where
  /-- The wait after the `k`-th failure in a row; `streak` counts those before it. -/
  delay : ∀ before a delay after, waits = before ++ (a, delay) :: after →
    a.established = false →
      delay.asNanos = min (d.asNanos * 2 ^ streak (before.map Prod.fst)) m.asNanos
  /-- A later wait is `d` again only after an attempt that connected. -/
  restart : ∀ before a delay b delay' after,
    waits = before ++ (a, delay) :: (b, delay') :: after → d ≠ m → delay' = d →
      a.connected = true ∨ b.connected = true

/-- Of any two attempts in a row, one established a session. -/
def Spaced (attempts : List Attempt) : Prop :=
  ∀ before a b after, attempts = before ++ a :: b :: after →
    a.established = true ∨ b.established = true

/-- In a spaced list a failure is the first in a row. -/
theorem Spaced.streak_eq_zero {before after : List Attempt} {a : Attempt}
    (h : Spaced (before ++ a :: after)) (ha : a.established = false) : streak before = 0 := by
  rcases List.eq_nil_or_concat before with rfl | ⟨init, b, rfl⟩
  · exact streak_nil
  · rw [List.concat_eq_append] at h ⊢
    rcases h init b a after (by simp) with hb | hb
    · rw [streak_snoc, if_pos hb]
    · rw [ha] at hb
      simp at hb

/-! ## The waits of the loop -/

/-- The connection is lost (or not made), and no shutdown is requested. -/
def Round.Lost (r : Round) : Prop :=
  (∃ e, runConnection r.attempt = some (.error e)) ∧ r.wait ≠ .shutdownChanged true ∧
    r.shutdown = false

namespace MainLoop

/-- A round that loses the connection waits for the initial delay, and leaves
the configuration as it was at the start. -/
theorem round_lost {d m : Duration} (hfits : d.asNanos * 2 < 2 ^ 64 * nanosPerSec)
    {waits : List (Attempt × Duration)} {r : Round} (hr : r.Lost) :
    round ⟨.new d m true, waits, none⟩ r =
      some ⟨.new d m true, waits ++ [(r.attempt, d)], none⟩ := by
  obtain ⟨⟨e, he⟩, hwait, hshutdown⟩ := hr
  obtain ⟨doubled, hdoubled, -⟩ := Duration.checkedMul_eq_some hfits
  have hnext : (ReconnectConfig.new d m true).nextDelay =
      some (d, { ReconnectConfig.new d m true with currentDelay := doubled.min m }) := by
    unfold ReconnectConfig.nextDelay
    show (d.checkedMul 2).map _ = _
    rw [hdoubled]
    rfl
  unfold round
  simp only [he, hnext, hwait, hshutdown, if_false, Bool.false_eq_true, Option.isSome_none]
  rfl

/-- **All waits are the initial delay.** -/
theorem run_lost {d m : Duration} (hfits : d.asNanos * 2 < 2 ^ 64 * nanosPerSec)
    {rounds : List Round} (hlost : ∀ r ∈ rounds, r.Lost) (waits : List (Attempt × Duration)) :
    StepRun.run round ⟨.new d m true, waits, none⟩ rounds =
      some ⟨.new d m true, waits ++ rounds.map fun r => (r.attempt, d), none⟩ := by
  induction rounds generalizing waits with
  | nil => simp
  | cons r rounds ih =>
    have hr : r.Lost := hlost r (List.mem_cons_self ..)
    have hrounds : ∀ r' ∈ rounds, r'.Lost := fun r' hr' => hlost r' (List.mem_cons_of_mem _ hr')
    rw [StepRun.run_cons, round_lost hfits hr, Option.bind_some, ih hrounds]
    simp

/-- Waits that are all `d` keep to the backoff exactly when `d` is the maximum,
or no failure follows a failure. -/
theorem backoff_constant_iff {d m : Duration} (hpos : 0 < d.asNanos)
    (hle : d.asNanos ≤ m.asNanos) (attempts : List Attempt) :
    Backoff d m (attempts.map fun a => (a, d)) ↔ d = m ∨ Spaced attempts := by
  constructor
  · -- two failures in a row would have to double the delay
    intro h
    by_contra hnot
    obtain ⟨hne, hspaced⟩ := not_or.mp hnot
    unfold Spaced at hspaced
    push Not at hspaced
    obtain ⟨before, a, b, after, rfl, ha, hb⟩ := hspaced
    have hdelay := h.delay ((before ++ [a]).map fun a => (a, d)) b d
      (after.map fun a => (a, d)) (by simp) (by simpa using hb)
    have hfst : ((before ++ [a]).map fun a => (a, d)).map Prod.fst = before ++ [a] := by
      rw [List.map_map]
      exact List.map_id _
    rw [hfst, streak_snoc, if_neg ha, pow_succ] at hdelay
    have hgrow : d.asNanos < d.asNanos * (2 ^ streak before * 2) := by
      have : 0 < 2 ^ streak before := by positivity
      nlinarith
    exact hne (Duration.asNanos_injective (by omega))
  · intro h
    refine ⟨fun before a delay after heq ha => ?_,
      fun before a delay b delay' after heq hne _ => ?_⟩
    · obtain ⟨init, rest, rfl, hinit, hrest⟩ := List.map_eq_append_iff.mp heq
      obtain ⟨a', rest', rfl, ha', hrest'⟩ := List.map_eq_cons_iff.mp hrest
      obtain ⟨rfl, rfl⟩ := Prod.mk.inj ha'
      have hfst : before.map Prod.fst = init := by
        rw [← hinit, List.map_map]
        exact List.map_id _
      rcases h with rfl | hspaced
      · -- the delay is the maximum from the start
        have : 0 < 2 ^ streak (before.map Prod.fst) := by positivity
        exact (Nat.min_eq_right (Nat.le_mul_of_pos_right _ this)).symm
      · rw [hfst, hspaced.streak_eq_zero ha, pow_zero, mul_one]
        exact (Nat.min_eq_left hle).symm
    · rcases h with rfl | hspaced
      · exact absurd rfl hne
      · obtain ⟨init, rest, rfl, hinit, hrest⟩ := List.map_eq_append_iff.mp heq
        obtain ⟨a', rest', rfl, ha', hrest'⟩ := List.map_eq_cons_iff.mp hrest
        obtain ⟨b', rest'', rfl, hb', -⟩ := List.map_eq_cons_iff.mp hrest'
        obtain ⟨rfl, rfl⟩ := Prod.mk.inj ha'
        obtain ⟨rfl, rfl⟩ := Prod.mk.inj hb'
        exact (hspaced init a' b' rest'' rfl).imp Attempt.connected_of_established
          Attempt.connected_of_established

/-- **When the loop backs off.**  For every sequence of lost connections, the
loop goes on, waits once after each, and its waits keep to exponential backoff
if and only if the initial delay is the maximum or no attempt is the second in a
row to fail without a session. -/
theorem backoff_iff {d m : Duration} (hpos : 0 < d.asNanos) (hle : d.asNanos ≤ m.asNanos)
    (hfits : d.asNanos * 2 < 2 ^ 64 * nanosPerSec) (rounds : List Round)
    (hlost : ∀ r ∈ rounds, r.Lost) :
    ∃ s, StepRun.run round (start d m true) rounds = some s ∧ s.result = none ∧
      s.waits.map Prod.fst = rounds.map Round.attempt ∧
      (Backoff d m s.waits ↔ d = m ∨ Spaced (rounds.map Round.attempt)) := by
  have hwaits : rounds.map (fun r => (r.attempt, d)) =
      (rounds.map Round.attempt).map fun a => (a, d) := by
    rw [List.map_map]
    rfl
  refine ⟨_, run_lost hfits hlost [], rfl, ?_, ?_⟩
  · show (([] : List (Attempt × Duration)) ++ rounds.map _).map Prod.fst = _
    rw [List.nil_append, List.map_map]
    rfl
  · show Backoff d m (([] : List (Attempt × Duration)) ++ rounds.map _) ↔ _
    rw [List.nil_append, hwaits]
    exact backoff_constant_iff hpos hle _

/-- The server refuses two connections in a row. -/
def refusedRun : List Round :=
  let refused : Attempt :=
    ⟨.error (.connection "Failed to connect: connection refused"), .error "", []⟩
  [⟨refused, .elapsed, false⟩, ⟨refused, .elapsed, false⟩]

theorem lost_refusedRun : ∀ r ∈ refusedRun, r.Lost := by
  intro r hr
  obtain rfl : r = ⟨⟨.error (.connection "Failed to connect: connection refused"), .error "", []⟩,
      .elapsed, false⟩ := by simpa [refusedRun] using hr
  exact ⟨⟨_, rfl⟩, by decide, rfl⟩

/-- From 1 s, up to 60 s: the second wait is 1 s again, not 2 s. -/
theorem not_backoff_refusedRun :
    ¬ ∀ s, StepRun.run round (start (.fromSecs 1) (.fromSecs 60) true) refusedRun = some s →
      Backoff (.fromSecs 1) (.fromSecs 60) s.waits := by
  intro h
  have hwaits := h _ (run_lost (by decide) lost_refusedRun [])
  have hdelay := hwaits.delay [_] _ _ [] rfl rfl
  revert hdelay
  decide

/-- The same run with the maximum at 1 s. -/
theorem backoff_iff_refusedRun :
    ∃ s, StepRun.run round (start (.fromSecs 1) (.fromSecs 1) true) refusedRun = some s ∧
      Backoff (.fromSecs 1) (.fromSecs 1) s.waits := by
  obtain ⟨s, hrun, -, -, hiff⟩ :=
    @backoff_iff (.fromSecs 1) (.fromSecs 1) (by decide) (by decide) (by decide) refusedRun
      lost_refusedRun
  exact ⟨s, hrun, hiff.mpr (Or.inl rfl)⟩

end MainLoop

end RemoteSmartcard
