/-
# The delays of `ReconnectConfig`

`next_delay` returns the stored delay and stores twice that delay, up to the
maximum.  `delayAt d m k` is the delay that exponential backoff has after `k`
doublings, over the natural numbers, and `DelayLaw` says that a list of delays
follows it.

The delay is doubled before it is bounded, so a delay of 2^63 seconds or more
overflows even where the maximum is to be stored again; and the first delay is
not bounded at all.
-/
import RemoteSmartcard.ReconnectLoop

namespace RemoteSmartcard

/-! ## The delays without overflow -/

/-- The delay after `k` doublings, in seconds. -/
def delayAt (d m k : ℕ) : ℕ := min (d * 2 ^ k) m

/-- The delays are bounded by the maximum. -/
theorem delayAt_le (d m k : ℕ) : delayAt d m k ≤ m := Nat.min_le_right ..

/-- The first one is the initial delay, if that is not above the maximum. -/
theorem delayAt_zero {d m : ℕ} (h : d ≤ m) : delayAt d m 0 = d := by
  rw [delayAt, pow_zero, mul_one]
  exact Nat.min_eq_left h

/-- Doubling and bounding the delay. -/
theorem delayAt_succ (d m k : ℕ) : delayAt d m (k + 1) = min (delayAt d m k * 2) m := by
  unfold delayAt
  rw [pow_succ, ← mul_assoc]
  omega

/-- They never decrease. -/
theorem delayAt_mono (d m : ℕ) {k l : ℕ} (h : k ≤ l) : delayAt d m k ≤ delayAt d m l := by
  have hpow : d * 2 ^ k ≤ d * 2 ^ l :=
    Nat.mul_le_mul_left d (Nat.pow_le_pow_right (by omega) h)
  unfold delayAt
  omega

/-! ## Durations of whole seconds -/

namespace Duration

/-- A number of seconds below 2^64. -/
def wholeSecs (n : ℕ) : Duration := fromSecs (UInt64.ofNat n)

/-- `from_secs` gives a number of seconds. -/
theorem fromSecs_eq_wholeSecs (s : UInt64) : fromSecs s = wholeSecs s.toNat := by
  rw [wholeSecs, UInt64.ofNat_toNat]

/-- A number of seconds, in nanoseconds. -/
theorem asNanos_wholeSecs {n : ℕ} (h : n < 2 ^ 64) : (wholeSecs n).asNanos = n * nanosPerSec := by
  rw [asNanos, wholeSecs, fromSecs, UInt64.toNat_ofNat_of_lt' h, Nat.add_zero]

/-- Doubling a number of seconds overflows at 2^64 seconds. -/
theorem checkedMul_wholeSecs {n : ℕ} (h : n < 2 ^ 64) :
    (wholeSecs n).checkedMul 2 = if n * 2 < 2 ^ 64 then some (wholeSecs (n * 2)) else none := by
  rw [checkedMul, wholeSecs, fromSecs, UInt64.toNat_ofNat_of_lt' h]
  simp only [Nat.zero_mul, Nat.zero_div, Nat.zero_mod, Nat.add_zero]
  rfl

/-- The smaller of two numbers of seconds. -/
theorem min_wholeSecs {n k : ℕ} (hn : n < 2 ^ 64) (hk : k < 2 ^ 64) :
    (wholeSecs n).min (wholeSecs k) = wholeSecs (Nat.min n k) := by
  have hlt : (wholeSecs k).lt (wholeSecs n) = decide (k < n) := by
    simp only [lt, wholeSecs, fromSecs, UInt64.lt_iff_toNat_lt, UInt64.toNat_ofNat_of_lt' hn,
      UInt64.toNat_ofNat_of_lt' hk, lt_irrefl, decide_false, Bool.and_false, Bool.or_false]
  unfold Duration.min
  rw [hlt]
  by_cases h : k < n
  · rw [if_pos (decide_eq_true h), show Nat.min n k = k from Nat.min_eq_right h.le]
  · rw [if_neg (by simpa using h), show Nat.min n k = n from Nat.min_eq_left (Nat.not_lt.mp h)]

end Duration

/-! ## Calls in a row -/

namespace ReconnectConfig

/-- The delays of `n` calls of `next_delay` in a row, and the configuration after
them; none when a call panics. -/
def nextDelays : ℕ → ReconnectConfig → Option (List Duration × ReconnectConfig)
  | 0, c => some ([], c)
  | n + 1, c =>
    c.nextDelay.bind fun r => (nextDelays n r.2).map fun rest => (r.1 :: rest.1, rest.2)

/-- The calls that change a configuration. -/
inductive Call
  | nextDelay
  | reset

/-- The configuration after a call; none when it panics. -/
def call (c : ReconnectConfig) : Call → Option ReconnectConfig
  | .nextDelay => c.nextDelay.map Prod.snd
  | .reset => some c.reset

/-- A configuration with the delays `d` and `m` right after `new`, or right after
`reset` whatever the calls before. -/
inductive Fresh (d m : UInt64) : ReconnectConfig → Prop
  | new (enabled : Bool) : Fresh d m (.new (.fromSecs d) (.fromSecs m) enabled)
  | reset {enabled : Bool} {calls : List Call} {c : ReconnectConfig}
      (h : StepRun.run call (.new (.fromSecs d) (.fromSecs m) enabled) calls = some c) :
      Fresh d m c.reset

/-- The fields that no call changes. -/
theorem fixed_of_run {calls : List Call} {c c' : ReconnectConfig}
    (h : StepRun.run call c calls = some c') :
    c'.initialDelay = c.initialDelay ∧ c'.maxDelay = c.maxDelay ∧ c'.enabled = c.enabled := by
  refine StepRun.invariant_run (P := fun x => x.initialDelay = c.initialDelay ∧
    x.maxDelay = c.maxDelay ∧ x.enabled = c.enabled) (fun s a s' hs hcall => ?_) ⟨rfl, rfl, rfl⟩ h
  cases a with
  | nextDelay =>
    simp only [call, nextDelay, Option.map_map, Option.map_eq_some_iff] at hcall
    obtain ⟨doubled, -, rfl⟩ := hcall
    exact hs
  | reset =>
    cases hcall
    exact hs

/-- A configuration after `reset` is one after `new`. -/
theorem Fresh.eq_new {d m : UInt64} {c : ReconnectConfig} (h : Fresh d m c) :
    ∃ enabled, c = .new (.fromSecs d) (.fromSecs m) enabled := by
  cases h with
  | new enabled => exact ⟨enabled, rfl⟩
  | @reset enabled calls c h =>
    obtain ⟨hinitial, hmax, henabled⟩ := fixed_of_run h
    refine ⟨enabled, ?_⟩
    obtain ⟨initial, max, current, e⟩ := c
    cases hinitial
    cases hmax
    cases henabled
    rfl

/-- The configuration after `k` delays without overflow. -/
def afterDelays (d m k : ℕ) (enabled : Bool) : ReconnectConfig :=
  ⟨.wholeSecs d, .wholeSecs m, .wholeSecs (delayAt d m k), enabled⟩

/-- `new` gives the configuration before the first delay. -/
theorem new_eq_afterDelays {d m : UInt64} (h : d ≤ m) (enabled : Bool) :
    new (.fromSecs d) (.fromSecs m) enabled = afterDelays d.toNat m.toNat 0 enabled := by
  rw [new, afterDelays, Duration.fromSecs_eq_wholeSecs, Duration.fromSecs_eq_wholeSecs,
    delayAt_zero (UInt64.le_iff_toNat_le.mp h)]

/-- **One call**: the next delay, unless doubling it overflows. -/
theorem nextDelay_afterDelays {m : ℕ} (hm : m < 2 ^ 64) (d k : ℕ) (enabled : Bool) :
    (afterDelays d m k enabled).nextDelay =
      if delayAt d m k < 2 ^ 63 then
        some (.wholeSecs (delayAt d m k), afterDelays d m (k + 1) enabled)
      else none := by
  have hle := delayAt_le d m k
  unfold nextDelay
  simp only [afterDelays]
  rw [Duration.checkedMul_wholeSecs (by omega)]
  by_cases h : delayAt d m k < 2 ^ 63
  · rw [if_pos (by omega), if_pos h, Option.map_some, Duration.min_wholeSecs (by omega) hm,
      delayAt_succ]
  · rw [if_neg (by omega), if_neg h]
    rfl

/-- **Calls in a row**: the delays from the `k`-th on, as long as the last of them
can be doubled. -/
theorem nextDelays_afterDelays {m : ℕ} (hm : m < 2 ^ 64) (d k n : ℕ) (enabled : Bool) :
    nextDelays n (afterDelays d m k enabled) =
      if n = 0 ∨ delayAt d m (k + n - 1) < 2 ^ 63 then
        some ((List.range' k n).map fun j => .wholeSecs (delayAt d m j),
          afterDelays d m (k + n) enabled)
      else none := by
  induction n generalizing k with
  | zero => rfl
  | succ n ih =>
    rw [nextDelays, nextDelay_afterDelays hm]
    have hmono := delayAt_mono d m (show k ≤ k + (n + 1) - 1 by omega)
    by_cases h : delayAt d m k < 2 ^ 63
    · rw [if_pos h, Option.bind_some, ih (k + 1), show k + 1 + n - 1 = k + (n + 1) - 1 by omega]
      by_cases hlast : delayAt d m (k + (n + 1) - 1) < 2 ^ 63
      · rw [if_pos (Or.inr hlast), if_pos (Or.inr hlast), Option.map_some, List.range'_succ,
          List.map_cons, show k + 1 + n = k + (n + 1) by omega]
      · have hn : n ≠ 0 := by
          rintro rfl
          exact hlast h
        rw [if_neg (by omega), if_neg (by omega)]
        rfl
    · -- the first of the calls panics already
      rw [if_neg h, if_neg (by omega)]
      rfl

/-! ## The law of the delays -/

/-- The first `n` delays of exponential backoff from `d` up to `m` seconds. -/
structure DelayLaw (d m n : ℕ) (delays : List Duration) : Prop where
  length : delays.length = n
  delay : ∀ k x, delays[k]? = some x → x.asNanos = min (d * 2 ^ k) m * nanosPerSec
  monotone : delays.Pairwise fun x y => x.asNanos ≤ y.asNanos
  bounded : ∀ x ∈ delays, x.asNanos ≤ m * nanosPerSec

/-- The delays without overflow follow the law. -/
theorem delayLaw_range {m : ℕ} (hm : m < 2 ^ 64) (d n : ℕ) :
    DelayLaw d m n ((List.range n).map fun j => .wholeSecs (delayAt d m j)) := by
  have hnanos : ∀ j, (Duration.wholeSecs (delayAt d m j)).asNanos = delayAt d m j * nanosPerSec :=
    fun j => Duration.asNanos_wholeSecs ((delayAt_le d m j).trans_lt hm)
  refine ⟨by simp, fun k x hk => ?_, ?_, fun x hx => ?_⟩
  · rw [List.getElem?_map, Option.map_eq_some_iff] at hk
    obtain ⟨j, hj, rfl⟩ := hk
    obtain ⟨hlt, hj⟩ := List.getElem?_eq_some_iff.mp hj
    rw [List.getElem_range] at hj
    subst hj
    exact hnanos k
  · rw [List.pairwise_map]
    refine List.pairwise_lt_range.imp fun {i j} hij => ?_
    rw [hnanos, hnanos]
    exact Nat.mul_le_mul_right _ (delayAt_mono d m hij.le)
  · obtain ⟨j, -, rfl⟩ := List.mem_map.mp hx
    rw [hnanos]
    exact Nat.mul_le_mul_right _ (delayAt_le d m j)

/-- `n` calls of `next_delay` in a row, right after `new` or `reset`, do not panic
and follow the law. -/
def Follows (d m : UInt64) (n : ℕ) : Prop :=
  ∀ c, Fresh d m c → ∃ delays c', nextDelays n c = some (delays, c') ∧
    DelayLaw d.toNat m.toNat n delays

/-- The first delay is the initial one, bounded or not. -/
theorem head_nextDelays {n : ℕ} {c c' : ReconnectConfig} {delays : List Duration}
    (h : nextDelays (n + 1) c = some (delays, c')) : delays[0]? = some c.currentDelay := by
  simp only [nextDelays, nextDelay, Option.bind_eq_some_iff, Option.map_eq_some_iff,
    Prod.mk.injEq] at h
  obtain ⟨r, ⟨doubled, -, rfl⟩, rest, -, rfl, -⟩ := h
  rfl

/-- The law is followed exactly as long as no delay overflows when it is doubled. -/
theorem follows_iff_delayAt (d m : UInt64) (n : ℕ) :
    Follows d m n ↔ n = 0 ∨ d ≤ m ∧ delayAt d.toNat m.toNat (n - 1) < 2 ^ 63 := by
  have hm := m.toNat_lt
  constructor
  · intro h
    rcases n with _ | n
    · exact Or.inl rfl
    · obtain ⟨delays, c', hcalls, hlaw⟩ := h _ (.new true)
      have hle : d ≤ m := by
        have hfirst := hlaw.delay 0 (.fromSecs d) (head_nextDelays hcalls)
        rw [Duration.fromSecs_eq_wholeSecs, Duration.asNanos_wholeSecs d.toNat_lt] at hfirst
        have hmin := Nat.eq_of_mul_eq_mul_right (by decide) hfirst
        rw [UInt64.le_iff_toNat_le]
        omega
      refine Or.inr ⟨hle, ?_⟩
      by_contra hfits
      rw [new_eq_afterDelays hle, nextDelays_afterDelays hm, if_neg (by rw [Nat.zero_add]; omega)]
        at hcalls
      cases hcalls
  · rintro h c hc
    obtain ⟨enabled, rfl⟩ := hc.eq_new
    rcases Nat.eq_zero_or_pos n with rfl | hn
    · exact ⟨[], _, rfl, delayLaw_range hm d.toNat 0⟩
    · obtain ⟨hle, hfits⟩ := h.resolve_left (by omega)
      rw [new_eq_afterDelays hle, nextDelays_afterDelays hm,
        if_pos (Or.inr (by rwa [Nat.zero_add])), ← List.range_eq_range']
      exact ⟨_, _, rfl, delayLaw_range hm d.toNat n⟩

/-- **The law of the delays.**  `n` calls follow it if and only if the initial delay
is at most the maximum and the last delay can be doubled. -/
theorem follows_iff (d m : UInt64) (n : ℕ) :
    Follows d m n ↔
      n = 0 ∨ d ≤ m ∧ (d.toNat * 2 ^ (n - 1) < 2 ^ 63 ∨ m.toNat < 2 ^ 63) := by
  rw [follows_iff_delayAt, delayAt, min_lt_iff]

/-- An initial delay above the maximum is returned, and a delay of 2^63 seconds
panics. -/
theorem not_follows :
    ¬ Follows 5 1 1 ∧ ¬ Follows 9223372036854775808 9223372036854775808 1 := by
  rw [follows_iff_delayAt, follows_iff_delayAt]
  refine ⟨fun h => ?_, fun h => ?_⟩
  · exact absurd (h.resolve_left (by decide)).1 (by decide)
  · exact absurd (h.resolve_left (by decide)).2 (by decide)

end ReconnectConfig

end RemoteSmartcard
