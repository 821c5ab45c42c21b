/-
# Durations in a configuration (`common/src/config.rs`)

`parse_duration` reads a number of seconds such as `30s` or of minutes such as
`5m`.  `Denotes s v` is its grammar: within white space, a decimal number and a
unit, of `v` seconds.

The minutes are multiplied by 60 with the plain `*` of `u64`, which panics on
overflow in a build with overflow checks and wraps around in one without; the
release profile of the workspace has none.
-/
import RemoteSmartcard.ReconnectLoop
import RemoteSmartcard.Text

namespace RemoteSmartcard

/-! ## The code -/

/-- `rsc_common::Error`. -/
inductive CommonError
  | config (text : String)
  | tls (text : String)
  | io (text : String)
  | yaml (text : String)
  deriving DecidableEq

/-- The text of a common error. -/
def CommonError.text : CommonError → String
  | config text => s!"Configuration error: {text}"
  | tls text => s!"TLS error: {text}"
  | io text => s!"I/O error: {text}"
  | yaml text => s!"YAML error: {text}"

/-- `str::parse::<u64>`. -/
def parseU64 (s : List Char) : Except Text.ParseIntError UInt64 :=
  (Text.parseUnsigned (2 ^ 64) s).map UInt64.ofNat

/-- `*` on `u64`; none is a panic. -/
def mulU64 (overflowChecks : Bool) (a b : UInt64) : Option UInt64 :=
  if overflowChecks ∧ 2 ^ 64 ≤ a.toNat * b.toNat then none else some (a * b)

/-- `parse_duration`; none is a panic. -/
def parseDuration (overflowChecks : Bool) (s : List Char) : Option (Except CommonError Duration) :=
  let s := Text.trim s
  match Text.stripSuffix 's' s with
  | some secs =>
    match parseU64 secs with
    | .error e => some (.error (.config s!"Invalid duration: {e.text}"))
    | .ok secs => some (.ok (.fromSecs secs))
  | none =>
    match Text.stripSuffix 'm' s with
    | some mins =>
      match parseU64 mins with
      | .error e => some (.error (.config s!"Invalid duration: {e.text}"))
      | .ok mins => (mulU64 overflowChecks mins 60).map fun secs => .ok (.fromSecs secs)
    | none => some (.error (.config s!"Invalid duration format: {String.ofList s}"))

/-! ## The grammar -/

/-- A decimal number with a unit, and its value in seconds. -/
inductive DurationText : List Char → ℕ → Prop
  | seconds {t : List Char} {n : ℕ} (h : Text.Decimal t n) : DurationText (t ++ ['s']) n
  | minutes {t : List Char} {n : ℕ} (h : Text.Decimal t n) : DurationText (t ++ ['m']) (60 * n)

/-- `s` is a duration of `v` seconds, within white space. -/
def Denotes (s : List Char) (v : ℕ) : Prop := ∃ t, Text.Within s t ∧ DurationText t v

/-- The text of a duration has no white space around it. -/
theorem DurationText.trimmed {t : List Char} {v : ℕ} (h : DurationText t v) : Text.Trimmed t := by
  cases h with
  | seconds h => exact h.trimmed_concat (by decide)
  | minutes h => exact h.trimmed_concat (by decide)

/-- The grammar, of the trimmed text. -/
theorem denotes_iff {s : List Char} {v : ℕ} : Denotes s v ↔ DurationText (Text.trim s) v := by
  constructor
  · rintro ⟨t, hwithin, ht⟩
    rwa [Text.trim_of_within hwithin ht.trimmed]
  · intro h
    exact ⟨_, Text.within_trim s, h⟩

/-- With an `s` it is a number of seconds. -/
theorem durationText_seconds_iff {t : List Char} {v : ℕ} :
    DurationText (t ++ ['s']) v ↔ Text.Decimal t v := by
  constructor
  · intro h
    generalize hu : t ++ ['s'] = u at h
    cases h with
    | seconds h =>
      obtain ⟨rfl, -⟩ := List.append_singleton_inj.mp hu
      exact h
    | minutes h => cases (List.append_singleton_inj.mp hu).2
  · exact .seconds

/-- With an `m` it is a number of minutes. -/
theorem durationText_minutes_iff {t : List Char} {v : ℕ} :
    DurationText (t ++ ['m']) v ↔ ∃ n, Text.Decimal t n ∧ v = 60 * n := by
  constructor
  · intro h
    generalize hu : t ++ ['m'] = u at h
    cases h with
    | seconds h => cases (List.append_singleton_inj.mp hu).2
    | minutes h =>
      obtain ⟨rfl, -⟩ := List.append_singleton_inj.mp hu
      exact ⟨_, h, rfl⟩
  · rintro ⟨n, h, rfl⟩
    exact .minutes h

/-- `parse::<u64>` gives the number exactly for its decimal texts. -/
theorem parseU64_eq_ok_iff {s : List Char} {n : UInt64} :
    parseU64 s = .ok n ↔ Text.Decimal s n.toNat := by
  have hbound : 0 < 2 ^ 64 := by decide
  rw [parseU64]
  constructor
  · intro h
    cases hs : Text.parseUnsigned (2 ^ 64) s with
    | error e =>
      rw [hs] at h
      cases h
    | ok k =>
      obtain ⟨hk, hlt⟩ := (Text.parseUnsigned_eq_ok_iff hbound).mp hs
      rw [hs] at h
      cases h
      rwa [UInt64.toNat_ofNat_of_lt' hlt]
  · intro h
    rw [(Text.parseUnsigned_eq_ok_iff hbound).mpr ⟨h, n.toNat_lt⟩, Except.map,
      UInt64.ofNat_toNat]

/-! ## The cases of `parse_duration` -/

section Cases

variable {oc : Bool} {s t : List Char}

/-- The branch of the seconds. -/
theorem parseDuration_seconds (ht : Text.trim s = t ++ ['s']) :
    parseDuration oc s = some (match parseU64 t with
      | .error e => .error (.config s!"Invalid duration: {e.text}")
      | .ok secs => .ok (.fromSecs secs)) := by
  rw [parseDuration, ht]
  rw [Text.stripSuffix_eq_some_iff.mpr rfl]
  dsimp only
  cases parseU64 t <;> rfl

/-- The branch of the minutes, whose product can overflow. -/
theorem parseDuration_minutes (ht : Text.trim s = t ++ ['m']) :
    parseDuration oc s = match parseU64 t with
      | .error e => some (.error (.config s!"Invalid duration: {e.text}"))
      | .ok mins => (mulU64 oc mins 60).map fun secs => .ok (.fromSecs secs) := by
  have hnot : Text.stripSuffix 's' (t ++ ['m']) = none := by
    rw [Option.eq_none_iff_forall_ne_some]
    intro u hu
    cases (List.append_singleton_inj.mp (Text.stripSuffix_eq_some_iff.mp hu)).2
  rw [parseDuration, ht]
  rw [hnot, Text.stripSuffix_eq_some_iff.mpr rfl]

/-- A text without a unit is an error. -/
theorem parseDuration_other (hs : ∀ t, Text.trim s ≠ t ++ ['s'])
    (hm : ∀ t, Text.trim s ≠ t ++ ['m']) :
    parseDuration oc s =
      some (.error (.config s!"Invalid duration format: {String.ofList (Text.trim s)}")) := by
  have hnot : ∀ c, (∀ t, Text.trim s ≠ t ++ [c]) → Text.stripSuffix c (Text.trim s) = none := by
    intro c hc
    rw [Option.eq_none_iff_forall_ne_some]
    exact fun u hu => hc u (Text.stripSuffix_eq_some_iff.mp hu)
  rw [parseDuration]
  rw [hnot 's' hs, hnot 'm' hm]

end Cases

/-! ## The exact value -/

/-- `parse_duration` returns, with a duration exactly for the texts of the grammar
whose value a `u64` can hold, and then with that value. -/
structure ExactDuration (overflowChecks : Bool) (s : List Char) : Prop where
  returns : parseDuration overflowChecks s ≠ none
  accepts : ∀ d, parseDuration overflowChecks s = some (.ok d) ↔
    ∃ v : UInt64, Denotes s v.toNat ∧ d = .fromSecs v

/-- A number of minutes that a `u64` holds, but not its number of seconds. -/
structure TooManyMinutes (s t : List Char) (n : ℕ) : Prop where
  within : Text.Within s (t ++ ['m'])
  decimal : Text.Decimal t n
  fits : n < 2 ^ 64
  tooMany : 2 ^ 64 ≤ 60 * n

/-- Such a text is one of minutes. -/
theorem TooManyMinutes.trim {s t : List Char} {n : ℕ} (h : TooManyMinutes s t n) :
    Text.trim s = t ++ ['m'] :=
  Text.trim_of_within h.within (h.decimal.trimmed_concat (by decide))

section Answers

variable {oc : Bool} {s t : List Char}

/-- An error is right for a text without a value. -/
theorem exactDuration_of_error {e : CommonError} (h : parseDuration oc s = some (.error e))
    (hs : ∀ v : UInt64, ¬ Denotes s v.toNat) : ExactDuration oc s := by
  refine ⟨by simp [h], fun d => iff_of_false (by simp [h]) ?_⟩
  rintro ⟨v, hv, -⟩
  exact hs v hv

/-- A duration is right for a text of its value. -/
theorem exactDuration_of_ok {n : UInt64} (h : parseDuration oc s = some (.ok (.fromSecs n)))
    (hs : ∀ v : UInt64, Denotes s v.toNat ↔ v = n) : ExactDuration oc s := by
  refine ⟨by simp [h], fun d => ?_⟩
  rw [h, Option.some.injEq, Except.ok.injEq]
  constructor
  · rintro rfl
    exact ⟨n, (hs n).mpr rfl, rfl⟩
  · rintro ⟨v, hv, rfl⟩
    rw [(hs v).mp hv]

/-- Texts of seconds are read exactly. -/
theorem exactDuration_seconds (ht : Text.trim s = t ++ ['s']) : ExactDuration oc s := by
  have hparse := @parseDuration_seconds oc s t ht
  have hdenotes : ∀ v : UInt64, Denotes s v.toNat ↔ parseU64 t = .ok v := by
    intro v
    rw [denotes_iff, ht, durationText_seconds_iff, parseU64_eq_ok_iff]
  cases hn : parseU64 t with
  | error e =>
    rw [hn] at hparse
    refine exactDuration_of_error hparse fun v hv => ?_
    rw [hdenotes, hn] at hv
    cases hv
  | ok n =>
    rw [hn] at hparse
    refine exactDuration_of_ok hparse fun v => ?_
    rw [hdenotes, hn, Except.ok.injEq]
    exact eq_comm

/-- So are texts without a unit: they mean nothing. -/
theorem exactDuration_other (hs : ∀ t, Text.trim s ≠ t ++ ['s'])
    (hm : ∀ t, Text.trim s ≠ t ++ ['m']) : ExactDuration oc s := by
  refine exactDuration_of_error (parseDuration_other hs hm) fun v hv => ?_
  rw [denotes_iff] at hv
  generalize ht : Text.trim s = t at hv
  generalize v.toNat = k at hv
  cases hv with
  | seconds => exact hs _ ht
  | minutes => exact hm _ ht

/-- A text of minutes means sixty times its number of seconds. -/
theorem denotes_minutes_iff (ht : Text.trim s = t ++ ['m']) {n : ℕ} (hn : Text.Decimal t n)
    {v : ℕ} : Denotes s v ↔ v = 60 * n := by
  rw [denotes_iff, ht, durationText_minutes_iff]
  constructor
  · rintro ⟨k, hk, rfl⟩
    rw [hk.value_unique hn]
  · intro hv
    exact ⟨n, hn, hv⟩

/-- Texts of minutes are read exactly as long as the product fits. -/
theorem exactDuration_minutes (ht : Text.trim s = t ++ ['m'])
    (hfits : ∀ n, Text.Decimal t n → n < 2 ^ 64 → 60 * n < 2 ^ 64) : ExactDuration oc s := by
  have hparse := @parseDuration_minutes oc s t ht
  cases hn : parseU64 t with
  | error e =>
    rw [hn] at hparse
    refine exactDuration_of_error hparse fun v hv => ?_
    rw [denotes_iff, ht, durationText_minutes_iff] at hv
    obtain ⟨k, hk, hval⟩ := hv
    -- the number fits, since its product does
    have hlt : k < 2 ^ 64 := by
      have := v.toNat_lt
      omega
    have hok : parseU64 t = .ok (UInt64.ofNat k) := by
      rwa [parseU64_eq_ok_iff, UInt64.toNat_ofNat_of_lt' hlt]
    rw [hn] at hok
    cases hok
  | ok n =>
    have hdec := parseU64_eq_ok_iff.mp hn
    have hlt := hfits _ hdec n.toNat_lt
    have h60 : (60 : UInt64).toNat = 60 := rfl
    have hmul : (n * 60).toNat = 60 * n.toNat := by
      rw [UInt64.toNat_mul, h60, Nat.mod_eq_of_lt (by omega), Nat.mul_comm]
    rw [hn] at hparse
    dsimp only at hparse
    rw [mulU64, if_neg (by rw [h60]; omega), Option.map_some] at hparse
    refine exactDuration_of_ok hparse fun v => ?_
    rw [denotes_minutes_iff ht hdec, ← UInt64.toNat_inj, hmul]

end Answers

/-- With overflow checks there is a panic, and without a wrapped value. -/
theorem parseDuration_tooMany {oc : Bool} {s t : List Char} {n : ℕ} (h : TooManyMinutes s t n) :
    parseDuration oc s =
      if oc then none else some (.ok (.fromSecs (UInt64.ofNat (60 * n % 2 ^ 64)))) := by
  have hok : parseU64 t = .ok (UInt64.ofNat n) := by
    rw [parseU64_eq_ok_iff, UInt64.toNat_ofNat_of_lt' h.fits]
    exact h.decimal
  have h60 : (60 : UInt64).toNat = 60 := rfl
  rw [parseDuration_minutes h.trim, hok]
  dsimp only
  rw [mulU64, h60, UInt64.toNat_ofNat_of_lt' h.fits]
  have hmany := h.tooMany
  have hmul : UInt64.ofNat n * 60 = UInt64.ofNat (60 * n % 2 ^ 64) := by
    rw [← UInt64.toNat_inj, UInt64.toNat_mul, h60, UInt64.toNat_ofNat_of_lt' h.fits,
      UInt64.toNat_ofNat', Nat.mod_mod, Nat.mul_comm]
  cases oc with
  | true =>
    rw [if_pos ⟨rfl, by omega⟩]
    rfl
  | false =>
    rw [if_neg (fun hand => Bool.false_ne_true hand.1), hmul]
    rfl

/-- Too many minutes are not read exactly, in either build. -/
theorem not_exactDuration {oc : Bool} {s t : List Char} {n : ℕ} (h : TooManyMinutes s t n) :
    ¬ ExactDuration oc s := by
  intro hexact
  have hmany := h.tooMany
  have hparse := @parseDuration_tooMany oc s t n h
  cases oc with
  | true => exact hexact.returns (by rw [hparse]; rfl)
  | false =>
    obtain ⟨v, hv, -⟩ := (hexact.accepts _).mp hparse
    rw [denotes_minutes_iff h.trim h.decimal] at hv
    have := v.toNat_lt
    omega

/-- **The grammar of the durations.**  Whatever the text and the build,
`parse_duration` accepts its grammar with the exact value if and only if the text
is not a number of minutes that overflows when it is turned into seconds. -/
theorem exactDuration_iff (oc : Bool) (s : List Char) :
    ExactDuration oc s ↔ ¬ ∃ t n, TooManyMinutes s t n := by
  constructor
  · rintro h ⟨t, n, hmany⟩
    exact not_exactDuration hmany h
  · intro h
    by_cases hs : ∃ t, Text.trim s = t ++ ['s']
    · obtain ⟨t, ht⟩ := hs
      exact exactDuration_seconds ht
    by_cases hm : ∃ t, Text.trim s = t ++ ['m']
    · obtain ⟨t, ht⟩ := hm
      refine exactDuration_minutes ht fun n hn hlt => ?_
      by_contra hge
      exact h ⟨t, n, ht ▸ Text.within_trim s, hn, hlt, Nat.not_lt.mp hge⟩
    · push Not at hs hm
      exact exactDuration_other hs hm

example : parseDuration true [' ', '5', 'm'] = some (.ok (.fromSecs 300)) := by decide

/-- The least number of minutes that overflows, 44 seconds above 2^64. -/
def manyMinutes : List Char :=
  ['3', '0', '7', '4', '4', '5', '7', '3', '4', '5', '6', '1', '8', '2', '5', '8', '6', '1', 'm']

theorem tooManyMinutes_manyMinutes :
    TooManyMinutes manyMinutes manyMinutes.dropLast 307445734561825861 := by
  refine ⟨⟨[], [], rfl, by simp, by simp⟩, ?_, by decide, by decide⟩
  have hparse : Text.parseUnsigned (2 ^ 64) manyMinutes.dropLast = .ok 307445734561825861 := by
    decide
  exact ((Text.parseUnsigned_eq_ok_iff (by decide)).mp hparse).1

/-- It panics in a build with overflow checks, and gives 44 seconds in one without. -/
theorem not_exactDuration_manyMinutes :
    parseDuration true manyMinutes = none ∧
      parseDuration false manyMinutes = some (.ok (.fromSecs 44)) ∧
      ¬ ExactDuration true manyMinutes ∧ ¬ ExactDuration false manyMinutes :=
  ⟨parseDuration_tooMany tooManyMinutes_manyMinutes,
    parseDuration_tooMany tooManyMinutes_manyMinutes,
    not_exactDuration tooManyMinutes_manyMinutes, not_exactDuration tooManyMinutes_manyMinutes⟩

end RemoteSmartcard
