/-
# Runs of a step function

A system is given by a partial step function `step : Sigma → Act → Option
Sigma`; `none` means that the action is not enabled.  A run is a list of
actions.  The rules below package the inductions over runs once:

* `invariant_run` — a predicate kept by every step holds along every run;
* `invariant_run_of_guard` — the same when the steps of the run meet a guard;
* `StepsMeet` — every step of the run meets the guard in the state it is taken;
* `record` — a value that every step updates, along a run, and its rule
  `invariant_record`;
* `invariant_history` — a predicate of the state and the actions so far;
* `exists_split_of_prefix` — a list that grows entry by entry had every prefix at some point;
* `exists_step_of_prefix` — and every entry of it was added by a step;
* `exists_run_of_measure` — where some step always brings a measure down, some run brings
  it to zero;
* `map_getElem?_set`, `getElem?_concat` — the parties of a state that lists them,
  when one of them has taken a step and when a new one has come.
-/
import Mathlib.Tactic

namespace StepRun

variable {Sigma Act : Type*} (step : Sigma → Act → Option Sigma)

/-- Take the actions of a list one after the other. -/
def run : Sigma → List Act → Option Sigma
  | s, [] => some s
  | s, a :: as => (step s a).bind fun s' => run s' as

@[simp] theorem run_nil (s : Sigma) : run step s [] = some s := rfl

theorem run_cons (s : Sigma) (a : Act) (as : List Act) :
    run step s (a :: as) = (step s a).bind fun s' => run step s' as := rfl

/-- A run in two parts goes on from where the first part leads. -/
theorem run_append (s : Sigma) (as bs : List Act) :
    run step s (as ++ bs) = (run step s as).bind fun s' => run step s' bs := by
  induction as generalizing s with
  | nil => rfl
  | cons a as ih =>
    rw [List.cons_append, run_cons, run_cons]
    cases step s a with
    | none => rfl
    | some s' => exact ih s'

/-- `Reaches step s s'`: some run leads from `s` to `s'`. -/
def Reaches (s s' : Sigma) : Prop := ∃ as, run step s as = some s'

variable {step}

theorem Reaches.refl (s : Sigma) : Reaches step s s := ⟨[], rfl⟩

/-- One more step. -/
theorem Reaches.snoc {s s' s'' : Sigma} {a : Act} (h : Reaches step s s')
    (hs : step s' a = some s'') : Reaches step s s'' := by
  obtain ⟨as, has⟩ := h
  exact ⟨as ++ [a], by rw [run_append, has]; simp [run_cons, hs]⟩

/-- **The run rule.**  What every step keeps, every run keeps. -/
theorem invariant_run {P : Sigma → Prop}
    (hstep : ∀ s a s', P s → step s a = some s' → P s') {s s' : Sigma} {as : List Act}
    (h0 : P s) (hrun : run step s as = some s') : P s' := by
  induction as generalizing s with
  | nil =>
    rw [run_nil] at hrun
    exact Option.some.inj hrun ▸ h0
  | cons a as ih =>
    rw [run_cons, Option.bind_eq_some_iff] at hrun
    obtain ⟨t, ht, hrun⟩ := hrun
    exact ih (hstep s a t h0 ht) hrun

/-- **The rule of invariants**: what holds at the start and is kept by each step holds of
all that is reached. -/
theorem invariant_reaches {P : Sigma → Prop}
    (hstep : ∀ s a s', P s → step s a = some s' → P s') {s s' : Sigma}
    (h0 : P s) (h : Reaches step s s') : P s' := by
  obtain ⟨as, has⟩ := h
  exact invariant_run hstep h0 has

/-- What is reached from a state that is reached is reached. -/
theorem Reaches.trans {s s' s'' : Sigma} (h : Reaches step s s') (h' : Reaches step s' s'') :
    Reaches step s s'' :=
  invariant_reaches (fun _ _ _ hs hstep => hs.snoc hstep) h h'

/-- Every step of the run of `as` from `s` meets the guard `G` in the state in
which it is taken. -/
def StepsMeet (step : Sigma → Act → Option Sigma) (G : Sigma → Act → Prop) :
    Sigma → List Act → Prop
  | _, [] => True
  | s, a :: as => G s a ∧ ∀ s', step s a = some s' → StepsMeet step G s' as

/-- **The guarded run rule.**  What every step meeting the guard keeps, every
run all of whose steps meet the guard keeps. -/
theorem invariant_run_of_guard {P : Sigma → Prop} {G : Sigma → Act → Prop}
    (hstep : ∀ s a s', P s → G s a → step s a = some s' → P s') {s s' : Sigma}
    {as : List Act} (h0 : P s) (hG : StepsMeet step G s as)
    (hrun : run step s as = some s') : P s' := by
  induction as generalizing s with
  | nil =>
    rw [run_nil] at hrun
    exact Option.some.inj hrun ▸ h0
  | cons a as ih =>
    rw [run_cons, Option.bind_eq_some_iff] at hrun
    obtain ⟨t, ht, hrun⟩ := hrun
    exact ih (hstep s a t h0 hG.1 ht) (hG.2 t ht) hrun

instance instDecidableStepsMeet {G : Sigma → Act → Prop} [∀ s a, Decidable (G s a)] :
    ∀ (s : Sigma) (as : List Act), Decidable (StepsMeet step G s as)
  | _, [] => isTrue trivial
  | s, a :: as =>
    match h : step s a with
    | none => decidable_of_iff (G s a) (by simp [StepsMeet, h])
    | some t =>
      have : Decidable (StepsMeet step G t as) := instDecidableStepsMeet t as
      decidable_of_iff (G s a ∧ StepsMeet step G t as) (by simp [StepsMeet, h])

/-- The last step of a run whose steps all meet `G` meets it. -/
theorem StepsMeet.last {G : Sigma → Act → Prop} {s s' : Sigma} {as : List Act} {a : Act}
    (h : StepsMeet step G s (as ++ [a])) (hrun : run step s as = some s') : G s' a := by
  induction as generalizing s with
  | nil =>
    rw [run_nil] at hrun
    exact Option.some.inj hrun ▸ h.1
  | cons b as ih =>
    rw [run_cons, Option.bind_eq_some_iff] at hrun
    obtain ⟨t, ht, hrun⟩ := hrun
    exact ih (h.2 t ht) hrun

/-- **The exchange of guards.**  Where an invariant kept by the steps that meet
`G` makes `G` and `H` equivalent, the same runs meet `G` and `H`. -/
theorem stepsMeet_congr {P : Sigma → Prop} {G H : Sigma → Act → Prop}
    (hstep : ∀ s a s', P s → G s a → step s a = some s' → P s')
    (hGH : ∀ s a, P s → (G s a ↔ H s a)) {s : Sigma} (h0 : P s) (as : List Act) :
    StepsMeet step G s as ↔ StepsMeet step H s as := by
  induction as generalizing s with
  | nil => exact Iff.rfl
  | cons a as ih =>
    refine and_congr_right_iff.mpr (fun hG => ?_) |>.trans (and_congr_left' (hGH s a h0))
    exact forall_congr' fun t => imp_congr_right fun ht => ih (hstep s a t h0 hG ht)

/-- The value `x`, which every step updates, after the run of `as` from `s`. -/
def record {X : Type*} (step : Sigma → Act → Option Sigma) (f : Sigma → Act → X → X) :
    Sigma → List Act → X → X
  | _, [], x => x
  | s, a :: as, x =>
    match step s a with
    | some s' => record step f s' as (f s a x)
    | none => x

/-- **The rule of recorded runs.**  What every step keeps between the state and the
value, every run keeps. -/
theorem invariant_record {X : Type*} {f : Sigma → Act → X → X} {P : Sigma → X → Prop}
    (hstep : ∀ s a s' x, P s x → step s a = some s' → P s' (f s a x)) {s s' : Sigma}
    {as : List Act} {x : X} (h0 : P s x) (hrun : run step s as = some s') :
    P s' (record step f s as x) := by
  induction as generalizing s x with
  | nil =>
    rw [run_nil] at hrun
    exact Option.some.inj hrun ▸ h0
  | cons a as ih =>
    rw [run_cons, Option.bind_eq_some_iff] at hrun
    obtain ⟨t, ht, hrun⟩ := hrun
    rw [record, ht]
    exact ih (hstep s a t x h0 ht) hrun

/-- **The rule of histories.**  What every step keeps between the state and the actions so
far, every run keeps. -/
theorem invariant_history {P : Sigma → List Act → Prop}
    (hstep : ∀ s as a s', P s as → step s a = some s' → P s' (as ++ [a])) {s s' : Sigma}
    {as : List Act} (h0 : P s []) (hrun : run step s as = some s') : P s' as := by
  induction as using List.reverseRecOn generalizing s' with
  | nil =>
    rw [run_nil] at hrun
    exact Option.some.inj hrun ▸ h0
  | append_singleton as a ih =>
    rw [run_append, Option.bind_eq_some_iff] at hrun
    obtain ⟨t, ht, hrun⟩ := hrun
    rw [run_cons, Option.bind_eq_some_iff] at hrun
    obtain ⟨t', hlast, hend⟩ := hrun
    rw [run_nil] at hend
    exact Option.some.inj hend ▸ hstep t as a t' (ih ht) hlast

/-- The value after a run of two parts. -/
theorem record_append {X : Type*} {f : Sigma → Act → X → X} {s s' : Sigma} {as : List Act}
    (hrun : run step s as = some s') (bs : List Act) (x : X) :
    record step f s (as ++ bs) x = record step f s' bs (record step f s as x) := by
  induction as generalizing s x with
  | nil =>
    rw [run_nil] at hrun
    rw [← Option.some.inj hrun]
    rfl
  | cons a as ih =>
    rw [run_cons, Option.bind_eq_some_iff] at hrun
    obtain ⟨t, ht, hrun⟩ := hrun
    rw [List.cons_append, record, record, ht]
    exact ih hrun _

/-- Where every step adds to a list, what is added does not depend on the list before. -/
theorem record_list {X : Type*} {g : Sigma → Act → List X} (s : Sigma) (as : List Act)
    (xs : List X) :
    record step (fun s a xs => xs ++ g s a) s as xs =
      xs ++ record step (fun s a xs => xs ++ g s a) s as [] := by
  induction as generalizing s xs with
  | nil => exact (List.append_nil xs).symm
  | cons a as ih =>
    rw [record, record]
    cases step s a with
    | none => exact (List.append_nil xs).symm
    | some t =>
      dsimp only
      rw [ih t (xs ++ g s a), ih t ([] ++ g s a), List.nil_append, List.append_assoc]

/-- A condition on the steps of a run is one on those of its first part. -/
theorem StepsMeet.of_append {G : Sigma → Act → Prop} {s : Sigma} {as bs : List Act}
    (h : StepsMeet step G s (as ++ bs)) : StepsMeet step G s as := by
  induction as generalizing s with
  | nil => trivial
  | cons a as ih => exact ⟨h.1, fun t ht => ih (h.2 t ht)⟩

/-- A list to which a step adds one entry at most grows along a run. -/
theorem prefix_of_run {X : Type*} {f : Sigma → List X}
    (hstep : ∀ s a s', step s a = some s' → f s' = f s ∨ ∃ x, f s' = f s ++ [x]) {s s' : Sigma}
    {as : List Act} (hrun : run step s as = some s') : f s <+: f s' :=
  invariant_run (P := fun t => f s <+: f t) (fun t a t' hpre ht => by
    rcases hstep t a t' ht with hsame | ⟨x, hx⟩
    · rwa [hsame]
    · exact hpre.trans (hx ▸ List.prefix_append _ _)) (List.prefix_refl _) hrun

/-- **The prefix rule.**  Where a step adds one entry at most to a list, every prefix of the
list is the list at some point of the run. -/
theorem exists_split_of_prefix {X : Type*} {f : Sigma → List X}
    (hstep : ∀ s a s', step s a = some s' → f s' = f s ∨ ∃ x, f s' = f s ++ [x]) {s s' : Sigma}
    {as : List Act} (hrun : run step s as = some s') {p : List X} (hfirst : f s <+: p)
    (hp : p <+: f s') :
    ∃ as₁ as₂ s₁, as = as₁ ++ as₂ ∧ run step s as₁ = some s₁ ∧ run step s₁ as₂ = some s' ∧
      f s₁ = p := by
  induction as generalizing s with
  | nil =>
    rw [run_nil] at hrun
    obtain rfl := Option.some.inj hrun
    exact ⟨[], [], s, rfl, rfl, rfl, hfirst.eq_of_length_le hp.length_le⟩
  | cons a as ih =>
    have hwhole := hrun
    rw [run_cons, Option.bind_eq_some_iff] at hrun
    obtain ⟨t, ht, hrun⟩ := hrun
    by_cases heq : f s = p
    · exact ⟨[], a :: as, s, rfl, rfl, hwhole, heq⟩
    · have hlength : (f t).length ≤ p.length := by
        have hlt : (f s).length < p.length := by
          by_contra hge
          exact heq (hfirst.eq_of_length_le (Nat.not_lt.mp hge))
        rcases hstep s a t ht with hsame | ⟨x, hx⟩
        · rw [hsame]
          exact hlt.le
        · rw [hx, List.length_append]
          exact hlt
      obtain ⟨as₁, as₂, s₁, rfl, h₁, h₂, hs₁⟩ :=
        ih hrun (List.prefix_of_prefix_length_le (prefix_of_run hstep hrun) hp hlength)
      exact ⟨a :: as₁, as₂, s₁, rfl, by rw [run_cons, ht]; exact h₁, h₂, hs₁⟩

/-- **The step that added an entry.** -/
theorem exists_step_of_prefix {X : Type*} {f : Sigma → List X}
    (hstep : ∀ s a s', step s a = some s' → f s' = f s ∨ ∃ x, f s' = f s ++ [x]) {s s' : Sigma}
    {as : List Act} (hrun : run step s as = some s') {p : List X} {x : X} (hfirst : f s <+: p)
    (hp : p ++ [x] <+: f s') :
    ∃ as₁ a as₂ s₁ s₂, as = as₁ ++ a :: as₂ ∧ run step s as₁ = some s₁ ∧
      step s₁ a = some s₂ ∧ run step s₂ as₂ = some s' ∧ f s₁ = p ∧ f s₂ = p ++ [x] := by
  obtain ⟨as₁, as₂, s₁, rfl, hrun₁, hrun₂, hs₁⟩ :=
    exists_split_of_prefix hstep hrun hfirst ((List.prefix_append p [x]).trans hp)
  -- from there on, the first step that changes the list adds the entry
  induction as₂ generalizing as₁ s₁ with
  | nil =>
    rw [run_nil] at hrun₂
    obtain rfl := Option.some.inj hrun₂
    rw [hs₁] at hp
    exact absurd hp.length_le (by simp)
  | cons a as₂ ih =>
    have hrest := hrun₂
    rw [run_cons, Option.bind_eq_some_iff] at hrest
    obtain ⟨s₂, hs₂, hrest⟩ := hrest
    rcases hstep s₁ a s₂ hs₂ with hsame | ⟨y, hy⟩
    · have hsplit : as₁ ++ a :: as₂ = (as₁ ++ [a]) ++ as₂ := by
        rw [List.append_assoc, List.singleton_append]
      have hrun' : run step s (as₁ ++ [a]) = some s₂ := by
        rw [run_append, hrun₁, Option.bind_some, run_cons, hs₂]
        rfl
      rw [hsplit] at hrun ⊢
      exact ih (as₁ ++ [a]) s₂ hrun hrun' hrest (hsame.trans hs₁)
    · have hgrows : f s₂ <+: f s' := prefix_of_run hstep hrest
      have hs₂p : f s₂ = p ++ [x] := by
        have hlength : (f s₂).length = (p ++ [x]).length := by
          rw [hy, hs₁, List.length_append, List.length_append]
          rfl
        exact (List.prefix_of_prefix_length_le hgrows hp hlength.le).eq_of_length hlength
      exact ⟨as₁, a, as₂, s₁, s₂, rfl, hrun₁, hs₂, hrest, hs₁, hs₂p⟩

/-- **The progress rule.**  Where, as long as a measure is not zero, some action of the
kind `G` brings it down and keeps `P`, a run of such actions brings it to zero. -/
theorem exists_run_of_measure {P : Sigma → Prop} {G : Act → Prop} {mu : Sigma → ℕ}
    (hstep : ∀ s, P s → mu s ≠ 0 → ∃ a s', G a ∧ step s a = some s' ∧ P s' ∧ mu s' < mu s)
    {s : Sigma} (hs : P s) :
    ∃ as s', run step s as = some s' ∧ (∀ a ∈ as, G a) ∧ P s' ∧ mu s' = 0 ∧
      as.length ≤ mu s := by
  induction hn : mu s using Nat.strong_induction_on generalizing s with
  | _ n ih =>
    by_cases hzero : mu s = 0
    · exact ⟨[], s, rfl, by simp, hs, hzero, Nat.zero_le _⟩
    · obtain ⟨a, s₁, ha, hs₁, hP, hlt⟩ := hstep s hs hzero
      obtain ⟨as, s', hrun, hG, hP', hend, hlength⟩ := ih (mu s₁) (hn ▸ hlt) hP rfl
      refine ⟨a :: as, s', ?_, ?_, hP', hend, ?_⟩
      · rw [run_cons, hs₁]
        exact hrun
      · intro b hb
        rcases List.mem_cons.mp hb with rfl | hb
        · exact ha
        · exact hG b hb
      · rw [List.length_cons]
        omega

/-! ## Parties of a state

A state that lists its parties: one of them takes a step, or a new one comes. -/

/-- One entry of a list is replaced, seen through `f`. -/
theorem map_getElem?_set {Alpha Beta : Type*} (f : Alpha → Beta) {l : List Alpha} {i : ℕ}
    {x : Alpha} (hi : l[i]? = some x) (y : Alpha) (j : ℕ) :
    (l.set i y)[j]?.map f = if i = j then some (f y) else l[j]?.map f := by
  rw [List.getElem?_set]
  split_ifs with hij hlt
  · rfl
  · subst hij
    exact absurd (List.getElem?_eq_some_iff.mp hi).1 hlt
  · rfl

/-- Through `f` nothing is seen of a change that `f` does not see. -/
theorem map_getElem?_set_same {Alpha Beta : Type*} (f : Alpha → Beta) {l : List Alpha} {i : ℕ}
    {x y : Alpha} (hi : l[i]? = some x) (hy : f y = f x) (j : ℕ) :
    (l.set i y)[j]?.map f = l[j]?.map f := by
  rw [map_getElem?_set f hi]
  split_ifs with hij
  · subst hij
    rw [hi, hy]
    rfl
  · rfl

/-- A new entry comes at the end. -/
theorem getElem?_concat {Alpha : Type*} (l : List Alpha) (x : Alpha) (j : ℕ) :
    (l ++ [x])[j]? = if j = l.length then some x else l[j]? := by
  rw [List.getElem?_append, List.getElem?_singleton]
  split_ifs with hlt hj hj
  · omega
  · rfl
  · rfl
  · omega
  · omega
  · exact (List.getElem?_eq_none (Nat.not_lt.mp hlt)).symm

end StepRun
