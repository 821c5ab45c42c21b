/-
# Interaction programs

A small library for code that talks to its surroundings.  A program is a
finite tree: at each node it performs an operation and continues with whatever
the surroundings answer.  Nothing is said here about which operations there
are; the signature `Op`, `Ret` is a parameter.

Two readings of a program are provided:

* `Follows p tr q` / `Yields p tr a` — the trace semantics: the surroundings
  answer anything, and every finished or unfinished exchange is a trace;
* `exec` — the deterministic semantics against a given handler.

The rules used elsewhere are the `yields_*` / `follows_*` equivalences, the
`Uses` discipline (which operations can occur at all), `Obeys` (which can occur
in which state of a protocol) and `loopExec`, the iteration of a loop body.
-/
import Mathlib.Tactic

/-- A program over the operations `Op`, where `Ret o` is the type of the
answer to `o`. -/
inductive Program (Op : Type) (Ret : Op → Type) (Alpha : Type) : Type
  | pure (a : Alpha)
  | op (o : Op) (k : Ret o → Program Op Ret Alpha)

namespace Program

variable {Op : Type} {Ret : Op → Type} {Alpha Beta Gamma : Type}

/-- Sequential composition. -/
def bind : Program Op Ret Alpha → (Alpha → Program Op Ret Beta) → Program Op Ret Beta
  | pure a, f => f a
  | op o k, f => op o fun r => (k r).bind f

instance : Monad (Program Op Ret) where
  pure := Program.pure
  bind := Program.bind

/-- The program that performs one operation and returns its answer. -/
def perform (o : Op) : Program Op Ret (Ret o) := op o pure

@[simp] theorem monad_pure (a : Alpha) :
    (Pure.pure a : Program Op Ret Alpha) = pure a := rfl

@[simp] theorem monad_bind (p : Program Op Ret Alpha) (f : Alpha → Program Op Ret Beta) :
    p >>= f = p.bind f := rfl

@[simp] theorem pure_bind (a : Alpha) (f : Alpha → Program Op Ret Beta) :
    (pure a : Program Op Ret Alpha).bind f = f a := rfl

@[simp] theorem op_bind (o : Op) (k : Ret o → Program Op Ret Alpha)
    (f : Alpha → Program Op Ret Beta) :
    (op o k).bind f = op o fun r => (k r).bind f := rfl

/-- Sequencing is associative. -/
theorem bind_assoc (p : Program Op Ret Alpha) (f : Alpha → Program Op Ret Beta)
    (g : Beta → Program Op Ret Gamma) : (p.bind f).bind g = p.bind fun a => (f a).bind g := by
  induction p with
  | pure a => rfl
  | op o k ih =>
    rw [op_bind, op_bind, op_bind]
    congr 1
    funext r
    exact ih r

@[simp] theorem perform_bind (o : Op) (f : Ret o → Program Op Ret Beta) :
    (perform o : Program Op Ret (Ret o)).bind f = op o f := rfl

/-! ## Traces -/

/-- One performed operation with the answer it got. -/
structure Event (Op : Type) (Ret : Op → Type) where
  op : Op
  answer : Ret op

/-- `Follows p tr q`: answering the operations of `p` as the trace `tr` says
leaves the program `q`. -/
inductive Follows : Program Op Ret Alpha → List (Event Op Ret) → Program Op Ret Alpha → Prop
  | refl (p : Program Op Ret Alpha) : Follows p [] p
  | head {o : Op} {k : Ret o → Program Op Ret Alpha} {r : Ret o}
      {tr : List (Event Op Ret)} {q : Program Op Ret Alpha} :
      Follows (k r) tr q → Follows (op o k) (⟨o, r⟩ :: tr) q

/-- `Yields p tr a`: along the trace `tr` the program `p` runs to its end and
returns `a`. -/
def Yields (p : Program Op Ret Alpha) (tr : List (Event Op Ret)) (a : Alpha) : Prop :=
  Follows p tr (pure a)

/-- A program that has ended goes no further. -/
theorem follows_pure_iff {a : Alpha} {tr : List (Event Op Ret)} {q : Program Op Ret Alpha} :
    Follows (pure a) tr q ↔ tr = [] ∧ q = pure a := by
  constructor
  · intro h
    cases h
    exact ⟨rfl, rfl⟩
  · rintro ⟨rfl, rfl⟩
    exact .refl _

/-- A program that starts with an operation has not begun, or goes on with what its answer
leaves. -/
theorem follows_op_iff {o : Op} {k : Ret o → Program Op Ret Alpha}
    {tr : List (Event Op Ret)} {q : Program Op Ret Alpha} :
    Follows (op o k) tr q ↔
      (tr = [] ∧ q = op o k) ∨ ∃ r tr', tr = ⟨o, r⟩ :: tr' ∧ Follows (k r) tr' q := by
  constructor
  · intro h
    cases h with
    | refl => exact Or.inl ⟨rfl, rfl⟩
    | head h => exact Or.inr ⟨_, _, rfl, h⟩
  · rintro (⟨rfl, rfl⟩ | ⟨r, tr', rfl, h⟩)
    · exact .refl _
    · exact .head h

/-- Traces compose. -/
theorem Follows.trans {p q r : Program Op Ret Alpha} {t₁ t₂ : List (Event Op Ret)}
    (h₁ : Follows p t₁ q) (h₂ : Follows q t₂ r) : Follows p (t₁ ++ t₂) r := by
  induction h₁ with
  | refl p => exact h₂
  | head _ ih => exact .head (ih h₂)

/-- One more answered operation at the end of a trace. -/
theorem Follows.snoc {p : Program Op Ret Alpha} {o : Op} {k : Ret o → Program Op Ret Alpha}
    {tr : List (Event Op Ret)} (h : Follows p tr (op o k)) (r : Ret o) :
    Follows p (tr ++ [⟨o, r⟩]) (k r) :=
  h.trans (.head (.refl _))

/-- A program that has ended gives its result. -/
@[simp] theorem yields_pure_iff {a b : Alpha} {tr : List (Event Op Ret)} :
    Yields (pure a : Program Op Ret Alpha) tr b ↔ tr = [] ∧ b = a := by
  unfold Yields
  rw [follows_pure_iff]
  simp

/-- An operation is the first event of its program. -/
@[simp] theorem yields_op_iff {o : Op} {k : Ret o → Program Op Ret Alpha}
    {tr : List (Event Op Ret)} {a : Alpha} :
    Yields (op o k) tr a ↔ ∃ r tr', tr = ⟨o, r⟩ :: tr' ∧ Yields (k r) tr' a := by
  unfold Yields
  rw [follows_op_iff]
  simp

/-- **The sequencing rule**, unfinished runs included: a run of `p.bind f` is
either a run of `p` not yet at its end, or a full run of `p` followed by a run
of the continuation. -/
theorem follows_bind_iff {p : Program Op Ret Alpha} {f : Alpha → Program Op Ret Beta}
    {tr : List (Event Op Ret)} {q : Program Op Ret Beta} :
    Follows (p.bind f) tr q ↔
      (∃ p', Follows p tr p' ∧ q = p'.bind f) ∨
      ∃ t₁ t₂ a, tr = t₁ ++ t₂ ∧ Yields p t₁ a ∧ Follows (f a) t₂ q := by
  constructor
  · induction p generalizing tr with
    | pure a =>
      intro h
      exact Or.inr ⟨[], tr, a, rfl, .refl _, h⟩
    | op o k ih =>
      intro h
      rw [op_bind, follows_op_iff] at h
      rcases h with ⟨rfl, rfl⟩ | ⟨r, tr', rfl, h⟩
      · exact Or.inl ⟨op o k, .refl _, rfl⟩
      · rcases ih r h with ⟨p', hp', hq⟩ | ⟨t₁, t₂, a, rfl, hp, hf⟩
        · exact Or.inl ⟨p', .head hp', hq⟩
        · exact Or.inr ⟨⟨o, r⟩ :: t₁, t₂, a, rfl, .head hp, hf⟩
  · rintro (⟨p', hp', rfl⟩ | ⟨t₁, t₂, a, rfl, hp, hf⟩)
    · induction hp' with
      | refl p => exact .refl _
      | head _ ih => exact .head ih
    · induction p generalizing t₁ with
      | pure b =>
        obtain ⟨rfl, rfl⟩ := yields_pure_iff.mp hp
        exact hf
      | op o k ih =>
        obtain ⟨r, tr', rfl, hk⟩ := yields_op_iff.mp hp
        exact .head (ih r tr' hk)

/-- **The sequencing rule** for finished runs. -/
theorem yields_bind_iff {p : Program Op Ret Alpha} {f : Alpha → Program Op Ret Beta}
    {tr : List (Event Op Ret)} {b : Beta} :
    Yields (p.bind f) tr b ↔
      ∃ t₁ t₂ a, tr = t₁ ++ t₂ ∧ Yields p t₁ a ∧ Yields (f a) t₂ b := by
  unfold Yields
  rw [follows_bind_iff]
  constructor
  · rintro (⟨p', hp', hq⟩ | h)
    · cases p' with
      | pure a => exact ⟨tr, [], a, by simp, hp', by rw [hq]; exact .refl _⟩
      | op o k => simp at hq
    · exact h
  · exact Or.inr

/-- How a performed operation goes on. -/
theorem follows_perform_bind_iff {o : Op} {f : Ret o → Program Op Ret Beta}
    {tr : List (Event Op Ret)} {q : Program Op Ret Beta} :
    Follows ((perform o).bind f) tr q ↔
      (tr = [] ∧ q = (perform o).bind f) ∨ ∃ r tr', tr = ⟨o, r⟩ :: tr' ∧ Follows (f r) tr' q :=
  follows_op_iff

/-- What a performed operation and the rest of the program give. -/
theorem yields_perform_bind_iff {o : Op} {f : Ret o → Program Op Ret Beta}
    {tr : List (Event Op Ret)} {b : Beta} :
    Yields ((perform o).bind f) tr b ↔ ∃ r tr', tr = ⟨o, r⟩ :: tr' ∧ Yields (f r) tr' b :=
  yields_op_iff

/-- A finished run of a program is determined by its trace. -/
theorem yields_unique {p : Program Op Ret Alpha} {tr : List (Event Op Ret)} {a b : Alpha}
    (ha : Yields p tr a) (hb : Yields p tr b) : a = b := by
  induction p generalizing tr with
  | pure c =>
    rw [yields_pure_iff] at ha hb
    rw [ha.2, hb.2]
  | op o k ih =>
    obtain ⟨r, tr', rfl, hka⟩ := yields_op_iff.mp ha
    obtain ⟨r', tr'', heq, hkb⟩ := yields_op_iff.mp hb
    simp only [List.cons.injEq, Event.mk.injEq, heq_eq_eq, true_and] at heq
    obtain ⟨rfl, rfl⟩ := heq
    exact ih r hka hkb

/-! ## The operations a program can perform -/

/-- Every operation that `p` can reach satisfies `P`, whatever is answered. -/
def Uses (P : Op → Prop) : Program Op Ret Alpha → Prop
  | pure _ => True
  | op o k => P o ∧ ∀ r, Uses P (k r)

@[simp] theorem uses_pure {P : Op → Prop} (a : Alpha) :
    Uses P (pure a : Program Op Ret Alpha) := trivial

@[simp] theorem uses_op {P : Op → Prop} {o : Op} {k : Ret o → Program Op Ret Alpha} :
    Uses P (op o k) ↔ P o ∧ ∀ r, Uses P (k r) := Iff.rfl

/-- Two programs in sequence use what both use. -/
theorem Uses.bind {P : Op → Prop} {p : Program Op Ret Alpha}
    {f : Alpha → Program Op Ret Beta} (hp : Uses P p) (hf : ∀ a, Uses P (f a)) :
    Uses P (p.bind f) := by
  induction p with
  | pure a => exact hf a
  | op o k ih => exact ⟨hp.1, fun r => ih r (hp.2 r)⟩

/-- A weaker condition on the operations holds too. -/
theorem Uses.mono {P Q : Op → Prop} (hPQ : ∀ o, P o → Q o) {p : Program Op Ret Alpha}
    (hp : Uses P p) : Uses Q p := by
  induction p with
  | pure a => trivial
  | op o k ih => exact ⟨hPQ o hp.1, fun r => ih r (hp.2 r)⟩

/-- An operation and what follows it. -/
theorem Uses.perform_bind {P : Op → Prop} {o : Op} {f : Ret o → Program Op Ret Beta}
    (ho : P o) (hf : ∀ r, Uses P (f r)) : Uses P ((perform o).bind f) :=
  ⟨ho, hf⟩

/-- Along a trace of `p` only operations of `p` occur, and what is left of `p`
still keeps to them. -/
theorem Uses.follows {P : Op → Prop} {p q : Program Op Ret Alpha}
    {tr : List (Event Op Ret)} (hp : Uses P p) (h : Follows p tr q) :
    (∀ e ∈ tr, P e.op) ∧ Uses P q := by
  induction h with
  | refl p => exact ⟨by simp, hp⟩
  | head _ ih =>
    obtain ⟨htr, hq⟩ := ih (hp.2 _)
    refine ⟨?_, hq⟩
    intro e he
    rcases List.mem_cons.mp he with rfl | he
    · exact hp.1
    · exact htr e he

/-! ## Protocols -/

/-- A protocol for the operations: a state, the operations it allows, and the
state after an operation with its answer. -/
structure Protocol (Op : Type) (Ret : Op → Type) (Sigma : Type*) where
  allowed : Sigma → Op → Prop
  next : Sigma → (o : Op) → Ret o → Sigma

section Protocol

variable {Sigma : Type*} {P : Protocol Op Ret Sigma}

/-- `Obeys P Q p s`: whatever is answered, `p` run from the state `s` performs only
operations that the protocol allows at that point, and ends with a result and a
state in `Q`. -/
def Obeys (P : Protocol Op Ret Sigma) (Q : Alpha → Sigma → Prop) :
    Program Op Ret Alpha → Sigma → Prop
  | pure a, s => Q a s
  | op o k, s => P.allowed s o ∧ ∀ r, Obeys P Q (k r) (P.next s o r)

/-- **The rule of sequencing**: the rest of the program obeys the protocol where the first
part leaves it. -/
theorem Obeys.bind {Q : Alpha → Sigma → Prop} {R : Beta → Sigma → Prop}
    {p : Program Op Ret Alpha} {f : Alpha → Program Op Ret Beta} {s : Sigma}
    (hp : Obeys P Q p s) (hf : ∀ a t, Q a t → Obeys P R (f a) t) : Obeys P R (p.bind f) s := by
  induction p generalizing s with
  | pure a => exact hf a s hp
  | op o k ih => exact ⟨hp.1, fun r => ih r (hp.2 r)⟩

/-- The rule for one operation and what follows it. -/
theorem Obeys.perform_bind {R : Beta → Sigma → Prop} {o : Op}
    {f : Ret o → Program Op Ret Beta} {s : Sigma} (ho : P.allowed s o)
    (hf : ∀ r, Obeys P R (f r) (P.next s o r)) : Obeys P R ((perform o).bind f) s :=
  ⟨ho, hf⟩

/-- A program whose operations are allowed in the state `s` and leave it obeys the
protocol, and ends in `s`. -/
theorem Uses.obeys_fixed {A : Op → Prop} {s : Sigma}
    (hA : ∀ o, A o → P.allowed s o ∧ ∀ r, P.next s o r = s) {p : Program Op Ret Alpha}
    (hp : Uses A p) : Obeys P (fun _ t => t = s) p s := by
  induction p with
  | pure a => rfl
  | op o k ih =>
    obtain ⟨hallowed, hnext⟩ := hA o hp.1
    refine ⟨hallowed, fun r => ?_⟩
    rw [hnext r]
    exact ih r (hp.2 r)

/-- A program whose operations are always allowed obeys the protocol. -/
theorem Uses.obeys {A : Op → Prop} (hA : ∀ s o, A o → P.allowed s o)
    {p : Program Op Ret Alpha} (hp : Uses A p) (s : Sigma) : Obeys P (fun _ _ => True) p s := by
  induction p generalizing s with
  | pure a => trivial
  | op o k ih => exact ⟨hA s o hp.1, fun r => ih r (hp.2 r) (P.next s o r)⟩

end Protocol

/-! ## Running against a handler -/

section Exec

variable {Sigma : Type} (h : (o : Op) → Sigma → Ret o × Sigma)

/-- Run a program against a handler: the answer, the trace and the final state
of the surroundings. -/
def exec : Program Op Ret Alpha → Sigma → Alpha × List (Event Op Ret) × Sigma
  | pure a, s => (a, [], s)
  | op o k, s =>
    let answer := h o s
    let rest := exec (k answer.1) answer.2
    (rest.1, ⟨o, answer.1⟩ :: rest.2.1, rest.2.2)

@[simp] theorem exec_pure (a : Alpha) (s : Sigma) :
    exec h (pure a : Program Op Ret Alpha) s = (a, [], s) := rfl

/-- An operation is answered by the surroundings, and the rest runs in what they have
become. -/
theorem exec_op (o : Op) (k : Ret o → Program Op Ret Alpha) (s : Sigma) :
    exec h (op o k) s =
      ((exec h (k (h o s).1) (h o s).2).1,
        ⟨o, (h o s).1⟩ :: (exec h (k (h o s).1) (h o s).2).2.1,
        (exec h (k (h o s).1) (h o s).2).2.2) := rfl

theorem exec_perform (o : Op) (s : Sigma) :
    exec h (perform o : Program Op Ret (Ret o)) s = ((h o s).1, [⟨o, (h o s).1⟩], (h o s).2) := rfl

/-- A performed operation runs the rest on its answer. -/
theorem exec_perform_bind (o : Op) (f : Ret o → Program Op Ret Beta) (s : Sigma) :
    exec h ((perform o).bind f) s =
      ((exec h (f (h o s).1) (h o s).2).1,
        ⟨o, (h o s).1⟩ :: (exec h (f (h o s).1) (h o s).2).2.1,
        (exec h (f (h o s).1) (h o s).2).2.2) := rfl

/-- Two programs in sequence run one after the other. -/
theorem exec_bind (p : Program Op Ret Alpha) (f : Alpha → Program Op Ret Beta) (s : Sigma) :
    exec h (p.bind f) s =
      let first := exec h p s
      let rest := exec h (f first.1) first.2.2
      (rest.1, first.2.1 ++ rest.2.1, rest.2.2) := by
  induction p generalizing s with
  | pure a => rfl
  | op o k ih =>
    rw [op_bind, exec_op, ih, exec_op]
    rfl

/-- A run against a handler is one of the runs of the trace semantics. -/
theorem yields_exec (p : Program Op Ret Alpha) (s : Sigma) :
    Yields p (exec h p s).2.1 (exec h p s).1 := by
  induction p generalizing s with
  | pure a => exact .refl _
  | op o k ih => exact .head (ih (h o s).1 (h o s).2)

/-- What the operations of a program leave alone, its run leaves alone. -/
theorem exec_frame {X : Type*} {P : Op → Prop} {f : Sigma → X}
    (hf : ∀ o s, P o → f (h o s).2 = f s) {p : Program Op Ret Alpha} (hp : Uses P p)
    (s : Sigma) : f (exec h p s).2.2 = f s := by
  induction p generalizing s with
  | pure a => rfl
  | op o k ih =>
    rw [exec_op]
    exact (ih _ (hp.2 _) _).trans (hf o s hp.1)

/-- What the handler answers is what the trace shows. -/
theorem exec_answers {P : Event Op Ret → Prop} (hP : ∀ o s, P ⟨o, (h o s).1⟩)
    (p : Program Op Ret Alpha) (s : Sigma) : ∀ e ∈ (exec h p s).2.1, P e := by
  induction p generalizing s with
  | pure a => simp
  | op o k ih =>
    rw [exec_op]
    intro e he
    rcases List.mem_cons.mp he with rfl | he
    · exact hP o s
    · exact ih _ _ e he

/-- Run a loop body until it answers `false`, for at most `fuel` rounds;
`none` when the fuel runs out first. -/
def loopExec (body : Gamma → Program Op Ret (Bool × Gamma)) :
    ℕ → Gamma → Sigma → Option (Gamma × List (Event Op Ret) × Sigma)
  | 0, _, _ => none
  | fuel + 1, g, s =>
    let round := exec h (body g) s
    if round.1.1 then
      (loopExec body fuel round.1.2 round.2.2).map fun rest =>
        (rest.1, round.2.1 ++ rest.2.1, rest.2.2)
    else some (round.1.2, round.2.1, round.2.2)

/-- What holds of every answer of the surroundings holds along a loop. -/
theorem loopExec_answers {P : Event Op Ret → Prop} (hP : ∀ o s, P ⟨o, (h o s).1⟩)
    {body : Gamma → Program Op Ret (Bool × Gamma)} {fuel : ℕ} {g g' : Gamma} {s s' : Sigma}
    {tr : List (Event Op Ret)} (hloop : loopExec h body fuel g s = some (g', tr, s')) :
    ∀ e ∈ tr, P e := by
  induction fuel generalizing g s tr with
  | zero => cases hloop
  | succ fuel ih =>
    have hround := exec_answers h hP (body g) s
    rw [loopExec] at hloop
    split_ifs at hloop
    · obtain ⟨⟨g₁, tr₁, s₁⟩, hrest, heq⟩ := Option.map_eq_some_iff.mp hloop
      cases heq
      intro e he
      exact (List.mem_append.mp he).elim (hround e) (ih hrest e)
    · cases hloop
      exact hround

end Exec

/-! ## Loops -/

/-- `Iterates body g tr g'`: along `tr` the loop body is run to its end again
and again, each time asking for another round, and carries `g` to `g'`. -/
inductive Iterates (body : Gamma → Program Op Ret (Bool × Gamma)) (g : Gamma) :
    List (Event Op Ret) → Gamma → Prop
  | nil : Iterates body g [] g
  | snoc {tr tr' : List (Event Op Ret)} {g' g'' : Gamma} :
      Iterates body g tr g' → Yields (body g') tr' (true, g'') → Iterates body g (tr ++ tr') g''

/-- A run of a loop: some finished rounds and a round that has got as far as
`p`. -/
def Serves (body : Gamma → Program Op Ret (Bool × Gamma)) (g : Gamma)
    (tr : List (Event Op Ret)) (g' : Gamma) (p : Program Op Ret (Bool × Gamma)) : Prop :=
  ∃ t₁ t₂, tr = t₁ ++ t₂ ∧ Iterates body g t₁ g' ∧ Follows (body g') t₂ p

/-- Before its first turn a loop has done nothing. -/
theorem Serves.start (body : Gamma → Program Op Ret (Bool × Gamma)) (g : Gamma) :
    Serves body g [] g (body g) :=
  ⟨[], [], rfl, .nil, .refl _⟩

/-- The current round performs an operation. -/
theorem Serves.answer {body : Gamma → Program Op Ret (Bool × Gamma)} {g g' : Gamma}
    {tr : List (Event Op Ret)} {o : Op} {k : Ret o → Program Op Ret (Bool × Gamma)}
    (h : Serves body g tr g' (op o k)) (r : Ret o) :
    Serves body g (tr ++ [⟨o, r⟩]) g' (k r) := by
  obtain ⟨t₁, t₂, rfl, hit, hf⟩ := h
  exact ⟨t₁, t₂ ++ [⟨o, r⟩], List.append_assoc .., hit, hf.snoc r⟩

/-- The current round ends, and the next begins. -/
theorem Serves.turn {body : Gamma → Program Op Ret (Bool × Gamma)} {g g' g'' : Gamma}
    {tr : List (Event Op Ret)} (h : Serves body g tr g' (pure (true, g''))) :
    Serves body g tr g'' (body g'') := by
  obtain ⟨t₁, t₂, rfl, hit, hf⟩ := h
  exact ⟨t₁ ++ t₂, [], (List.append_nil _).symm, .snoc hit hf, .refl _⟩

end Program
