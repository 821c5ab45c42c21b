/-
# Protocols along traces

`Obeys` says of a program, before it runs, that it keeps to a protocol.  Here it is read
off its traces: `Permits` says that each operation of a trace was allowed in the state of
the protocol at that point, and `after` is the state at the end.

* `Obeys.follows`, `Obeys.yields` — a program that keeps to a protocol has permitted traces;
* `Obeys.serves` — so has a loop whose body keeps to it and comes back to an invariant;
* `restrict` — a protocol that allows less, and what carries over from it;
* `Spends` — the worst case of a cost, over all answers, with its rules; `Spends.cost_le`
  bounds the cost of every trace.
-/
import RemoteSmartcard.InteractionProgram

namespace Program

variable {Op : Type} {Ret : Op → Type} {Alpha Beta Gamma : Type}

/-! ## Permitted traces -/

section Traces

variable {Sigma : Type*} (P : Protocol Op Ret Sigma)

/-- The state of the protocol after one operation with its answer. -/
def Protocol.see (s : Sigma) (e : Event Op Ret) : Sigma := P.next s e.op e.answer

/-- The state of the protocol after a trace. -/
def Protocol.after (s : Sigma) (tr : List (Event Op Ret)) : Sigma := tr.foldl P.see s

/-- Every operation of the trace is allowed where it occurs. -/
def Protocol.Permits : Sigma → List (Event Op Ret) → Prop
  | _, [] => True
  | s, e :: tr => P.allowed s e.op ∧ Permits (P.see s e) tr

variable {P}

@[simp] theorem after_nil (s : Sigma) : P.after s [] = s := rfl

@[simp] theorem after_cons (s : Sigma) (e : Event Op Ret) (tr : List (Event Op Ret)) :
    P.after s (e :: tr) = P.after (P.see s e) tr := rfl

/-- A trace in two parts leads to where the second part leads after the first. -/
theorem after_append (s : Sigma) (t₁ t₂ : List (Event Op Ret)) :
    P.after s (t₁ ++ t₂) = P.after (P.after s t₁) t₂ := List.foldl_append

/-- It is permitted if both parts are. -/
theorem permits_append {s : Sigma} {t₁ t₂ : List (Event Op Ret)} :
    P.Permits s (t₁ ++ t₂) ↔ P.Permits s t₁ ∧ P.Permits (P.after s t₁) t₂ := by
  induction t₁ generalizing s with
  | nil => exact ⟨fun h => ⟨trivial, h⟩, fun h => h.2⟩
  | cons e t₁ ih =>
    rw [List.cons_append, Protocol.Permits, ih, Protocol.Permits, and_assoc, after_cons]

/-- An operation of a permitted trace was allowed after what came before it. -/
theorem Protocol.Permits.allowed {s : Sigma} {t₁ t₂ : List (Event Op Ret)} {e : Event Op Ret}
    (h : P.Permits s (t₁ ++ e :: t₂)) : P.allowed (P.after s t₁) e.op :=
  (permits_append.mp h).2.1

/-- **The traces of a program that keeps to a protocol.** -/
theorem Obeys.follows {Q : Alpha → Sigma → Prop} {p q : Program Op Ret Alpha} {s : Sigma}
    {tr : List (Event Op Ret)} (hp : Obeys P Q p s) (h : Follows p tr q) :
    P.Permits s tr ∧ Obeys P Q q (P.after s tr) := by
  induction h generalizing s with
  | refl p => exact ⟨trivial, hp⟩
  | head _ ih =>
    obtain ⟨htr, hq⟩ := ih (hp.2 _)
    exact ⟨⟨hp.1, htr⟩, hq⟩

/-- A program that obeys a protocol gives traces that it permits. -/
theorem Obeys.yields {Q : Alpha → Sigma → Prop} {p : Program Op Ret Alpha} {s : Sigma}
    {tr : List (Event Op Ret)} {a : Alpha} (hp : Obeys P Q p s) (h : Yields p tr a) :
    P.Permits s tr ∧ Q a (P.after s tr) :=
  hp.follows h

/-- A weaker condition at the end. -/
theorem Obeys.weaken {Q R : Alpha → Sigma → Prop} (hQR : ∀ a s, Q a s → R a s)
    {p : Program Op Ret Alpha} {s : Sigma} (hp : Obeys P Q p s) : Obeys P R p s := by
  induction p generalizing s with
  | pure a => exact hQR a s hp
  | op o k ih => exact ⟨hp.1, fun r => ih r (hp.2 r)⟩

/-- The finished rounds of a loop. -/
theorem permits_iterates {I : Gamma → Sigma → Prop}
    {body : Gamma → Program Op Ret (Bool × Gamma)}
    (hbody : ∀ g s, I g s → Obeys P (fun r s' => r.1 = true → I r.2 s') (body g) s)
    {g g' : Gamma} {s : Sigma} {tr : List (Event Op Ret)} (hg : I g s)
    (h : Iterates body g tr g') : P.Permits s tr ∧ I g' (P.after s tr) := by
  induction h with
  | nil => exact ⟨trivial, hg⟩
  | snoc _ hround ih =>
    obtain ⟨htr, hI⟩ := ih
    obtain ⟨hround, hend⟩ := (hbody _ _ hI).yields hround
    exact ⟨permits_append.mpr ⟨htr, hround⟩, by rw [after_append]; exact hend rfl⟩

/-- **The loop rule.**  A loop whose body keeps to the protocol, and comes back to the
invariant when it goes on, has permitted traces. -/
theorem Obeys.serves {I : Gamma → Sigma → Prop} {body : Gamma → Program Op Ret (Bool × Gamma)}
    (hbody : ∀ g s, I g s → Obeys P (fun r s' => r.1 = true → I r.2 s') (body g) s)
    {g g' : Gamma} {s : Sigma} {tr : List (Event Op Ret)} {p : Program Op Ret (Bool × Gamma)}
    (hg : I g s) (h : Serves body g tr g' p) : P.Permits s tr := by
  obtain ⟨t₁, t₂, rfl, hit, hf⟩ := h
  obtain ⟨hpast, hI⟩ := permits_iterates hbody hg hit
  exact permits_append.mpr ⟨hpast, ((hbody _ _ hI).follows hf).1⟩

/-! ## Stricter protocols -/

variable (P) in
/-- The protocol with a further condition on the operations. -/
def Protocol.restrict (C : Sigma → Op → Prop) : Protocol Op Ret Sigma where
  allowed s o := P.allowed s o ∧ C s o
  next := P.next

@[simp] theorem after_restrict (C : Sigma → Op → Prop) (s : Sigma) (tr : List (Event Op Ret)) :
    (P.restrict C).after s tr = P.after s tr := rfl

/-- What a stricter protocol permits is permitted. -/
theorem Protocol.Permits.of_restrict {C : Sigma → Op → Prop} {s : Sigma}
    {tr : List (Event Op Ret)} (h : (P.restrict C).Permits s tr) : P.Permits s tr := by
  induction tr generalizing s with
  | nil => trivial
  | cons e tr ih => exact ⟨h.1.1, ih h.2⟩

end Traces

/-! ## The worst case of a cost -/

section Cost

variable (w : Op → ℕ)

/-- The cost of a trace. -/
def cost (tr : List (Event Op Ret)) : ℕ := (tr.map fun e => w e.op).sum

/-- The cost of two parts is the sum of theirs. -/
theorem cost_append (t₁ t₂ : List (Event Op Ret)) : cost w (t₁ ++ t₂) = cost w t₁ + cost w t₂ := by
  rw [cost, List.map_append, List.sum_append]
  rfl

/-- Whatever is answered, the operations of the program cost no more than `n`. -/
def Spends : Program Op Ret Alpha → ℕ → Prop
  | pure _, _ => True
  | op o k, n => w o ≤ n ∧ ∀ r, Spends (k r) (n - w o)

variable {w}

@[simp] theorem spends_pure (a : Alpha) (n : ℕ) :
    Spends w (pure a : Program Op Ret Alpha) n := trivial

/-- A higher bound holds too. -/
theorem Spends.mono {p : Program Op Ret Alpha} {n m : ℕ} (hp : Spends w p n) (hnm : n ≤ m) :
    Spends w p m := by
  induction p generalizing n m with
  | pure a => trivial
  | op o k ih =>
    exact ⟨hp.1.trans hnm, fun r => ih r (hp.2 r) (Nat.sub_le_sub_right hnm _)⟩

/-- Two programs in sequence spend what both spend. -/
theorem Spends.bind {p : Program Op Ret Alpha} {f : Alpha → Program Op Ret Beta} {n m : ℕ}
    (hp : Spends w p n) (hf : ∀ a, Spends w (f a) m) : Spends w (p.bind f) (n + m) := by
  induction p generalizing n with
  | pure a => exact (hf a).mono (Nat.le_add_left _ _)
  | op o k ih =>
    refine ⟨hp.1.trans (Nat.le_add_right _ _), fun r => ?_⟩
    rw [Nat.sub_add_comm hp.1]
    exact ih r (hp.2 r)

/-- One operation at its price, and what follows it. -/
theorem Spends.perform_bind {o : Op} {f : Ret o → Program Op Ret Beta} {n m : ℕ}
    (ho : w o = n) (hf : ∀ r, Spends w (f r) m) : Spends w ((perform o).bind f) (n + m) := by
  subst ho
  exact ⟨Nat.le_add_right _ _, fun r => by rw [Nat.add_sub_cancel_left]; exact hf r⟩

/-- A program whose operations are free spends nothing. -/
theorem Uses.spends {p : Program Op Ret Alpha} (hp : Uses (fun o => w o = 0) p) :
    Spends w p 0 := by
  induction p with
  | pure a => trivial
  | op o k ih => exact ⟨hp.1.le, fun r => by rw [Nat.zero_sub]; exact ih r (hp.2 r)⟩

/-- **No trace costs more than the worst case.** -/
theorem Spends.cost_le {p q : Program Op Ret Alpha} {n : ℕ} (hp : Spends w p n)
    {tr : List (Event Op Ret)} (h : Follows p tr q) : cost w tr ≤ n := by
  induction h generalizing n with
  | refl p => exact Nat.zero_le _
  | @head o k r tr q _ ih =>
    have hrest : cost w tr ≤ n - w o := ih (hp.2 r)
    have hfirst : w o ≤ n := hp.1
    show w o + cost w tr ≤ n
    omega

end Cost

end Program
