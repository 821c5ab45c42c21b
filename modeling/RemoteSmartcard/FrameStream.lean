/-
# Streams of self-delimiting frames

A `FrameReader` takes one frame off the front of a stream of symbols, or finds
that there is none.  It knows from the symbols it has read where the frame
ends: `split` and `append` say that what is taken is a frame by itself, and
that more input does not change it; `nonempty` says that it is not empty.

`readAll` takes frames off as long as there are any.  What it reads is the
longest front part of the stream that is a concatenation of frames
(`readAll_longest`), so reading a concatenation of frames gives back their
messages (`readAll_concat`, `Concat.readAll_eq`).  `decoded` refines the messages of a reader by a
partial decoding, and `lengthPrefixed` builds the reader of frames with a
fixed-size length field.

`SelfDelimiting` is the writing side: no word of the code begins another one, so that what
is written for a list of messages is written for no other list (`SelfDelimiting.flatMap_iff`).
-/
import Mathlib.Tactic

/-- A reader of frames over the symbols `Beta` with messages `Mu`. -/
structure FrameReader (Beta Mu : Type*) where
  next : List Beta → Option (Mu × List Beta)
  split : ∀ {b m rest}, next b = some (m, rest) → ∃ f, b = f ++ rest ∧ next f = some (m, [])
  append : ∀ {b m rest} (c : List Beta), next b = some (m, rest) →
    next (b ++ c) = some (m, rest ++ c)
  nonempty : ∀ {m rest}, next [] ≠ some (m, rest)

namespace FrameReader

variable {Beta Mu Nu : Type*} (r : FrameReader Beta Mu)

/-- `f` is the frame of `m`. -/
def IsFrame (f : List Beta) (m : Mu) : Prop := r.next f = some (m, [])

/-- `b` is a concatenation of frames with the messages `ms`. -/
inductive Concat : List Beta → List Mu → Prop
  | nil : Concat [] []
  | cons {f b : List Beta} {m : Mu} {ms : List Mu} :
      r.IsFrame f m → Concat b ms → Concat (f ++ b) (m :: ms)

variable {r}

/-- A frame is read off whatever follows it. -/
theorem IsFrame.next {f : List Beta} {m : Mu} (h : r.IsFrame f m) (rest : List Beta) :
    r.next (f ++ rest) = some (m, rest) :=
  r.append rest h

/-- No frame is empty. -/
theorem IsFrame.ne_nil {f : List Beta} {m : Mu} (h : r.IsFrame f m) : f ≠ [] := by
  rintro rfl
  exact r.nonempty h

/-- Reading a frame takes bytes off. -/
theorem length_lt_of_next {b rest : List Beta} {m : Mu} (h : r.next b = some (m, rest)) :
    rest.length < b.length := by
  obtain ⟨f, rfl, hf⟩ := r.split h
  have hpos : 0 < f.length := List.length_pos_iff.mpr (IsFrame.ne_nil hf)
  rw [List.length_append]
  omega

variable (r)

/-- Take frames off, at most `fuel` of them. -/
def readUpTo : ℕ → List Beta → List Mu × List Beta
  | 0, b => ([], b)
  | fuel + 1, b =>
    match r.next b with
    | none => ([], b)
    | some (m, rest) => (m :: (readUpTo fuel rest).1, (readUpTo fuel rest).2)

/-- Take frames off as long as there are any: the messages, and what is left. -/
def readAll (b : List Beta) : List Mu × List Beta := r.readUpTo b.length b

variable {r}

/-- Where no frame begins nothing is read. -/
theorem readUpTo_of_next_eq_none {b : List Beta} (h : r.next b = none) (fuel : ℕ) :
    r.readUpTo fuel b = ([], b) := by
  cases fuel with
  | zero => rfl
  | succ fuel => rw [readUpTo, h]

/-- No frame begins at the end. -/
theorem next_nil : r.next [] = none := by
  cases h : r.next [] with
  | none => rfl
  | some p => exact absurd h r.nonempty

/-- As much fuel as symbols is enough. -/
theorem readUpTo_congr {n n' : ℕ} {b : List Beta} (h : b.length ≤ n) (h' : b.length ≤ n') :
    r.readUpTo n b = r.readUpTo n' b := by
  induction n generalizing n' b with
  | zero =>
    rw [List.length_eq_zero_iff.mp (Nat.le_zero.mp h), readUpTo_of_next_eq_none next_nil,
      readUpTo_of_next_eq_none next_nil]
  | succ n ih =>
    cases hn : r.next b with
    | none => rw [readUpTo_of_next_eq_none hn, readUpTo_of_next_eq_none hn]
    | some p =>
      obtain ⟨m, rest⟩ := p
      have hlt := length_lt_of_next hn
      cases n' with
      | zero => omega
      | succ n' =>
        have hrest : r.readUpTo n rest = r.readUpTo n' rest := ih (by omega) (by omega)
        rw [readUpTo, readUpTo, hn]
        dsimp only
        rw [hrest]

/-- Reading stops where no frame begins. -/
theorem readAll_of_next_eq_none {b : List Beta} (h : r.next b = none) : r.readAll b = ([], b) :=
  readUpTo_of_next_eq_none h _

/-- It takes the first frame off and goes on. -/
theorem readAll_of_next_eq_some {b rest : List Beta} {m : Mu} (h : r.next b = some (m, rest)) :
    r.readAll b = (m :: (r.readAll rest).1, (r.readAll rest).2) := by
  have hrest : r.readUpTo b.length rest = r.readAll rest :=
    readUpTo_congr (Nat.le_of_lt (length_lt_of_next h)) (Nat.le_refl _)
  rw [readAll, readUpTo_congr (Nat.le_refl _) (Nat.le_succ b.length), readUpTo, h]
  dsimp only
  rw [hrest]

/-! ## Concatenations -/

/-- **The round trip**: reading a concatenation of frames gives their messages,
and goes on with what follows. -/
theorem readAll_concat {b : List Beta} {ms : List Mu} (h : r.Concat b ms) (rest : List Beta) :
    r.readAll (b ++ rest) = (ms ++ (r.readAll rest).1, (r.readAll rest).2) := by
  induction h with
  | nil => rfl
  | cons hf _ ih =>
    rw [List.append_assoc, readAll_of_next_eq_some (hf.next _), ih, List.cons_append]

/-- Reading a concatenation of frames leaves nothing. -/
theorem Concat.readAll_eq {b : List Beta} {ms : List Mu} (h : r.Concat b ms) :
    r.readAll b = (ms, []) := by
  have hread := readAll_concat h []
  rwa [List.append_nil, readAll_of_next_eq_none next_nil, List.append_nil] at hread

/-- The frames of a list, one after the other, are read as the list. -/
theorem concat_flatMap {Alpha : Type*} {xs : List Alpha} {frame : Alpha → List Beta}
    {msg : Alpha → Mu} (h : ∀ x ∈ xs, r.IsFrame (frame x) (msg x)) :
    r.Concat (xs.flatMap frame) (xs.map msg) := by
  induction xs with
  | nil => exact .nil
  | cons x xs ih =>
    rw [List.flatMap_cons, List.map_cons]
    exact .cons (h x (by simp)) (ih fun y hy => h y (List.mem_cons_of_mem _ hy))

/-- What is read is a concatenation of frames, and no frame begins after it. -/
theorem readAll_spec (b : List Beta) :
    ∃ b', b = b' ++ (r.readAll b).2 ∧ r.Concat b' (r.readAll b).1 ∧
      r.next (r.readAll b).2 = none := by
  induction hn : b.length using Nat.strong_induction_on generalizing b with
  | _ n ih =>
    cases hb : r.next b with
    | none =>
      rw [readAll_of_next_eq_none hb]
      exact ⟨[], rfl, .nil, hb⟩
    | some p =>
      obtain ⟨m, rest⟩ := p
      obtain ⟨b', hb', hconcat, hnone⟩ := ih rest.length (hn ▸ length_lt_of_next hb) rest rfl
      obtain ⟨f, hf, hframe⟩ := r.split hb
      rw [readAll_of_next_eq_some hb]
      refine ⟨f ++ b', ?_, .cons hframe hconcat, hnone⟩
      rw [List.append_assoc, ← hb', hf]

/-- **Reading is maximal**: the messages of any front part that is a
concatenation of frames are the first that are read. -/
theorem readAll_longest {b b' rest : List Beta} {ms : List Mu} (hb : b = b' ++ rest)
    (h : r.Concat b' ms) :
    ms <+: (r.readAll b).1 ∧ (r.readAll b).2.length ≤ rest.length := by
  obtain ⟨b'', hrest, -, -⟩ := r.readAll_spec rest
  rw [hb, readAll_concat h]
  refine ⟨List.prefix_append .., ?_⟩
  dsimp only
  have hlen := congrArg List.length hrest
  rw [List.length_append] at hlen
  omega

/-! ## Frames with a decoded payload -/

/-- The reader that takes the frames of `r` whose message decodes. -/
def decoded (r : FrameReader Beta Mu) (dec : Mu → Option Nu) : FrameReader Beta Nu where
  next b := (r.next b).bind fun p => (dec p.1).map fun m => (m, p.2)
  split := by
    intro b m rest h
    simp only [Option.bind_eq_some_iff, Option.map_eq_some_iff, Prod.mk.injEq] at h
    obtain ⟨⟨m', rest'⟩, hn, m'', hd, rfl, rfl⟩ := h
    obtain ⟨f, hf, hframe⟩ := r.split hn
    exact ⟨f, hf, by simp [hframe, hd]⟩
  append := by
    intro b m rest c h
    simp only [Option.bind_eq_some_iff, Option.map_eq_some_iff, Prod.mk.injEq] at h
    obtain ⟨⟨m', rest'⟩, hn, m'', hd, rfl, rfl⟩ := h
    simp [r.append c hn, hd]
  nonempty := by
    intro m rest h
    rw [next_nil] at h
    cases h

/-- Each message is read as its frame and then decoded. -/
theorem decoded_next (dec : Mu → Option Nu) (b : List Beta) :
    (r.decoded dec).next b = (r.next b).bind fun p => (dec p.1).map fun m => (m, p.2) := rfl

/-! ## Frames with a length field -/

/-- The reader of frames that begin with a length field of `k + 1` symbols, from
which `len` computes the number of symbols that follow; the message is those. -/
def lengthPrefixed (k : ℕ) (len : List Beta → ℕ) : FrameReader Beta (List Beta) where
  next b :=
    if k + 1 + len (b.take (k + 1)) ≤ b.length then
      some ((b.drop (k + 1)).take (len (b.take (k + 1))),
        (b.drop (k + 1)).drop (len (b.take (k + 1))))
    else none
  split := by
    intro b m rest h
    split_ifs at h with hle
    simp only [Option.some.injEq, Prod.mk.injEq] at h
    obtain ⟨rfl, rfl⟩ := h
    refine ⟨b.take (k + 1 + len (b.take (k + 1))), ?_, ?_⟩
    · rw [List.drop_drop, List.take_append_drop]
    · have hlen : (b.take (k + 1 + len (b.take (k + 1)))).length =
          k + 1 + len (b.take (k + 1)) := by rw [List.length_take]; omega
      have htake : (b.take (k + 1 + len (b.take (k + 1)))).take (k + 1) = b.take (k + 1) := by
        rw [List.take_take]
        congr 1
        omega
      rw [htake, if_pos (by omega)]
      simp only [Option.some.injEq, Prod.mk.injEq]
      refine ⟨?_, ?_⟩
      · rw [List.drop_take, List.take_take]
        congr 1
        omega
      · rw [List.drop_drop, List.drop_eq_nil_iff]
        omega
  append := by
    intro b m rest c h
    split_ifs at h with hle
    simp only [Option.some.injEq, Prod.mk.injEq] at h
    obtain ⟨rfl, rfl⟩ := h
    have htake : (b ++ c).take (k + 1) = b.take (k + 1) :=
      List.take_append_of_le_length (by omega)
    rw [htake, if_pos (by rw [List.length_append]; omega),
      List.drop_append_of_le_length (by omega),
      List.take_append_of_le_length (by rw [List.length_drop]; omega),
      List.drop_append_of_le_length (by rw [List.length_drop]; omega)]
  nonempty := by
    intro m rest h
    split_ifs at h with hle
    simp at hle

/-- A length field, and then as many bytes as it says. -/
theorem lengthPrefixed_next {k : ℕ} {len : List Beta → ℕ} (b : List Beta) :
    (lengthPrefixed k len).next b =
      if k + 1 + len (b.take (k + 1)) ≤ b.length then
        some ((b.drop (k + 1)).take (len (b.take (k + 1))),
          (b.drop (k + 1)).drop (len (b.take (k + 1))))
      else none := rfl

/-- With the length field in front, a frame is read if enough symbols follow. -/
theorem lengthPrefixed_next_append {k : ℕ} {len : List Beta → ℕ} {header : List Beta}
    (hheader : header.length = k + 1) (b : List Beta) :
    (lengthPrefixed k len).next (header ++ b) =
      if len header ≤ b.length then some (b.take (len header), b.drop (len header)) else none := by
  rw [lengthPrefixed_next, List.take_left' hheader, List.drop_left' hheader, List.length_append,
    hheader]
  by_cases hle : len header ≤ b.length
  · rw [if_pos (by omega), if_pos hle]
  · rw [if_neg (by omega), if_neg hle]

/-- A length field followed by as many symbols is a frame. -/
theorem isFrame_lengthPrefixed {k : ℕ} {len : List Beta → ℕ} {header payload : List Beta}
    (hheader : header.length = k + 1) (hlen : len header = payload.length) :
    (lengthPrefixed k len).IsFrame (header ++ payload) payload := by
  have htake : (header ++ payload).take (k + 1) = header := by
    rw [← hheader]
    exact List.take_left
  have hdrop : (header ++ payload).drop (k + 1) = payload := by
    rw [← hheader]
    exact List.drop_left
  rw [IsFrame, lengthPrefixed_next, htake, hdrop, hlen,
    if_pos (by rw [List.length_append, hheader]), List.take_length, List.drop_length]

/-- A frame that is read has the length its length field says. -/
theorem length_of_lengthPrefixed_next {k : ℕ} {len : List Beta → ℕ} {b m rest : List Beta}
    (h : (lengthPrefixed k len).next b = some (m, rest)) : m.length = len (b.take (k + 1)) := by
  rw [lengthPrefixed_next] at h
  split_ifs at h with hle
  simp only [Option.some.injEq, Prod.mk.injEq] at h
  obtain ⟨rfl, -⟩ := h
  rw [List.length_take, List.length_drop]
  omega

end FrameReader

/-! ## Self-delimiting codes -/

/-- Where a word of the code ends is known from the word. -/
def SelfDelimiting {Beta Mu : Type*} (code : Mu → List Beta) : Prop :=
  ∀ a b r s, code a ++ r = code b ++ s → a = b ∧ r = s

/-- **Unique decoding.** -/
theorem SelfDelimiting.flatMap_iff {Beta Mu : Type*} {code : Mu → List Beta}
    (h : SelfDelimiting code) (hne : ∀ a, code a ≠ []) {as bs : List Mu} :
    as.flatMap code = bs.flatMap code ↔ as = bs := by
  refine ⟨fun heq => ?_, fun heq => heq ▸ rfl⟩
  induction as generalizing bs with
  | nil =>
    cases bs with
    | nil => rfl
    | cons b bs =>
      rw [List.flatMap_nil, List.flatMap_cons] at heq
      exact absurd (List.append_eq_nil_iff.mp heq.symm).1 (hne b)
  | cons a as ih =>
    cases bs with
    | nil =>
      rw [List.flatMap_nil, List.flatMap_cons] at heq
      exact absurd (List.append_eq_nil_iff.mp heq).1 (hne a)
    | cons b bs =>
      rw [List.flatMap_cons, List.flatMap_cons] at heq
      obtain ⟨rfl, hrest⟩ := h a b _ _ heq
      rw [ih hrest]
