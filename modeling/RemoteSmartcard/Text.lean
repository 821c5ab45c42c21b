/-
# White space and decimal numbers in a text

A text is a list of characters.  `trim` removes white space at both ends, and
`Within s t` says that `s` is `t` surrounded by white space.  `Decimal s n` is
the grammar of unsigned decimal numbers, with a value of any size;
`parseUnsigned bound` reads those below a bound.  `hexPair` writes a byte with two
hexadecimal digits, and `hexEncode` all bytes of a list.
-/
import Mathlib.Data.List.DropRight
import Mathlib.Data.Nat.Digits.Defs
import Mathlib.Tactic
import RemoteSmartcard.FrameStream

namespace Text

/-! ## White space -/

/-- The Unicode property White_Space. -/
def isWhiteSpace (c : Char) : Bool :=
  let v := c.toNat
  (0x09 ≤ v && v ≤ 0x0D) || v = 0x20 || v = 0x85 || v = 0xA0 || v = 0x1680 ||
    (0x2000 ≤ v && v ≤ 0x200A) || v = 0x2028 || v = 0x2029 || v = 0x202F || v = 0x205F ||
    v = 0x3000

/-- The text without the white space at its ends. -/
def trim (s : List Char) : List Char := (s.dropWhile isWhiteSpace).rdropWhile isWhiteSpace

/-- `s` is `t` surrounded by white space. -/
def Within (s t : List Char) : Prop :=
  ∃ before after, s = before ++ t ++ after ∧ (∀ c ∈ before, isWhiteSpace c) ∧
    ∀ c ∈ after, isWhiteSpace c

/-- No white space at either end. -/
structure Trimmed (t : List Char) : Prop where
  head : ∀ c, t.head? = some c → ¬ isWhiteSpace c
  last : ∀ c, t.getLast? = some c → ¬ isWhiteSpace c

/-- `trim` takes white space off at both ends. -/
theorem within_trim (s : List Char) : Within s (trim s) := by
  refine ⟨s.takeWhile isWhiteSpace, (s.dropWhile isWhiteSpace).rtakeWhile isWhiteSpace, ?_,
    fun c => List.mem_takeWhile_imp, fun c => List.mem_rtakeWhile_imp⟩
  rw [trim, List.append_assoc, List.rdropWhile_append_rtakeWhile, List.takeWhile_append_dropWhile]

/-- What is left without white space at its ends is the trimmed text. -/
theorem trim_of_within {s t : List Char} (h : Within s t) (ht : Trimmed t) : trim s = t := by
  obtain ⟨before, after, rfl, hbefore, hafter⟩ := h
  rw [trim, List.append_assoc, List.dropWhile_append_of_pos hbefore]
  rcases t with _ | ⟨c, t⟩
  · -- nothing but white space
    rw [List.nil_append, List.dropWhile_eq_nil_iff.mpr hafter, List.rdropWhile_nil]
  · rw [List.cons_append, List.dropWhile_cons_of_neg (ht.head c rfl), ← List.cons_append,
      List.rdropWhile, List.reverse_append, List.dropWhile_append_of_pos
        fun a ha => hafter a (List.mem_reverse.mp ha)]
    exact List.rdropWhile_eq_self_iff.mpr fun hne =>
      ht.last _ (List.getLast?_eq_some_getLast hne)

/-! ## Suffixes -/

/-- The text without its last character, if that is `c`. -/
def stripSuffix (c : Char) (s : List Char) : Option (List Char) :=
  if s.getLast? = some c then some s.dropLast else none

/-- `strip_suffix` gives the text before the character. -/
theorem stripSuffix_eq_some_iff {c : Char} {s t : List Char} :
    stripSuffix c s = some t ↔ s = t ++ [c] := by
  unfold stripSuffix
  constructor
  · intro h
    split_ifs at h with hlast
    cases h
    obtain ⟨s', rfl⟩ := List.getLast?_eq_some_iff.mp hlast
    rw [List.dropLast_concat]
  · rintro rfl
    rw [if_pos List.getLast?_concat, List.dropLast_concat]

/-! ## Decimal numbers -/

/-- An unsigned decimal number: digits, at least one, after an optional plus
sign. -/
inductive Decimal : List Char → ℕ → Prop
  | plain {ds : List ℕ} (hne : ds ≠ []) (hds : ∀ d ∈ ds, d < 10) :
      Decimal (ds.map Nat.digitChar) (Nat.ofDigits 10 ds.reverse)
  | plus {ds : List ℕ} (hne : ds ≠ []) (hds : ∀ d ∈ ds, d < 10) :
      Decimal ('+' :: ds.map Nat.digitChar) (Nat.ofDigits 10 ds.reverse)

/-- Why a text is not a number. -/
inductive ParseIntError
  | empty
  | invalidDigit
  | posOverflow
  deriving DecidableEq

/-- The text of the error. -/
def ParseIntError.text : ParseIntError → String
  | empty => "cannot parse integer from empty string"
  | invalidDigit => "invalid digit found in string"
  | posOverflow => "number too large to fit in target type"

/-- The value of a decimal digit. -/
def digitValue (c : Char) : Option ℕ := if c.isDigit then some (c.toNat - '0'.toNat) else none

/-- Read digits after a number `acc`, as long as the value stays below `bound`. -/
def readDigits (bound : ℕ) : ℕ → List Char → Except ParseIntError ℕ
  | acc, [] => .ok acc
  | acc, c :: rest =>
    match digitValue c with
    | none => .error .invalidDigit
    | some d =>
      if acc * 10 + d < bound then readDigits bound (acc * 10 + d) rest else .error .posOverflow

/-- Read an unsigned decimal number below `bound`. -/
def parseUnsigned (bound : ℕ) (s : List Char) : Except ParseIntError ℕ :=
  if s = [] then .error .empty
  else if s = ['+'] ∨ s = ['-'] then .error .invalidDigit
  else if s.head? = some '+' then readDigits bound 0 s.tail
  else readDigits bound 0 s

/-- The value of a digit as it is printed. -/
theorem digitValue_digitChar {d : ℕ} (h : d < 10) : digitValue d.digitChar = some d := by
  interval_cases d <;> rfl

/-- Only the ten digits have a value. -/
theorem digitValue_eq_some {c : Char} {d : ℕ} (h : digitValue c = some d) :
    d < 10 ∧ c = d.digitChar := by
  unfold digitValue at h
  split_ifs at h with hdigit
  cases h
  have hbounds : '0'.toNat ≤ c.toNat ∧ c.toNat ≤ '9'.toNat := by
    simpa [Char.isDigit, Char.le_def, UInt32.le_iff_toNat_le] using hdigit
  obtain ⟨d, hd⟩ := Nat.exists_eq_add_of_le hbounds.1
  have hc : c = Char.ofNat ('0'.toNat + d) := by rw [← hd, Char.ofNat_toNat]
  have hd10 : d < 10 := by
    have h0 : '0'.toNat = 48 := rfl
    have h9 : '9'.toNat = 57 := rfl
    omega
  rw [hd, Nat.add_sub_cancel_left]
  refine ⟨hd10, hc.trans ?_⟩
  interval_cases d <;> rfl

/-- The value of digits with one more in front. -/
theorem ofDigits_reverse_cons (d : ℕ) (ds : List ℕ) :
    Nat.ofDigits 10 (d :: ds).reverse = d * 10 ^ ds.length + Nat.ofDigits 10 ds.reverse := by
  rw [List.reverse_cons, Nat.ofDigits_append, Nat.ofDigits_singleton, List.length_reverse]
  ring

/-- The digits that are read after `acc`, and the number they make of it. -/
theorem readDigits_eq_ok_iff {bound acc n : ℕ} (hacc : acc < bound) {s : List Char} :
    readDigits bound acc s = .ok n ↔
      n < bound ∧ ∃ ds : List ℕ, (∀ d ∈ ds, d < 10) ∧ s = ds.map Nat.digitChar ∧
        n = acc * 10 ^ ds.length + Nat.ofDigits 10 ds.reverse := by
  induction s generalizing acc with
  | nil =>
    rw [readDigits, Except.ok.injEq]
    constructor
    · rintro rfl
      exact ⟨hacc, [], by simp, rfl, by simp⟩
    · rintro ⟨-, ds, -, hs, hn⟩
      rw [List.map_eq_nil_iff.mp hs.symm] at hn
      simpa using hn.symm
  | cons c s ih =>
    rw [readDigits]
    constructor
    · intro h
      cases hc : digitValue c with
      | none =>
        rw [hc] at h
        cases h
      | some d =>
        obtain ⟨hd, rfl⟩ := digitValue_eq_some hc
        rw [hc] at h
        dsimp only at h
        split_ifs at h with hlt
        obtain ⟨hn, ds, hds, rfl, rfl⟩ := (ih hlt).mp h
        refine ⟨hn, d :: ds, by simpa [hd] using hds, rfl, ?_⟩
        rw [ofDigits_reverse_cons, List.length_cons]
        ring
    · rintro ⟨hn, _ | ⟨d, ds⟩, hds, hs, hval⟩
      · cases hs
      · rw [List.map_cons, List.cons.injEq] at hs
        obtain ⟨rfl, rfl⟩ := hs
        rw [ofDigits_reverse_cons, List.length_cons] at hval
        have hval' : n = (acc * 10 + d) * 10 ^ ds.length + Nat.ofDigits 10 ds.reverse := by
          rw [hval]
          ring
        -- the number read so far is at most the whole
        have hle : acc * 10 + d ≤ (acc * 10 + d) * 10 ^ ds.length :=
          Nat.le_mul_of_pos_right _ (by positivity)
        have hlt : acc * 10 + d < bound := by omega
        rw [digitValue_digitChar (hds d (by simp))]
        dsimp only
        rw [if_pos hlt]
        exact (ih hlt).mpr ⟨hn, ds, fun x hx => hds x (by simp [hx]), rfl, hval'⟩

/-- **Reading a number**: what is read are the decimal numbers below the bound. -/
theorem parseUnsigned_eq_ok_iff {bound n : ℕ} (hbound : 0 < bound) {s : List Char} :
    parseUnsigned bound s = .ok n ↔ Decimal s n ∧ n < bound := by
  unfold parseUnsigned
  constructor
  · intro h
    split_ifs at h with hnil hsign hplus
    · -- after the plus sign
      obtain ⟨hn, ds, hds, hs, rfl⟩ := (readDigits_eq_ok_iff hbound).mp h
      obtain ⟨s, rfl⟩ := List.head?_eq_some_iff.mp hplus
      rw [List.tail_cons] at hs
      subst hs
      rw [Nat.zero_mul, Nat.zero_add] at hn ⊢
      refine ⟨.plus ?_ hds, hn⟩
      rintro rfl
      exact hsign (Or.inl rfl)
    · obtain ⟨hn, ds, hds, rfl, rfl⟩ := (readDigits_eq_ok_iff hbound).mp h
      rw [Nat.zero_mul, Nat.zero_add] at hn ⊢
      refine ⟨.plain ?_ hds, hn⟩
      rintro rfl
      exact hnil rfl
  · rintro ⟨hs, hn⟩
    cases hs with
    | @plain ds hne hds =>
      obtain ⟨d, ds, rfl⟩ := List.exists_cons_of_ne_nil hne
      have hd := hds d (by simp)
      have hhead : ∀ c, c.isDigit = false → d.digitChar ≠ c := by
        rintro c hc rfl
        rw [Nat.isDigit_digitChar] at hc
        simp [hd] at hc
      rw [if_neg (by simp), if_neg, if_neg]
      · refine (readDigits_eq_ok_iff hbound).mpr ⟨hn, d :: ds, hds, rfl, ?_⟩
        rw [Nat.zero_mul, Nat.zero_add]
      · rw [List.map_cons, List.head?_cons, Option.some.injEq]
        exact hhead '+' rfl
      · rw [List.map_cons]
        simp [hhead '+' rfl, hhead '-' rfl]
    | @plus ds hne hds =>
      rw [if_neg (by simp), if_neg (by simpa using hne), if_pos List.head?_cons,
        List.tail_cons]
      refine (readDigits_eq_ok_iff hbound).mpr ⟨hn, ds, hds, rfl, ?_⟩
      rw [Nat.zero_mul, Nat.zero_add]

/-- A text is the decimal number of at most one value. -/
theorem Decimal.value_unique {s : List Char} {n m : ℕ} (hn : Decimal s n) (hm : Decimal s m) :
    n = m := by
  have hbound : 0 < n + m + 1 := by omega
  have hread := (parseUnsigned_eq_ok_iff hbound).mpr ⟨hn, by omega⟩
  have hread' := (parseUnsigned_eq_ok_iff hbound).mpr ⟨hm, by omega⟩
  rw [hread, Except.ok.injEq] at hread'
  exact hread'

/-- A decimal number does not begin with white space. -/
theorem Decimal.head {s : List Char} {n : ℕ} (h : Decimal s n) :
    ∃ c rest, s = c :: rest ∧ ¬ isWhiteSpace c := by
  cases h with
  | @plain ds hne hds =>
    obtain ⟨d, ds, rfl⟩ := List.exists_cons_of_ne_nil hne
    refine ⟨_, _, rfl, ?_⟩
    have hd := hds d (by simp)
    interval_cases d <;> decide
  | plus => exact ⟨_, _, rfl, by decide⟩

/-- With a unit after it, there is no white space at either end. -/
theorem Decimal.trimmed_concat {s : List Char} {n : ℕ} (h : Decimal s n) {c : Char}
    (hc : ¬ isWhiteSpace c) : Trimmed (s ++ [c]) := by
  obtain ⟨a, rest, rfl, ha⟩ := h.head
  refine ⟨fun x hx => ?_, fun x hx => ?_⟩
  · cases hx
    exact ha
  · rw [List.getLast?_concat] at hx
    cases hx
    exact hc

/-! ## Lines -/

/-- The first line of a text and what follows it are determined. -/
theorem line_inj {a b r s : List Char} (ha : '\n' ∉ a) (hb : '\n' ∉ b)
    (h : a ++ '\n' :: r = b ++ '\n' :: s) : a = b ∧ r = s := by
  induction a generalizing b with
  | nil =>
    cases b with
    | nil => exact ⟨rfl, (List.cons.inj h).2⟩
    | cons d b => exact absurd (List.mem_cons.mpr (Or.inl (List.cons.inj h).1)) hb
  | cons c a ih =>
    cases b with
    | nil => exact absurd (List.mem_cons.mpr (Or.inl (List.cons.inj h).1.symm)) ha
    | cons d b =>
      obtain ⟨rfl, htail⟩ := List.cons.inj h
      obtain ⟨rfl, rfl⟩ := ih (fun hm => ha (List.mem_cons_of_mem _ hm))
        (fun hm => hb (List.mem_cons_of_mem _ hm)) htail
      exact ⟨rfl, rfl⟩

/-! ## Hexadecimal -/

/-- The digits above nine are capital letters. -/
def upperDigit (d : ℕ) : Char := d.digitChar.toUpper

/-- A byte with two digits. -/
def hexPair (digit : ℕ → Char) (b : UInt8) : List Char :=
  [digit (b.toNat / 16), digit (b.toNat % 16)]

/-- The bytes in lower-case hexadecimal, as `hex::encode` has them. -/
def hexEncode (data : List UInt8) : List Char := data.flatMap (hexPair Nat.digitChar)

/-- Ways to write a hexadecimal digit. -/
structure HexDigits (digit : ℕ → Char) : Prop where
  injective : ∀ d < 16, ∀ e < 16, digit d = digit e → d = e
  ne_newline : ∀ d < 16, digit d ≠ '\n'

theorem hexDigits_digitChar : HexDigits Nat.digitChar := ⟨by decide, by decide⟩

theorem hexDigits_upperDigit : HexDigits upperDigit := ⟨by decide, by decide⟩

section Hexadecimal

variable {digit : ℕ → Char} (hdigit : HexDigits digit)
include hdigit

/-- Two digits tell the byte. -/
theorem HexDigits.hexPair_inj {a b : UInt8} (h : hexPair digit a = hexPair digit b) : a = b := by
  have ha := a.toNat_lt
  have hb := b.toNat_lt
  obtain ⟨hhigh, hlow⟩ := List.cons.inj h
  have hquotient := hdigit.injective _ (by omega) _ (by omega) hhigh
  have hremainder := hdigit.injective _ (by omega) _ (by omega) (List.cons.inj hlow).1
  exact UInt8.toNat_inj.mp (by omega)

/-- Digits are no line break. -/
theorem HexDigits.newline_notMem_hexPair (b : UInt8) : '\n' ∉ hexPair digit b := by
  have hb := b.toNat_lt
  intro hmem
  rcases List.mem_cons.mp hmem with hhigh | hmem
  · exact hdigit.ne_newline _ (by omega) hhigh.symm
  · exact hdigit.ne_newline _ (by omega) (List.mem_singleton.mp hmem).symm

/-- A byte is printed with two characters, so the bytes can be told apart. -/
theorem HexDigits.selfDelimiting : SelfDelimiting (hexPair digit) := by
  intro a b r s h
  obtain ⟨hbyte, hrest⟩ := List.append_inj h rfl
  exact ⟨hdigit.hexPair_inj hbyte, hrest⟩

end Hexadecimal

/-- The text of bytes has no line break. -/
theorem newline_notMem_hexEncode (data : List UInt8) : '\n' ∉ hexEncode data := by
  intro hmem
  obtain ⟨b, -, hb⟩ := List.mem_flatMap.mp hmem
  exact hexDigits_digitChar.newline_notMem_hexPair b hb

end Text
