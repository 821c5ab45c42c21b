/-
# The reading side of a TCP connection

What the peer sends arrives in segments of any size.  `readExact` is tokio's
`AsyncReadExt::read_exact`: it reads again and again until the buffer is full,
whatever the segments are, and fails if the connection ends first.
-/
import RemoteSmartcard.Vpcd

namespace RemoteSmartcard

/-- The reading side of a connection: the segments still to be read, and what a
read finds after the last of them (end of file, or an error). -/
structure TcpStream where
  segments : List Bytes
  ending : IoError

namespace TcpStream

/-- Fill a buffer of `n` bytes from segments: each read takes at most the rest
of the first segment. -/
def fill : ℕ → List Bytes → Option (Bytes × List Bytes)
  | 0, segments => some ([], segments)
  | _ + 1, [] => none
  | n + 1, segment :: rest =>
    if n + 1 < segment.length then some (segment.take (n + 1), segment.drop (n + 1) :: rest)
    else (fill (n + 1 - segment.length) rest).map fun filled =>
      (segment ++ filled.1, filled.2)

/-- A filled buffer holds the next `n` bytes of the stream, however they were
segmented. -/
theorem fill_eq_some {n : ℕ} {segments rest : List Bytes} {data : Bytes}
    (h : fill n segments = some (data, rest)) :
    data.length = n ∧ segments.flatten = data ++ rest.flatten := by
  induction segments generalizing n data rest with
  | nil =>
    cases n with
    | zero =>
      simp only [fill, Option.some.injEq, Prod.mk.injEq] at h
      obtain ⟨rfl, rfl⟩ := h
      simp
    | succ n => simp [fill] at h
  | cons segment segments ih =>
    cases n with
    | zero =>
      simp only [fill, Option.some.injEq, Prod.mk.injEq] at h
      obtain ⟨rfl, rfl⟩ := h
      simp
    | succ n =>
      rw [fill] at h
      split_ifs at h with hlt
      · simp only [Option.some.injEq, Prod.mk.injEq] at h
        obtain ⟨rfl, rfl⟩ := h
        refine ⟨by rw [List.length_take]; omega, ?_⟩
        rw [List.flatten_cons, List.flatten_cons, ← List.append_assoc, List.take_append_drop]
      · simp only [Option.map_eq_some_iff, Prod.mk.injEq, Prod.exists] at h
        obtain ⟨data', rest', hfill, rfl, rfl⟩ := h
        obtain ⟨hlen, hflat⟩ := ih hfill
        refine ⟨by rw [List.length_append, hlen]; omega, ?_⟩
        rw [List.flatten_cons, hflat, List.append_assoc]

/-- Filling fails exactly when fewer than `n` bytes are left. -/
theorem fill_eq_none_iff {n : ℕ} {segments : List Bytes} :
    fill n segments = none ↔ segments.flatten.length < n := by
  induction segments generalizing n with
  | nil => cases n <;> simp [fill]
  | cons segment segments ih =>
    cases n with
    | zero => simp [fill]
    | succ n =>
      rw [fill, List.flatten_cons, List.length_append]
      split_ifs with hlt
      · simp only [false_iff]
        omega
      · rw [Option.map_eq_none_iff, ih]
        omega

/-- `read_exact` into a buffer of `n` bytes.  After a failure nothing is left
to read. -/
def readExact (s : TcpStream) (n : ℕ) : Except IoError (Buffer n) × TcpStream :=
  match h : fill n s.segments with
  | some (data, rest) => (.ok ⟨data, (fill_eq_some h).1⟩, { s with segments := rest })
  | none => (.error s.ending, { s with segments := [] })

/-- The bytes still to be read. -/
def bytes (s : TcpStream) : Bytes := s.segments.flatten

/-- **The reading rule**: the segmentation is invisible.  With at least `n`
bytes left, `read_exact` gives the first `n` of them and leaves the others. -/
theorem readExact_of_le {s : TcpStream} {n : ℕ} (h : n ≤ s.bytes.length) :
    ∃ (buf : Buffer n) (s' : TcpStream), s.readExact n = (.ok buf, s') ∧
      s.bytes = buf.1 ++ s'.bytes ∧ s'.ending = s.ending := by
  cases hf : fill n s.segments with
  | none =>
    have := fill_eq_none_iff.mp hf
    unfold bytes at h
    omega
  | some filled =>
    obtain ⟨data, rest⟩ := filled
    refine ⟨⟨data, (fill_eq_some hf).1⟩, { s with segments := rest }, ?_, (fill_eq_some hf).2, rfl⟩
    unfold readExact
    split
    · rename_i data' rest' hf'
      rw [hf] at hf'
      simp only [Option.some.injEq, Prod.mk.injEq] at hf'
      obtain ⟨rfl, rfl⟩ := hf'
      rfl
    · rename_i hf'
      rw [hf] at hf'
      cases hf'

/-- With fewer bytes left, `read_exact` gives what ended the connection. -/
theorem readExact_of_lt {s : TcpStream} {n : ℕ} (h : s.bytes.length < n) :
    s.readExact n = (.error s.ending, { s with segments := [] }) := by
  have hf : fill n s.segments = none := fill_eq_none_iff.mpr h
  unfold readExact
  split
  · rename_i data rest hf'
    rw [hf] at hf'
    cases hf'
  · rfl

end TcpStream

end RemoteSmartcard
