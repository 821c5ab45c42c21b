/-
# The retries of `connect_with_retry`

Exactly what `connect_with_retry` does: attempts that find the card busy or the reader
gone, each followed by a pause, and a last attempt that settles the result.  Conversely,
whatever PC/SC answers in this shape is a run of it (`yields_connectWithRetry_iff`).
-/
import RemoteSmartcard.PcscReader

namespace RemoteSmartcard

open Program hiding pure
open PcscOp

/-- The card is busy, or the reader is gone. -/
def PcscError.Retryable (e : PcscError) : Prop := e.kind ≠ .other

namespace CardConnectionManager

/-- An attempt that failed, and the pause after it. -/
def retried (reader : String) (e : PcscError) : List PcscEvent :=
  [⟨connect reader, .error e⟩, ⟨sleep retryDelayMs, ()⟩]

/-- How the last attempt settles the result when `n` attempts were left after it: only
when none is left is a busy card or a missing reader reported. -/
inductive Settles : ℕ → Except PcscError Unit → Except ClientError Unit → Prop
  | connected (n : ℕ) : Settles n (.ok ()) (.ok ())
  | failed (n : ℕ) {text : String} :
    Settles n (.error ⟨.other, text⟩) (.error (.pcsc ⟨.other, text⟩))
  | busy {text : String} : Settles 0 (.error ⟨.sharingViolation, text⟩) (.error (.smartcard
      "Card is busy (sharing violation). Another application may be using it."))
  | unavailable {text : String} : Settles 0 (.error ⟨.readerUnavailable, text⟩)
      (.error (.smartcard "Reader unavailable after retries"))

/-- The shape of a run with `n` attempts after the first. -/
def Retries (reader : String) (n : ℕ) (tr : List PcscEvent) (result : Except ClientError Unit) :
    Prop :=
  ∃ (es : List PcscError) (last : Except PcscError Unit), es.length ≤ n ∧
    (∀ e ∈ es, e.Retryable) ∧ tr = es.flatMap (retried reader) ++ [⟨connect reader, last⟩] ∧
    Settles (n - es.length) last result

/-- With an attempt more, a run is settled by its first attempt, or goes on after a pause. -/
theorem retries_succ_iff {reader : String} {n : ℕ} {tr : List PcscEvent}
    {result : Except ClientError Unit} :
    Retries reader (n + 1) tr result ↔
      (∃ last, tr = [⟨connect reader, last⟩] ∧ Settles (n + 1) last result) ∨
        ∃ e tr', e.Retryable ∧ tr = retried reader e ++ tr' ∧ Retries reader n tr' result := by
  constructor
  · rintro ⟨es, last, hlength, hes, rfl, hlast⟩
    cases es with
    | nil => exact Or.inl ⟨last, rfl, hlast⟩
    | cons e es =>
      refine Or.inr ⟨e, _, hes e List.mem_cons_self, ?_, es, last, ?_,
        fun e' he' => hes e' (List.mem_cons_of_mem _ he'), rfl, ?_⟩
      · rw [List.flatMap_cons, List.append_assoc]
      · simpa using hlength
      · simpa using hlast
  · rintro (⟨last, rfl, hlast⟩ | ⟨e, tr', he, rfl, es, last, hlength, hes, rfl, hlast⟩)
    · exact ⟨[], last, Nat.zero_le _, by simp, rfl, hlast⟩
    · refine ⟨e :: es, last, by simpa using hlength, ?_, ?_, by simpa using hlast⟩
      · intro e' he'
        rcases List.mem_cons.mp he' with rfl | he'
        · exact he
        · exact hes e' he'
      · rw [List.flatMap_cons, List.append_assoc]

theorem retries_zero_iff {reader : String} {tr : List PcscEvent}
    {result : Except ClientError Unit} :
    Retries reader 0 tr result ↔ ∃ last, tr = [⟨connect reader, last⟩] ∧ Settles 0 last result := by
  constructor
  · rintro ⟨es, last, hlength, -, rfl, hlast⟩
    obtain rfl := List.length_eq_zero_iff.mp (Nat.le_zero.mp hlength)
    exact ⟨last, rfl, hlast⟩
  · rintro ⟨last, rfl, hlast⟩
    exact ⟨[], last, le_rfl, by simp, rfl, hlast⟩

theorem yields_connectAttempts_iff {reader : String} {n : ℕ} {tr : List PcscEvent}
    {result : Except ClientError Unit} :
    Yields (connectAttempts reader (n + 1)) tr result ↔ Retries reader n tr result := by
  induction n generalizing tr with
  | zero =>
    rw [retries_zero_iff]
    constructor
    · intro h
      obtain ⟨last, tr', rfl, hrest⟩ := yields_perform_bind_iff.mp h
      refine ⟨last, ?_⟩
      match last with
      | .ok () =>
        obtain ⟨rfl, rfl⟩ := yields_pure_iff.mp hrest
        exact ⟨rfl, .connected 0⟩
      | .error ⟨.other, text⟩ =>
        obtain ⟨rfl, rfl⟩ := yields_pure_iff.mp hrest
        exact ⟨rfl, .failed 0⟩
      | .error ⟨.sharingViolation, text⟩ =>
        obtain ⟨rfl, rfl⟩ := yields_pure_iff.mp hrest
        exact ⟨rfl, .busy⟩
      | .error ⟨.readerUnavailable, text⟩ =>
        obtain ⟨rfl, rfl⟩ := yields_pure_iff.mp hrest
        exact ⟨rfl, .unavailable⟩
    · rintro ⟨last, rfl, hlast⟩
      cases hlast <;> exact .head (.refl _)
  | succ n ih =>
    rw [retries_succ_iff]
    constructor
    · intro h
      obtain ⟨first, tr', rfl, hrest⟩ := yields_perform_bind_iff.mp h
      have hretry : ∀ e : PcscError, e.Retryable →
          Yields ((doSleep retryDelayMs).bind fun _ => connectAttempts reader (n + 1)) tr' result →
          ∃ e' tr'', e'.Retryable ∧
            (⟨connect reader, .error e⟩ : PcscEvent) :: tr' = retried reader e' ++ tr'' ∧
              Retries reader n tr'' result := by
        intro e he hpause
        obtain ⟨⟨⟩, tr'', rfl, hnext⟩ := yields_perform_bind_iff.mp hpause
        exact ⟨e, tr'', he, rfl, ih.mp hnext⟩
      match first with
      | .ok () =>
        obtain ⟨rfl, rfl⟩ := yields_pure_iff.mp hrest
        exact Or.inl ⟨_, rfl, .connected _⟩
      | .error ⟨.other, text⟩ =>
        obtain ⟨rfl, rfl⟩ := yields_pure_iff.mp hrest
        exact Or.inl ⟨_, rfl, .failed _⟩
      | .error ⟨.sharingViolation, text⟩ =>
        exact Or.inr (hretry _ (by simp [PcscError.Retryable]) hrest)
      | .error ⟨.readerUnavailable, text⟩ =>
        exact Or.inr (hretry _ (by simp [PcscError.Retryable]) hrest)
    · rintro (⟨last, rfl, hlast⟩ | ⟨e, tr', he, rfl, hrest⟩)
      · cases hlast <;> exact .head (.refl _)
      · have hrest := ih.mpr hrest
        obtain ⟨kind, text⟩ := e
        cases kind with
        | other => exact absurd rfl he
        | sharingViolation => exact .head (.head hrest)
        | readerUnavailable => exact .head (.head hrest)

/-- **The retries.**  `connect_with_retry` makes up to four attempts that find the card
busy or the reader gone, with a pause of 500 ms after each, and then one that connects, or
fails for another reason, or is the fifth; and every such sequence of answers is a run of
it, with the result that the last answer settles. -/
theorem yields_connectWithRetry_iff {reader : String} {tr : List PcscEvent}
    {result : Except ClientError Unit} :
    Yields (connectWithRetry reader) tr result ↔
      ∃ (es : List PcscError) (last : Except PcscError Unit), es.length ≤ 4 ∧
        (∀ e ∈ es, e.Retryable) ∧ tr = es.flatMap (retried reader) ++ [⟨connect reader, last⟩] ∧
        Settles (4 - es.length) last result :=
  yields_connectAttempts_iff

end CardConnectionManager

end RemoteSmartcard
