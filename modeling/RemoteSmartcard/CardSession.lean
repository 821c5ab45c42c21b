/-
# Execution and card sessions at the client

Two questions about `transmit`, whose second attempt follows a reconnect:

* how often the card executes the APDU (`executions_transmit`): at most twice,
  and twice only after the answer to the first `card.transmit` was lost;
* over which connections the APDUs of a run of calls are executed
  (`sameConnection_iff`): over one and the same as long as no call needs its
  second attempt.

`Calls` is a run of calls of `transmit_apdu` and `get_atr` on any readers.
-/
import RemoteSmartcard.CardConnection
import RemoteSmartcard.GrpcClient

namespace RemoteSmartcard

open Program hiding pure

/-! ## How often an APDU is executed -/

/-- How often the card executes the APDU along a trace. -/
def executions (apdu : Bytes) (tr : List PcscEvent) : ℕ :=
  (exchanges tr).countP fun x => x.executed && decide (x.apdu = apdu)

/-- The first `card.transmit` of the trace returned an error although the card
had executed the APDU. -/
def AnswerLost (tr : List PcscEvent) : Prop :=
  ∃ x, (exchanges tr).head? = some x ∧ x.answered = false ∧ x.executed = true

instance (tr : List PcscEvent) : Decidable (AnswerLost tr) :=
  match h : (exchanges tr).head? with
  | none => .isFalse fun ⟨x, hx, _⟩ => by simp [h] at hx
  | some x =>
    decidable_of_iff (x.answered = false ∧ x.executed = true)
      ⟨fun hx => ⟨x, h, hx⟩, fun ⟨y, hy, hx⟩ => by
        obtain rfl : x = y := Option.some.inj (h.symm.trans hy)
        exact hx⟩

theorem executions_of_exchanges_eq_nil {apdu : Bytes} {tr : List PcscEvent}
    (h : exchanges tr = []) : executions apdu tr = 0 := by
  unfold executions
  rw [h]
  rfl

theorem executions_append (apdu : Bytes) (t₁ t₂ : List PcscEvent) :
    executions apdu (t₁ ++ t₂) = executions apdu t₁ + executions apdu t₂ := by
  unfold executions
  rw [exchanges_append, List.countP_append]

namespace CardConnectionManager

/-- One attempt has the card execute an APDU at most once. -/
theorem Attempt.executions_le {m m' : CardConnectionManager} {reader : String}
    {apdu apdu' : Bytes} {tr : List PcscEvent} {result : Except ClientError Bytes}
    (h : Attempt m reader apdu tr result m') : executions apdu' tr ≤ 1 := by
  have hlength : (exchanges tr).length ≤ 1 := by
    rcases h.exchanges_cases with hnil | ⟨x, hx, -⟩
    · simp [hnil]
    · simp [hx]
  exact List.countP_le_length.trans hlength

/-- A failed attempt put the APDU to the card without getting an answer, if at
all. -/
theorem Attempt.answered_of_error {m m' : CardConnectionManager} {reader : String} {apdu : Bytes}
    {tr : List PcscEvent} {e : ClientError} (h : Attempt m reader apdu tr (.error e) m') :
    exchanges tr = [] ∨ ∃ x, exchanges tr = [x] ∧ x.answered = false := by
  generalize hresult : (Except.error e : Except ClientError Bytes) = result at h
  cases h with
  | unconnected _ htr => exact Or.inl htr.exchanges_eq_nil
  | @replied t card _ reply hopen =>
    refine Or.inr ⟨exchangeWith card apdu reply, ?_, ?_⟩
    · rw [exchanges_append, hopen.exchanges_eq_nil, exchanges_transmit, List.nil_append]
    · match reply with
      | .ok response => simp [replyResult] at hresult
      | .error failure => rfl

/-- A failed attempt after which the APDU has been executed lost the answer. -/
theorem Attempt.executions_of_error {m m' : CardConnectionManager} {reader : String}
    {apdu apdu' : Bytes} {t₁ t₂ : List PcscEvent} {e : ClientError}
    (h : Attempt m reader apdu t₁ (.error e) m') (hkept : ¬ AnswerLost (t₁ ++ t₂)) :
    executions apdu' t₁ = 0 := by
  rcases h.answered_of_error with hnil | ⟨x, hx, hanswered⟩
  · exact executions_of_exchanges_eq_nil hnil
  · have hexecuted : ¬ x.executed = true := fun hexecuted =>
      hkept ⟨x, by simp [hx], hanswered, hexecuted⟩
    unfold executions
    rw [hx]
    simp [hexecuted]

/-- **How often one call of `transmit` has an APDU executed.** -/
theorem executions_of_yields_transmit {m m' : CardConnectionManager} {reader : String}
    {apdu apdu' : Bytes} {tr : List PcscEvent} {result : Except ClientError Bytes}
    (h : Yields (m.transmit reader apdu) tr (result, m')) :
    executions apdu' tr ≤ 2 ∧ (¬ AnswerLost tr → executions apdu' tr ≤ 1) := by
  rcases yields_transmit h with ⟨response, -, hattempt⟩ |
    ⟨e, t₁, t₂, t₃, m₁, rfl, hfirst, hdrop, hsecond⟩
  · have hle : executions apdu' tr ≤ 1 := hattempt.executions_le
    exact ⟨by omega, fun _ => hle⟩
  · rw [executions_append, executions_append, executions_of_exchanges_eq_nil hdrop]
    have h₁ : executions apdu' t₁ ≤ 1 := hfirst.executions_le
    have h₂ : executions apdu' t₃ ≤ 1 := hsecond.executions_le
    refine ⟨by omega, fun hkept => ?_⟩
    have h₀ : executions apdu' t₁ = 0 := hfirst.executions_of_error hkept
    omega

end CardConnectionManager

namespace CardConnections

theorem executions_of_yields_transmitApdu {g g' : CardConnections} {reader : String}
    {apdu apdu' : Bytes} {tr : List PcscEvent} {result : Except ClientError Bytes}
    (h : Yields (g.transmitApdu reader apdu) tr (result, g')) :
    executions apdu' tr ≤ 2 ∧ (¬ AnswerLost tr → executions apdu' tr ≤ 1) := by
  rcases yields_withManager h with ⟨-, hnil, -⟩ | ⟨t₁, t₂, m', rfl, hnil, htransmit, -⟩
  · have hzero : executions apdu' tr = 0 := executions_of_exchanges_eq_nil hnil
    omega
  · have hle : executions apdu' t₂ ≤ 2 ∧ (¬ AnswerLost t₂ → executions apdu' t₂ ≤ 1) :=
      CardConnectionManager.executions_of_yields_transmit htransmit
    rw [executions_append, executions_of_exchanges_eq_nil hnil, Nat.zero_add]
    refine ⟨hle.1, fun hkept => hle.2 fun ⟨x, hx, hlost⟩ => hkept ⟨x, ?_, hlost⟩⟩
    rwa [exchanges_append, hnil, List.nil_append]

end CardConnections

/-- A command is carried out by one call of `transmit_apdu`, or puts nothing to
the card. -/
theorem GrpcClient.executions_of_yields_processCommand {g g' : CardConnections}
    {sessionId : String} {request : CommandRequest} {apdu : Bytes} {tr : List PcscEvent}
    {response : CommandResponse}
    (h : Yields (processCommand g sessionId request) tr (response, g')) :
    executions apdu tr ≤ 2 ∧ (¬ AnswerLost tr → executions apdu tr ≤ 1) := by
  by_cases hc : ∃ cmd, request.command = some (.apdu cmd)
  · obtain ⟨cmd, hcmd⟩ := hc
    obtain ⟨outcome, htransmit, -⟩ := yields_processCommand_apdu hcmd h
    exact CardConnections.executions_of_yields_transmitApdu htransmit
  · have hnil : exchanges tr = [] :=
      exchanges_of_silent (silent_processCommand g sessionId fun cmd hcmd => hc ⟨cmd, hcmd⟩) h
    have hzero : executions apdu tr = 0 := executions_of_exchanges_eq_nil hnil
    omega

/-- **Execution of an APDU.**  One call of `transmit` has the card execute the
APDU at most twice, and at most once unless the first `card.transmit` returned
an error although the card had executed it.  The same holds of one
`CommandRequest` processed by the client, for any APDU. -/
theorem CardConnectionManager.executions_transmit :
    (∀ (m m' : CardConnectionManager) (reader : String) (apdu : Bytes) (tr : List PcscEvent)
        (result : Except ClientError Bytes),
      Yields (m.transmit reader apdu) tr (result, m') →
        executions apdu tr ≤ 2 ∧ (¬ AnswerLost tr → executions apdu tr ≤ 1)) ∧
    (∀ (g g' : CardConnections) (sessionId : String) (request : CommandRequest) (apdu : Bytes)
        (tr : List PcscEvent) (response : CommandResponse),
      Yields (GrpcClient.processCommand g sessionId request) tr (response, g') →
        executions apdu tr ≤ 2 ∧ (¬ AnswerLost tr → executions apdu tr ≤ 1)) := by
  constructor
  · intro m m' reader apdu tr result h
    exact executions_of_yields_transmit h
  · intro g g' sessionId request apdu tr response h
    exact GrpcClient.executions_of_yields_processCommand h

/-- A VERIFY command whose first answer is lost. -/
def verifyRun : (Except ClientError Bytes × CardConnectionManager) × List PcscEvent × ℕ :=
  exec (flakyCard 0 true)
    (CardConnectionManager.transmit ⟨0, ∅⟩ "Reader" [0x00, 0x20, 0x00, 0x80]) 0

/-- The card executes the command twice: a PIN would be counted twice. -/
theorem CardConnectionManager.not_executions_le_one_verifyRun :
    ¬ ∀ (m m' : CardConnectionManager) (reader : String) (apdu : Bytes) (tr : List PcscEvent)
        (result : Except ClientError Bytes),
      Yields (m.transmit reader apdu) tr (result, m') → executions apdu tr ≤ 1 := by
  intro h
  have hle := h ⟨0, ∅⟩ verifyRun.1.2 "Reader" [0x00, 0x20, 0x00, 0x80] verifyRun.2.1
    verifyRun.1.1 (yields_exec _ _ _)
  revert hle
  decide

/-- The run of `verifyRun`, and the same command when the answer is not lost. -/
theorem CardConnectionManager.executions_transmit_verifyRun :
    executions [0x00, 0x20, 0x00, 0x80] verifyRun.2.1 ≤ 2 ∧
      executions [0x00, 0x20, 0x00, 0x80]
        (exec (flakyCard 0 false)
          (CardConnectionManager.transmit ⟨0, ∅⟩ "Reader" [0x00, 0x20, 0x00, 0x80]) 0).2.1 ≤ 1 :=
  ⟨(executions_transmit.1 ⟨0, ∅⟩ _ _ _ _ _ (yields_exec _ _ _)).1,
    (executions_transmit.1 ⟨0, ∅⟩ _ _ _ _ _ (yields_exec _ _ _)).2 (by decide)⟩

/-! ## Runs of calls -/

/-- A call into `pcsc_reader`. -/
inductive CardCall
  | transmitApdu (reader : String) (apdu : Bytes)
  | getAtr (reader : String)
  deriving DecidableEq

/-- The reader of a call. -/
def CardCall.reader : CardCall → String
  | transmitApdu reader _ => reader
  | getAtr reader => reader

/-- The program of a call. -/
def CardCall.program (g : CardConnections) :
    CardCall → PcscProgram (Except ClientError Bytes × CardConnections)
  | transmitApdu reader apdu => g.transmitApdu reader apdu
  | getAtr reader => g.getAtr reader

/-- A call that has returned. -/
structure CallRecord where
  call : CardCall
  trace : List PcscEvent
  result : Except ClientError Bytes

/-- The call returned `Ok`. -/
def CallRecord.Succeeded (r : CallRecord) : Prop := ∃ response, r.result = .ok response

/-- A `card.transmit` of the call failed. -/
def CallRecord.FellBack (r : CallRecord) : Prop := ∃ x ∈ exchanges r.trace, x.answered = false

/-- `Calls g rs g'`: the calls `rs`, one after the other, lead from `g` to `g'`. -/
inductive Calls : CardConnections → List CallRecord → CardConnections → Prop
  | nil (g : CardConnections) : Calls g [] g
  | cons {g g' g'' : CardConnections} {r : CallRecord} {rs : List CallRecord} :
      Yields (r.call.program g) r.trace (r.result, g') → Calls g' rs g'' → Calls g (r :: rs) g''

theorem calls_append_iff {g g' : CardConnections} {rs rs' : List CallRecord} :
    Calls g (rs ++ rs') g' ↔ ∃ g'', Calls g rs g'' ∧ Calls g'' rs' g' := by
  constructor
  · intro h
    induction rs generalizing g with
    | nil => exact ⟨g, .nil g, h⟩
    | cons r rs ih =>
      cases h with
      | cons hr h =>
        obtain ⟨g'', hrs, hrest⟩ := ih h
        exact ⟨g'', .cons hr hrs, hrest⟩
  · rintro ⟨g'', hrs, hrs'⟩
    induction hrs with
    | nil => exact hrs'
    | cons hr _ ih => exact .cons hr (ih hrs')

/-- The connection kept for a reader. -/
def CardConnections.cached (g : CardConnections) (reader : String) : Option ℕ :=
  g.manager.connections.lookup reader

namespace CardConnectionManager

theorem Ranked.transmit {m m' : CardConnectionManager} {reader : String} {apdu : Bytes}
    {tr : List PcscEvent} {result : Except ClientError Bytes} (hm : m.Ranked)
    (h : Yields (m.transmit reader apdu) tr (result, m')) : m'.Ranked := by
  rcases yields_transmit h with ⟨response, -, hattempt⟩ |
    ⟨e, t₁, t₂, t₃, m₁, rfl, hfirst, -, hsecond⟩
  · exact hm.attempt hattempt
  · exact ((hm.attempt hfirst).forget reader).attempt hsecond

/-- A call of `transmit` that succeeds: the card answered over the connection
that is cached afterwards. -/
theorem cached_of_yields_transmit {m m' : CardConnectionManager} {reader : String}
    {apdu response : Bytes} {tr : List PcscEvent}
    (h : Yields (m.transmit reader apdu) tr (.ok response, m')) :
    ∃ card, respondedOn tr = [card] ∧ m'.connections.lookup reader = some card := by
  rcases yields_transmit h with ⟨response, hresult, hattempt⟩ |
    ⟨e, t₁, t₂, t₃, m₁, rfl, hfirst, hdrop, hsecond⟩
  · obtain ⟨card, hx, hcard⟩ := hattempt.of_ok
    exact ⟨card, by rw [respondedOn, hx]; rfl, hcard⟩
  · obtain ⟨card, hx, hcard⟩ := hsecond.of_ok
    refine ⟨card, ?_, hcard⟩
    have hfailed : (exchanges t₁).filter CardExchange.answered = [] := by
      rcases hfirst.answered_of_error with hnil | ⟨x, hx, hanswered⟩
      · rw [hnil]
        rfl
      · simp [hx, hanswered]
    rw [respondedOn, exchanges_append, exchanges_append, hdrop, hx, List.filter_append, hfailed]
    rfl

/-- The connections of the other readers stay. -/
theorem lookup_of_yields_transmit {m m' : CardConnectionManager} {reader other : String}
    {apdu : Bytes} {tr : List PcscEvent} {result : Except ClientError Bytes}
    (h : Yields (m.transmit reader apdu) tr (result, m')) (hne : other ≠ reader) :
    m'.connections.lookup other = m.connections.lookup other := by
  rcases yields_transmit h with ⟨response, -, hattempt⟩ |
    ⟨e, t₁, t₂, t₃, m₁, rfl, hfirst, -, hsecond⟩
  · exact hattempt.lookup_of_ne hne
  · calc m'.connections.lookup other = (m₁.forget reader).connections.lookup other :=
        hsecond.lookup_of_ne hne
      _ = m₁.connections.lookup other := Finmap.lookup_erase_ne hne
      _ = m.connections.lookup other := hfirst.lookup_of_ne hne

/-- A call of `transmit` that succeeds over a cached connection: the connection
is kept, or it failed and a newer one has taken its place. -/
theorem transmit_of_cached {m m' : CardConnectionManager} {reader : String}
    {apdu response : Bytes} {tr : List PcscEvent} {card : ℕ} (hm : m.Ranked)
    (hcard : m.connections.lookup reader = some card)
    (h : Yields (m.transmit reader apdu) tr (.ok response, m')) :
    ∃ card', m'.connections.lookup reader = some card' ∧ card ≤ card' ∧
      (card' = card ↔ ∀ x ∈ exchanges tr, x.answered = true) := by
  rcases yields_transmit h with ⟨response', hresult, hattempt⟩ |
    ⟨e, t₁, t₂, t₃, m₁, rfl, hfirst, hdrop, hsecond⟩
  · obtain ⟨rfl, -⟩ := hattempt.of_cached hcard
    obtain ⟨answering, hx, -⟩ := hattempt.of_ok
    refine ⟨card, hcard, le_rfl, iff_of_true rfl fun x hmem => ?_⟩
    rw [hx, List.mem_singleton] at hmem
    subst hmem
    rfl
  · -- the second attempt is over a connection newer than any in the cache
    obtain ⟨rfl, reply, hx, hreply⟩ := hfirst.of_cached hcard
    have hfailed : (exchangeWith card apdu reply).answered = false := by
      rcases hfirst.answered_of_error with hnil | ⟨y, hy, hanswered⟩
      · simp [hnil] at hx
      · obtain rfl : exchangeWith card apdu reply = y := by simpa [hx] using hy
        exact hanswered
    obtain ⟨card', -, hcard'⟩ := hsecond.of_ok
    have hnew : card' = m₁.connected := by
      generalize hresult : (Except.ok response : Except ClientError Bytes) = result at hsecond
      cases hsecond with
      | unconnected _ _ => simp at hresult
      | replied _ hopen =>
        cases hopen with
        | cached hold => simp [CardConnectionManager.forget] at hold
        | fresh _ _ =>
          simpa [CardConnectionManager.keep, CardConnectionManager.forget] using hcard'.symm
    have hlt : card < card' := hnew ▸ hm reader card hcard
    refine ⟨card', hcard', hlt.le, iff_of_false (by omega) fun hall => ?_⟩
    have := hall (exchangeWith card apdu reply) (by simp [hx])
    simp [hfailed] at this

end CardConnectionManager

theorem CallRecord.not_fellBack_iff {r : CallRecord} :
    ¬ r.FellBack ↔ ∀ x ∈ exchanges r.trace, x.answered = true := by
  unfold FellBack
  push Not
  simp only [ne_eq, Bool.not_eq_false]

/-- What a call does to the manager: it is left alone, or a method runs on it. -/
theorem CardCall.cases_of_yields {g g' : CardConnections} {call : CardCall}
    {tr : List PcscEvent} {result : Except ClientError Bytes}
    (h : Yields (call.program g) tr (result, g')) :
    ((∃ e, result = .error e) ∧ exchanges tr = [] ∧ g' = g) ∨
      ∃ t m', exchanges tr = exchanges t ∧ g'.manager = m' ∧
        ((∃ reader apdu, call = .transmitApdu reader apdu ∧
            Yields (g.manager.transmit reader apdu) t (result, m')) ∨
          ∃ reader, call = .getAtr reader ∧ Yields (g.manager.getAtr reader) t (result, m')) := by
  cases call with
  | transmitApdu reader apdu =>
    rcases CardConnections.yields_withManager h with hnone | ⟨t₁, t₂, m', rfl, hnil, hm, rfl⟩
    · exact Or.inl hnone
    · refine Or.inr ⟨t₂, m', ?_, rfl, Or.inl ⟨reader, apdu, rfl, hm⟩⟩
      rw [exchanges_append, hnil, List.nil_append]
  | getAtr reader =>
    rcases CardConnections.yields_withManager h with hnone | ⟨t₁, t₂, m', rfl, hnil, hm, rfl⟩
    · exact Or.inl hnone
    · refine Or.inr ⟨t₂, m', ?_, rfl, Or.inr ⟨reader, rfl, hm⟩⟩
      rw [exchanges_append, hnil, List.nil_append]

theorem CardCall.ranked {g g' : CardConnections} {call : CardCall} {tr : List PcscEvent}
    {result : Except ClientError Bytes} (hg : g.manager.Ranked)
    (h : Yields (call.program g) tr (result, g')) : g'.manager.Ranked := by
  rcases cases_of_yields h with ⟨-, -, rfl⟩ |
    ⟨t, m', -, hm', ⟨reader, apdu, rfl, hm⟩ | ⟨reader, rfl, hm⟩⟩
  · exact hg
  · rw [hm']
    exact hg.transmit hm
  · rw [hm']
    rcases (CardConnectionManager.yields_getAtr hm).2 with rfl | ⟨t', card, hopen⟩
    · exact hg
    · exact hg.opens hopen

theorem Calls.ranked {g g' : CardConnections} {rs : List CallRecord} (h : Calls g rs g')
    (hg : g.manager.Ranked) : g'.manager.Ranked := by
  induction h with
  | nil => exact hg
  | cons hr _ ih => exact ih (CardCall.ranked hg hr)

/-- **One call and the cached connection** of a reader.  If the call succeeds, or
is for another reader, there is a cached connection afterwards; it is the same
one unless the call is for the reader and fell back. -/
theorem CardCall.cached {g g' : CardConnections} {r : CallRecord} {reader : String} {card : ℕ}
    (hg : g.manager.Ranked) (hcard : g.cached reader = some card)
    (hok : r.call.reader = reader → r.Succeeded)
    (h : Yields (r.call.program g) r.trace (r.result, g')) :
    ∃ card', g'.cached reader = some card' ∧ card ≤ card' ∧
      (card' = card ↔ (r.call.reader = reader → ¬ r.FellBack)) := by
  have hkept : g'.cached reader = g.cached reader → (r.call.reader = reader → ¬ r.FellBack) →
      ∃ card', g'.cached reader = some card' ∧ card ≤ card' ∧
        (card' = card ↔ (r.call.reader = reader → ¬ r.FellBack)) :=
    fun hsame hnot => ⟨card, hsame.trans hcard, le_rfl, iff_of_true rfl hnot⟩
  rcases cases_of_yields h with ⟨⟨e, he⟩, hnil, rfl⟩ |
    ⟨t, m', htr, hm', ⟨other, apdu, hcall, hm⟩ | ⟨other, hcall, hm⟩⟩
  · exact hkept rfl fun _ => CallRecord.not_fellBack_iff.mpr (by simp [hnil])
  · by_cases hreader : reader = other
    · subst hreader
      have hthis : r.call.reader = reader := by rw [hcall]; rfl
      obtain ⟨response, hresponse⟩ := hok hthis
      rw [hresponse] at hm
      obtain ⟨card', hcard', hle, hiff⟩ :=
        CardConnectionManager.transmit_of_cached hg hcard hm
      refine ⟨card', ?_, hle, hiff.trans ?_⟩
      · rw [CardConnections.cached, hm', hcard']
      · rw [CallRecord.not_fellBack_iff, htr]
        exact ⟨fun hall _ => hall, fun hall => hall hthis⟩
    · refine hkept ?_ fun hthis => absurd (hthis.symm.trans (by rw [hcall]; rfl)) hreader
      rw [CardConnections.cached, hm',
        CardConnectionManager.lookup_of_yields_transmit hm hreader]
      rfl
  · obtain ⟨hnil, hopens⟩ := CardConnectionManager.yields_getAtr hm
    refine hkept ?_ fun _ => CallRecord.not_fellBack_iff.mpr (by simp [htr, hnil])
    rw [CardConnections.cached, hm']
    rcases hopens with rfl | ⟨t', card', hopen⟩
    · rfl
    · by_cases hreader : reader = other
      · subst hreader
        cases hopen with
        | cached _ => rfl
        | fresh hnone _ => simp [CardConnections.cached, hnone] at hcard
      · exact hopen.lookup_of_ne hreader

/-- The same for a run of calls. -/
theorem Calls.cached {g g' : CardConnections} {rs : List CallRecord} {reader : String}
    {card : ℕ} (h : Calls g rs g') (hg : g.manager.Ranked)
    (hcard : g.cached reader = some card)
    (hok : ∀ r ∈ rs, r.call.reader = reader → r.Succeeded) :
    ∃ card', g'.cached reader = some card' ∧ card ≤ card' ∧
      (card' = card ↔ ∀ r ∈ rs, r.call.reader = reader → ¬ r.FellBack) := by
  induction h generalizing card with
  | nil => exact ⟨card, hcard, le_rfl, by simp⟩
  | @cons g g₁ g₂ r rs hr _ ih =>
    obtain ⟨card₁, hcard₁, hle₁, hiff₁⟩ :=
      CardCall.cached hg hcard (hok r (List.mem_cons_self ..)) hr
    obtain ⟨card₂, hcard₂, hle₂, hiff₂⟩ := ih (CardCall.ranked hg hr) hcard₁
      fun r' hr' => hok r' (List.mem_cons_of_mem _ hr')
    refine ⟨card₂, hcard₂, hle₁.trans hle₂, ?_⟩
    rw [List.forall_mem_cons, ← hiff₁, ← hiff₂]
    omega

/-- A call of `transmit_apdu` that succeeds: the card answered over the
connection that is cached afterwards. -/
theorem CallRecord.cached_of_transmitApdu {g g' : CardConnections} {r : CallRecord}
    {reader : String} {apdu : Bytes} (hcall : r.call = .transmitApdu reader apdu)
    (hok : r.Succeeded) (h : Yields (r.call.program g) r.trace (r.result, g')) :
    ∃ card, respondedOn r.trace = [card] ∧ g'.cached reader = some card := by
  obtain ⟨response, hresponse⟩ := hok
  rcases CardCall.cases_of_yields h with ⟨⟨e, he⟩, -, -⟩ |
    ⟨t, m', htr, hm', ⟨other, apdu', hcall', hm⟩ | ⟨other, hcall', -⟩⟩
  · simp [hresponse] at he
  · obtain ⟨rfl, rfl⟩ := CardCall.transmitApdu.inj (hcall.symm.trans hcall')
    rw [hresponse] at hm
    obtain ⟨card, hcard, hlookup⟩ := CardConnectionManager.cached_of_yields_transmit hm
    refine ⟨card, ?_, ?_⟩
    · rw [respondedOn, htr]
      exact hcard
    · rw [CardConnections.cached, hm', hlookup]
  · rw [hcall] at hcall'
    cases hcall'

/-- **Continuity of the card session.**  In a run of calls, take two calls of
`transmit_apdu` on one reader that succeed, with no failing call on that reader
between them.  Both APDUs were executed over one and the same connection if and
only if no call on the reader after the first, up to and including the second,
fell back on its second attempt. -/
theorem Calls.sameConnection_iff {g : CardConnections} {before between after : List CallRecord}
    {first second : CallRecord} {reader : String} {apdu apdu' : Bytes}
    (h : Calls none (before ++ first :: between ++ second :: after) g)
    (hfirst : first.call = .transmitApdu reader apdu) (hfirstOk : first.Succeeded)
    (hsecond : second.call = .transmitApdu reader apdu') (hsecondOk : second.Succeeded)
    (hbetween : ∀ r ∈ between, r.call.reader = reader → r.Succeeded) :
    (∃ card, respondedOn first.trace = [card] ∧ respondedOn second.trace = [card]) ↔
      ∀ r ∈ between ++ [second], r.call.reader = reader → ¬ r.FellBack := by
  rw [List.append_assoc, List.cons_append] at h
  obtain ⟨g₀, hbefore, h⟩ := calls_append_iff.mp h
  cases h with
  | @cons _ g₁ _ _ _ hcall h =>
    obtain ⟨card, hcard, hcached⟩ :=
      CallRecord.cached_of_transmitApdu hfirst hfirstOk hcall
    have hranked₀ : g₀.manager.Ranked := hbefore.ranked (CardConnectionManager.ranked_empty 0)
    have hranked : g₁.manager.Ranked := CardCall.ranked hranked₀ hcall
    obtain ⟨g₂, hmiddle, h⟩ := calls_append_iff.mp h
    cases h with
    | @cons _ g₃ _ _ _ hcall₂ _ =>
      obtain ⟨card₂, hcard₂, hcached₂⟩ :=
        CallRecord.cached_of_transmitApdu hsecond hsecondOk hcall₂
      have hrun : Calls g₁ (between ++ [second]) g₃ :=
        calls_append_iff.mpr ⟨g₂, hmiddle, .cons hcall₂ (.nil g₃)⟩
      have hok : ∀ r ∈ between ++ [second], r.call.reader = reader → r.Succeeded := by
        intro r hr hthis
        rcases List.mem_append.mp hr with hr | hr
        · exact hbetween r hr hthis
        · exact List.mem_singleton.mp hr ▸ hsecondOk
      obtain ⟨card₃, hcached₃, -, hiff⟩ := hrun.cached hranked hcached hok
      obtain rfl : card₂ = card₃ := Option.some.inj (hcached₂.symm.trans hcached₃)
      rw [← hiff, hcard, hcard₂]
      constructor
      · rintro ⟨c, h₁, h₂⟩
        rw [List.singleton_inj.mp h₁, List.singleton_inj.mp h₂]
      · rintro rfl
        exact ⟨card₂, rfl, rfl⟩

/-- An applet is selected, then a PIN verified; the `k`-th `card.transmit` fails. -/
def selectVerifyRun (k : ℕ) : List CallRecord × CardConnections :=
  let select : Bytes := [0x00, 0xA4, 0x04, 0x00]
  let verify : Bytes := [0x00, 0x20, 0x00, 0x80]
  let first := exec (flakyCard k false) (CardConnections.transmitApdu none "Reader" select) 0
  let second :=
    exec (flakyCard k false) (CardConnections.transmitApdu first.1.2 "Reader" verify) first.2.2
  ([⟨.transmitApdu "Reader" select, first.2.1, first.1.1⟩,
    ⟨.transmitApdu "Reader" verify, second.2.1, second.1.1⟩], second.1.2)

theorem calls_selectVerifyRun (k : ℕ) :
    Calls none (selectVerifyRun k).1 (selectVerifyRun k).2 :=
  .cons (yields_exec _ _ _) (.cons (yields_exec _ _ _) (.nil _))

/-- The card is reset before the second call: its second attempt succeeds over a
new connection, on which no applet is selected. -/
theorem Calls.not_sameConnection_selectVerifyRun :
    ¬ ∀ (g : CardConnections) (before between after : List CallRecord)
        (first second : CallRecord) (reader : String) (apdu apdu' : Bytes),
      Calls none (before ++ first :: between ++ second :: after) g →
        first.call = .transmitApdu reader apdu → first.Succeeded →
        second.call = .transmitApdu reader apdu' → second.Succeeded →
        (∀ r ∈ between, r.call.reader = reader → r.Succeeded) →
          ∃ card, respondedOn first.trace = [card] ∧ respondedOn second.trace = [card] := by
  intro h
  obtain ⟨card, h₁, h₂⟩ := h (selectVerifyRun 1).2 [] [] []
    ((selectVerifyRun 1).1.get ⟨0, by decide⟩) ((selectVerifyRun 1).1.get ⟨1, by decide⟩)
    "Reader" [0x00, 0xA4, 0x04, 0x00] [0x00, 0x20, 0x00, 0x80] (calls_selectVerifyRun 1)
    rfl ⟨[0x90, 0x00], by decide⟩ rfl ⟨[0x90, 0x00], by decide⟩ (by simp)
  have hfirst : respondedOn ((selectVerifyRun 1).1.get ⟨0, by decide⟩).trace = [0] := by decide
  have hsecond : respondedOn ((selectVerifyRun 1).1.get ⟨1, by decide⟩).trace = [1] := by decide
  have hcard : [0] = [1] := (hfirst.symm.trans h₁).trans (h₂.symm.trans hsecond)
  simp at hcard

/-- With a card that does not fail, both APDUs run over the first connection. -/
theorem Calls.sameConnection_selectVerifyRun :
    ∃ card, respondedOn ((selectVerifyRun 5).1.get ⟨0, by decide⟩).trace = [card] ∧
      respondedOn ((selectVerifyRun 5).1.get ⟨1, by decide⟩).trace = [card] :=
  (@Calls.sameConnection_iff (selectVerifyRun 5).2 [] [] []
    ((selectVerifyRun 5).1.get ⟨0, by decide⟩) ((selectVerifyRun 5).1.get ⟨1, by decide⟩)
    "Reader" [0x00, 0xA4, 0x04, 0x00] [0x00, 0x20, 0x00, 0x80] (calls_selectVerifyRun 5)
    rfl ⟨[0x90, 0x00], by decide⟩ rfl ⟨[0x90, 0x00], by decide⟩ (by simp)).mpr
      fun r hr _ => by
        obtain rfl := List.mem_singleton.mp hr
        exact CallRecord.not_fellBack_iff.mpr (by decide)

end RemoteSmartcard
