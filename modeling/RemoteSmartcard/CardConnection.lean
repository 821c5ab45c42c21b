/-
# Runs of the card access

What a call of the connection manager can do, read off its trace: which APDUs
it puts to the card, over which connections, and what it leaves in the cache.

* `yields_getOrConnect`, `yields_tryTransmit`, `yields_transmit` — the inversion
  rules, one for each function;
* `Ranked` — the cache only holds connections that have been made, so a new
  connection is none of the cached ones.
-/
import RemoteSmartcard.PcscReader

namespace RemoteSmartcard

open Program hiding pure

/-! ## The APDUs put to the card -/

/-- An APDU put to the card over a connection, with the reply. -/
structure CardExchange where
  card : ℕ
  apdu : Bytes
  reply : Except TransmitFailure Bytes
  deriving DecidableEq

/-- The card has executed the APDU: it answered, or the answer was lost. -/
def CardExchange.executed (x : CardExchange) : Bool :=
  match x.reply with
  | .ok _ => true
  | .error failure => failure.executed

/-- The card answered. -/
def CardExchange.answered (x : CardExchange) : Bool :=
  match x.reply with
  | .ok _ => true
  | .error _ => false

/-- The exchange an event is, if it is one. -/
def exchangeOf : PcscEvent → Option CardExchange
  | ⟨.transmit card apdu _, .ok response⟩ => some ⟨card, apdu, .ok response.1⟩
  | ⟨.transmit card apdu _, .error failure⟩ => some ⟨card, apdu, .error failure⟩
  | _ => none

/-- The exchanges of a trace. -/
def exchanges (tr : List PcscEvent) : List CardExchange := tr.filterMap exchangeOf

@[simp] theorem exchanges_nil : exchanges [] = [] := rfl

@[simp] theorem exchanges_append (t₁ t₂ : List PcscEvent) :
    exchanges (t₁ ++ t₂) = exchanges t₁ ++ exchanges t₂ := List.filterMap_append

/-- The connections over which the card answered. -/
def respondedOn (tr : List PcscEvent) : List ℕ :=
  ((exchanges tr).filter CardExchange.answered).map CardExchange.card

/-- The exchange of a `transmit` with its reply. -/
def exchangeWith {buffer : ℕ} (card : ℕ) (apdu : Bytes) (reply : TransmitReply buffer) :
    CardExchange :=
  ⟨card, apdu, reply.map Subtype.val⟩

/-- A call of `transmit` is one exchange with the card. -/
theorem exchanges_transmit {buffer : ℕ} (card : ℕ) (apdu : Bytes) (reply : TransmitReply buffer) :
    exchanges [⟨.transmit card apdu buffer, reply⟩] = [exchangeWith card apdu reply] := by
  cases reply <;> rfl

/-! ## Operations that put nothing to the card -/

/-- The operation puts no APDU to the card. -/
def PcscOp.Silent : PcscOp → Prop
  | .transmit _ _ _ => False
  | _ => True

/-- Other calls are no exchange. -/
theorem exchangeOf_silent {e : PcscEvent} (h : e.op.Silent) : exchangeOf e = none := by
  rcases e with ⟨o, r⟩
  cases o with
  | transmit card apdu buffer => exact absurd h id
  | _ => rfl

/-- So a trace of other calls has none. -/
theorem exchanges_eq_nil {tr : List PcscEvent} (h : ∀ e ∈ tr, e.op.Silent) : exchanges tr = [] :=
  List.filterMap_eq_nil_iff.mpr fun e he => exchangeOf_silent (h e he)

/-- A silent program puts nothing to the card. -/
theorem exchanges_of_silent {Alpha : Type} {p : PcscProgram Alpha} {tr : List PcscEvent}
    {a : Alpha} (hp : Uses PcscOp.Silent p) (h : Yields p tr a) : exchanges tr = [] :=
  exchanges_eq_nil (hp.follows h).1

/-! ## Connecting -/

/-- The operations of `connect_with_retry`. -/
def PcscOp.IsConnecting : PcscOp → Prop
  | .connect _ => True
  | .sleep _ => True
  | _ => False

/-- An attempt to connect sends nothing to the card. -/
theorem PcscOp.IsConnecting.silent {o : PcscOp} (h : o.IsConnecting) : o.Silent := by
  cases o with
  | transmit card apdu buffer => exact h
  | _ => trivial

/-- A trace of attempts to connect and of the sleeps between them. -/
def Connecting (tr : List PcscEvent) : Prop := ∀ e ∈ tr, e.op.IsConnecting

/-- Connecting puts nothing to the card. -/
theorem Connecting.exchanges_eq_nil {tr : List PcscEvent} (h : Connecting tr) : exchanges tr = [] :=
  RemoteSmartcard.exchanges_eq_nil fun e he => (h e he).silent

namespace CardConnectionManager

/-- The attempts to connect do nothing but connect and sleep. -/
theorem uses_connectAttempts (reader : String) (n : ℕ) :
    Uses PcscOp.IsConnecting (connectAttempts reader n) := by
  induction n with
  | zero => exact trivial
  | succ n ih =>
    have hretry : Uses PcscOp.IsConnecting
        ((PcscOp.doSleep retryDelayMs).bind fun _ => connectAttempts reader n) :=
      .perform_bind trivial fun _ => ih
    refine .perform_bind trivial fun answer => ?_
    match answer with
    | .ok () => exact trivial
    | .error ⟨.sharingViolation, _⟩ =>
      by_cases hn : 0 < n
      · simpa [hn] using hretry
      · simp [hn]
    | .error ⟨.readerUnavailable, _⟩ =>
      by_cases hn : 0 < n
      · simpa [hn] using hretry
      · simp [hn]
    | .error ⟨.other, _⟩ => exact trivial

/-- `connect_with_retry` does nothing else either. -/
theorem connecting_connectWithRetry {reader : String} {tr : List PcscEvent}
    {result : Except ClientError Unit} (h : Yields (connectWithRetry reader) tr result) :
    Connecting tr :=
  (Uses.follows (uses_connectAttempts reader maxRetries) h).1

/-- `get_or_connect` sends nothing to the card. -/
theorem silent_getOrConnect (m : CardConnectionManager) (reader : String) :
    Uses PcscOp.Silent (m.getOrConnect reader) := by
  unfold getOrConnect
  split
  · trivial
  · split
    · trivial
    · rename_i readerCstr _
      have hconnect : Uses PcscOp.Silent (connectWithRetry readerCstr) :=
        (uses_connectAttempts readerCstr maxRetries).mono fun _ => PcscOp.IsConnecting.silent
      refine hconnect.bind fun result => ?_
      match result with
      | .ok () => trivial
      | .error e => trivial

/-- `get_atr` sends no APDU. -/
theorem silent_getAtr (m : CardConnectionManager) (reader : String) :
    Uses PcscOp.Silent (m.getAtr reader) := by
  refine (silent_getOrConnect m reader).bind fun result => ?_
  obtain ⟨found, m'⟩ := result
  match found with
  | .error e => trivial
  | .ok card =>
    refine .perform_bind trivial fun answer => ?_
    match answer with
    | .ok atr => trivial
    | .error e => trivial

/-- `Opens m reader tr card m'`: along `tr`, `get_or_connect` comes by the
connection `card` for the reader, from the cache or newly made, and leaves the
manager `m'`. -/
inductive Opens (m : CardConnectionManager) (reader : String) :
    List PcscEvent → ℕ → CardConnectionManager → Prop
  | cached {card : ℕ} : m.connections.lookup reader = some card → Opens m reader [] card m
  | fresh {tr : List PcscEvent} : m.connections.lookup reader = none → Connecting tr →
      Opens m reader tr m.connected (m.keep reader)

/-- **`get_or_connect`**: a connection, or an error that leaves the manager as
it was, without a connection for the reader. -/
theorem yields_getOrConnect {m m' : CardConnectionManager} {reader : String}
    {tr : List PcscEvent} {result : Except ClientError ℕ}
    (h : Yields (m.getOrConnect reader) tr (result, m')) :
    (∃ card, result = .ok card ∧ Opens m reader tr card m') ∨
      (∃ e, result = .error e) ∧ m' = m ∧ m.connections.lookup reader = none ∧
        Connecting tr := by
  unfold getOrConnect at h
  split at h
  · rename_i card hcard
    obtain ⟨rfl, heq⟩ := yields_pure_iff.mp h
    injection heq with hresult hm
    subst hm
    exact Or.inl ⟨card, hresult, .cached hcard⟩
  · rename_i hnone
    split at h
    · rename_i e he
      obtain ⟨rfl, heq⟩ := yields_pure_iff.mp h
      injection heq with hresult hm
      exact Or.inr ⟨⟨_, hresult⟩, hm, hnone, by simp [Connecting]⟩
    · obtain ⟨t₁, t₂, answer, rfl, hconnect, h⟩ := yields_bind_iff.mp h
      have hconnecting := connecting_connectWithRetry hconnect
      match answer with
      | .error e =>
        obtain ⟨rfl, heq⟩ := yields_pure_iff.mp h
        injection heq with hresult hm
        exact Or.inr ⟨⟨e, hresult⟩, hm, hnone, by simpa using hconnecting⟩
      | .ok () =>
        obtain ⟨rfl, heq⟩ := yields_pure_iff.mp h
        injection heq with hresult hm
        refine Or.inl ⟨m.connected, hresult, ?_⟩
        rw [List.append_nil, hm]
        exact .fresh hnone hconnecting

/-- Getting at a connection is no exchange with the card. -/
theorem Opens.exchanges_eq_nil {m m' : CardConnectionManager} {reader : String}
    {tr : List PcscEvent}
    {card : ℕ} (h : Opens m reader tr card m') : exchanges tr = [] := by
  cases h with
  | cached => rfl
  | fresh _ htr => exact htr.exchanges_eq_nil

/-- The connection is in the cache afterwards. -/
theorem Opens.lookup {m m' : CardConnectionManager} {reader : String} {tr : List PcscEvent}
    {card : ℕ} (h : Opens m reader tr card m') : m'.connections.lookup reader = some card := by
  cases h with
  | cached hcard => exact hcard
  | fresh _ _ => simp [keep]

/-- The connections of the other readers stay. -/
theorem Opens.lookup_of_ne {m m' : CardConnectionManager} {reader other : String}
    {tr : List PcscEvent} {card : ℕ} (h : Opens m reader tr card m') (hne : other ≠ reader) :
    m'.connections.lookup other = m.connections.lookup other := by
  cases h with
  | cached _ => rfl
  | fresh _ _ => simp [keep, Finmap.lookup_insert_of_ne _ hne]

/-! ## One attempt to transmit -/

/-- `Attempt m reader apdu tr result m'`: along `tr`, `try_transmit` comes to no
connection, or puts the APDU to the card once. -/
inductive Attempt (m : CardConnectionManager) (reader : String) (apdu : Bytes) :
    List PcscEvent → Except ClientError Bytes → CardConnectionManager → Prop
  | unconnected {tr : List PcscEvent} {e : ClientError} :
      m.connections.lookup reader = none → Connecting tr → Attempt m reader apdu tr (.error e) m
  | replied {tr : List PcscEvent} {card : ℕ} {m' : CardConnectionManager}
      (reply : TransmitReply responseBuffer) : Opens m reader tr card m' →
      Attempt m reader apdu (tr ++ [⟨.transmit card apdu responseBuffer, reply⟩])
        (replyResult reply) m'

/-- **`try_transmit`**. -/
theorem yields_tryTransmit {m m' : CardConnectionManager} {reader : String} {apdu : Bytes}
    {tr : List PcscEvent} {result : Except ClientError Bytes}
    (h : Yields (m.tryTransmit reader apdu) tr (result, m')) :
    Attempt m reader apdu tr result m' := by
  obtain ⟨t₁, t₂, ⟨found, m₁⟩, rfl, hopen, hrest⟩ := yields_bind_iff.mp h
  rcases yields_getOrConnect hopen with ⟨card, rfl, hcard⟩ | ⟨⟨e, rfl⟩, rfl, hnone, htr⟩
  · obtain ⟨reply, t₃, rfl, hret⟩ := yields_perform_bind_iff.mp hrest
    obtain ⟨rfl, heq⟩ := yields_pure_iff.mp hret
    injection heq with hresult hm
    rw [hresult, hm]
    exact .replied reply hcard
  · obtain ⟨rfl, heq⟩ := yields_pure_iff.mp hrest
    injection heq with hresult hm
    rw [hresult, hm, List.append_nil]
    exact .unconnected hnone htr

/-- An attempt puts at most this one APDU to the card. -/
theorem Attempt.exchanges_cases {m m' : CardConnectionManager} {reader : String} {apdu : Bytes}
    {tr : List PcscEvent} {result : Except ClientError Bytes}
    (h : Attempt m reader apdu tr result m') :
    exchanges tr = [] ∨ ∃ x, exchanges tr = [x] ∧ x.apdu = apdu := by
  cases h with
  | unconnected _ htr => exact Or.inl htr.exchanges_eq_nil
  | @replied t card _ reply hopen =>
    refine Or.inr ⟨exchangeWith card apdu reply, ?_, rfl⟩
    rw [exchanges_append, hopen.exchanges_eq_nil, exchanges_transmit, List.nil_append]

/-- A successful attempt: the card answered over the connection that is cached
afterwards. -/
theorem Attempt.of_ok {m m' : CardConnectionManager} {reader : String} {apdu response : Bytes}
    {tr : List PcscEvent} (h : Attempt m reader apdu tr (.ok response) m') :
    ∃ card, exchanges tr = [⟨card, apdu, .ok response⟩] ∧
      m'.connections.lookup reader = some card := by
  generalize hresult : (Except.ok response : Except ClientError Bytes) = result at h
  cases h with
  | unconnected _ _ => simp at hresult
  | replied reply hopen =>
    match reply with
    | .error failure => simp [replyResult] at hresult
    | .ok r =>
      obtain rfl : response = r.1 := by simpa [replyResult] using hresult
      refine ⟨_, ?_, hopen.lookup⟩
      rw [exchanges_append, hopen.exchanges_eq_nil]
      rfl

/-- An attempt over a cached connection. -/
theorem Attempt.of_cached {m m' : CardConnectionManager} {reader : String} {apdu : Bytes}
    {card : ℕ} {tr : List PcscEvent} {result : Except ClientError Bytes}
    (h : Attempt m reader apdu tr result m') (hcard : m.connections.lookup reader = some card) :
    m' = m ∧ ∃ reply : TransmitReply responseBuffer,
      exchanges tr = [exchangeWith card apdu reply] ∧ result = replyResult reply := by
  cases h with
  | unconnected hnone _ => simp [hnone] at hcard
  | replied reply hopen =>
    cases hopen with
    | cached hcard' =>
      obtain rfl : card = _ := Option.some.inj (hcard.symm.trans hcard')
      exact ⟨rfl, reply, by rw [List.nil_append, exchanges_transmit], rfl⟩
    | fresh hnone _ => simp [hnone] at hcard

/-- An attempt leaves the connections to other readers cached. -/
theorem Attempt.lookup_of_ne {m m' : CardConnectionManager} {reader other : String}
    {apdu : Bytes} {tr : List PcscEvent} {result : Except ClientError Bytes}
    (h : Attempt m reader apdu tr result m') (hne : other ≠ reader) :
    m'.connections.lookup other = m.connections.lookup other := by
  cases h with
  | unconnected _ _ => rfl
  | replied _ hopen => exact hopen.lookup_of_ne hne

/-! ## Disconnecting and transmitting -/

/-- The manager without the connection of a reader. -/
def forget (m : CardConnectionManager) (reader : String) : CardConnectionManager :=
  { m with connections := m.connections.erase reader }

/-- **`disconnect`**: the connection is gone, and nothing is put to the card. -/
theorem yields_disconnect {m m' : CardConnectionManager} {reader : String} {tr : List PcscEvent}
    (h : Yields (m.disconnect reader) tr m') :
    exchanges tr = [] ∧ m' = m.forget reader := by
  unfold disconnect at h
  split at h
  · obtain ⟨answer, t, rfl, hret⟩ := yields_perform_bind_iff.mp h
    obtain ⟨rfl, rfl⟩ := yields_pure_iff.mp hret
    exact ⟨rfl, rfl⟩
  · rename_i hnone
    obtain ⟨rfl, rfl⟩ := yields_pure_iff.mp h
    refine ⟨rfl, ?_⟩
    have herase : m'.connections.erase reader = m'.connections := by
      apply Finmap.ext_lookup
      intro other
      by_cases hother : other = reader
      · rw [hother, Finmap.lookup_erase, hnone]
      · rw [Finmap.lookup_erase_ne hother]
    rw [forget, herase]

/-- **`transmit`**: one attempt that succeeds, or a failed attempt, a disconnect
and a second attempt that settles the result. -/
theorem yields_transmit {m m' : CardConnectionManager} {reader : String} {apdu : Bytes}
    {tr : List PcscEvent} {result : Except ClientError Bytes}
    (h : Yields (m.transmit reader apdu) tr (result, m')) :
    (∃ response, result = .ok response ∧ Attempt m reader apdu tr (.ok response) m') ∨
      ∃ (e : ClientError) (t₁ t₂ t₃ : List PcscEvent) (m₁ : CardConnectionManager),
        tr = t₁ ++ (t₂ ++ t₃) ∧ Attempt m reader apdu t₁ (.error e) m₁ ∧ exchanges t₂ = [] ∧
          Attempt (m₁.forget reader) reader apdu t₃ result m' := by
  obtain ⟨t₁, t₂, ⟨first, m₁⟩, rfl, hfirst, hrest⟩ := yields_bind_iff.mp h
  have hattempt := yields_tryTransmit hfirst
  match first with
  | .ok response =>
    obtain ⟨rfl, heq⟩ := yields_pure_iff.mp hrest
    injection heq with hresult hm
    rw [hm, List.append_nil]
    exact Or.inl ⟨response, hresult, hattempt⟩
  | .error e =>
    obtain ⟨t₃, t₄, m₂, rfl, hdisconnect, hretry⟩ := yields_bind_iff.mp hrest
    obtain ⟨hnone, rfl⟩ := yields_disconnect hdisconnect
    exact Or.inr ⟨e, t₁, t₃, t₄, m₁, rfl, hattempt, hnone, yields_tryTransmit hretry⟩

/-- **`get_atr`**: nothing is put to the card; a connection that was cached stays. -/
theorem yields_getAtr {m m' : CardConnectionManager} {reader : String} {tr : List PcscEvent}
    {result : Except ClientError Bytes} (h : Yields (m.getAtr reader) tr (result, m')) :
    exchanges tr = [] ∧ (m' = m ∨ ∃ t card, Opens m reader t card m') := by
  obtain ⟨t₁, t₂, ⟨found, m₁⟩, rfl, hopen, hrest⟩ := yields_bind_iff.mp h
  rcases yields_getOrConnect hopen with ⟨card, rfl, hcard⟩ | ⟨⟨e, rfl⟩, rfl, hnone, htr⟩
  · obtain ⟨answer, t₃, rfl, hret⟩ := yields_perform_bind_iff.mp hrest
    have hend : t₃ = [] ∧ m' = m₁ := by
      match answer with
      | .ok atr =>
        have hpure := yields_pure_iff.mp hret
        exact ⟨hpure.1, (Prod.mk.inj hpure.2).2⟩
      | .error e =>
        have hpure := yields_pure_iff.mp hret
        exact ⟨hpure.1, (Prod.mk.inj hpure.2).2⟩
    obtain ⟨rfl, rfl⟩ := hend
    refine ⟨?_, Or.inr ⟨t₁, card, hcard⟩⟩
    rw [exchanges_append, hcard.exchanges_eq_nil]
    rfl
  · obtain ⟨rfl, heq⟩ := yields_pure_iff.mp hrest
    injection heq with hresult hm
    exact ⟨by rw [List.append_nil, htr.exchanges_eq_nil], Or.inl hm⟩

/-! ## Ranks -/

/-- The cache only holds connections that have been made. -/
def Ranked (m : CardConnectionManager) : Prop :=
  ∀ reader card, m.connections.lookup reader = some card → card < m.connected

/-- An empty cache holds none. -/
theorem ranked_empty (n : ℕ) : Ranked ⟨n, ∅⟩ := by
  intro reader card hcard
  simp at hcard

/-- The connection that is kept has just been made. -/
theorem Ranked.keep {m : CardConnectionManager} (h : m.Ranked) (reader : String) :
    (m.keep reader).Ranked := by
  intro other card hcard
  show card < m.connected + 1
  by_cases hother : other = reader
  · subst hother
    have : m.connected = card := by simpa [CardConnectionManager.keep] using hcard
    omega
  · have := h other card (by
      simpa [CardConnectionManager.keep, Finmap.lookup_insert_of_ne _ hother] using hcard)
    omega

/-- Forgetting a connection leaves the others. -/
theorem Ranked.forget {m : CardConnectionManager} (h : m.Ranked) (reader : String) :
    (m.forget reader).Ranked := by
  intro other card hcard
  by_cases hother : other = reader
  · subst hother
    simp [CardConnectionManager.forget] at hcard
  · apply h other card
    simpa [CardConnectionManager.forget, Finmap.lookup_erase_ne hother] using hcard

/-- Getting at a connection keeps it so. -/
theorem Ranked.opens {m m' : CardConnectionManager} {reader : String} {tr : List PcscEvent}
    {card : ℕ} (h : m.Ranked) (hopen : Opens m reader tr card m') : m'.Ranked := by
  cases hopen with
  | cached _ => exact h
  | fresh _ _ => exact h.keep reader

/-- So does an attempt to transmit. -/
theorem Ranked.attempt {m m' : CardConnectionManager} {reader : String} {apdu : Bytes}
    {tr : List PcscEvent} {result : Except ClientError Bytes} (h : m.Ranked)
    (hattempt : Attempt m reader apdu tr result m') : m'.Ranked := by
  cases hattempt with
  | unconnected _ _ => exact h
  | replied _ hopen => exact h.opens hopen

end CardConnectionManager

/-! ## The manager behind the lock -/

namespace CardConnections

/-- The manager `ensure_manager` provides when it succeeds. -/
def manager (g : CardConnections) : CardConnectionManager := g.getD ⟨0, ∅⟩

/-- A method of the manager is run on the manager there is; when there is none
and PC/SC is not available, nothing happens. -/
theorem yields_withManager {g g' : CardConnections}
    {method : CardConnectionManager →
      PcscProgram (Except ClientError Bytes × CardConnectionManager)}
    {tr : List PcscEvent} {result : Except ClientError Bytes}
    (h : Yields (g.withManager method) tr (result, g')) :
    ((∃ e, result = .error e) ∧ exchanges tr = [] ∧ g' = g) ∨
      ∃ t₁ t₂ m', tr = t₁ ++ t₂ ∧ exchanges t₁ = [] ∧
        Yields (method g.manager) t₂ (result, m') ∧ g' = some m' := by
  obtain ⟨t₁, t₂, ensured, rfl, hensure, hrest⟩ := yields_bind_iff.mp h
  have hmanager : exchanges t₁ = [] ∧ ∀ m, ensured = .ok m → m = g.manager := by
    match g with
    | some m =>
      obtain ⟨rfl, rfl⟩ := yields_pure_iff.mp hensure
      exact ⟨rfl, fun m' hm' => (Except.ok.inj hm').symm⟩
    | none =>
      obtain ⟨answer, t, rfl, hret⟩ := yields_perform_bind_iff.mp hensure
      match answer with
      | .ok () =>
        obtain ⟨rfl, rfl⟩ := yields_pure_iff.mp hret
        exact ⟨rfl, fun m' hm' => (Except.ok.inj hm').symm⟩
      | .error e =>
        obtain ⟨rfl, rfl⟩ := yields_pure_iff.mp hret
        exact ⟨rfl, fun m' hm' => by simp at hm'⟩
  match ensured with
  | .error e =>
    obtain ⟨rfl, heq⟩ := yields_pure_iff.mp hrest
    injection heq with hresult hg
    exact Or.inl ⟨⟨e, hresult⟩, by rw [List.append_nil, hmanager.1], hg⟩
  | .ok m =>
    obtain ⟨t₃, t₄, ⟨r, m'⟩, rfl, hmethod, hret⟩ := yields_bind_iff.mp hrest
    obtain ⟨rfl, heq⟩ := yields_pure_iff.mp hret
    injection heq with hresult hg
    obtain rfl := hmanager.2 m rfl
    exact Or.inr ⟨t₁, t₃, m', by rw [List.append_nil], hmanager.1, hresult ▸ hmethod, hg⟩

end CardConnections

end RemoteSmartcard
