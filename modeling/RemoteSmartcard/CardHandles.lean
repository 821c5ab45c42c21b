/-
# The PC/SC handles of a client, over its whole life

`CardProtocol` is about one reader and one call.  Here are all calls into PC/SC that a
client process makes through its card cache in a run, whatever commands it carries out and
however often it connects again, against the table of the handles that PC/SC has given
out (`Handles`).  `list_readers` has a context of its own at every look-up, opens no card
with it, and is not among these calls: its readers are what `getReaderInfo` is given.

* `handles_of_run` — a handle is used and dropped only while it is open, there is one
  open handle for each reader at most, and the open handles are those of the cache;
* `readers_apart` — an action touches the connections to the readers it is for, and no others;
* `card_access_bounded` — how often a run connects and transmits and how long it sleeps,
  in the commands carried out and the readers looked at.
-/
import RemoteSmartcard.CardProtocol
import RemoteSmartcard.ClientProcess
import RemoteSmartcard.ProtocolTrace
import RemoteSmartcard.StepRun

namespace RemoteSmartcard

open Program hiding pure

/-! ## The handles given out -/

/-- What PC/SC has given out to the card cache: whether there is a context, the rank of the
next connection, and for each open connection the reader whose card it is to. -/
structure Handles where
  context : Bool
  next : ℕ
  live : ℕ → Option String

namespace Handles

/-- Nothing has been given out. -/
def none : Handles := ⟨false, 0, fun _ => Option.none⟩

/-- The connection just made. -/
def opened (H : Handles) (reader : String) : Handles :=
  { H with next := H.next + 1, live := Function.update H.live H.next (some reader) }

/-- The connection dropped. -/
def closed (H : Handles) (card : ℕ) : Handles :=
  { H with live := Function.update H.live card Option.none }

/-- A connection is used only while it is open, and made only with a context and while
none is open to the same reader; the context of the card cache is established once. -/
def allowed (H : Handles) : PcscOp → Prop
  | .establish => H.context = false
  | .connect reader => H.context = true ∧ ∀ card, H.live card ≠ some reader
  | .transmit card _ _ => (H.live card).isSome
  | .status2 card => (H.live card).isSome
  | .drop card => (H.live card).isSome
  | .sleep _ => True

/-- The handles after a call. -/
def after (H : Handles) : (o : PcscOp) → PcscRet o → Handles
  | .establish, .ok () => { H with context := true }
  | .connect reader, .ok () => H.opened reader
  | .drop card, () => H.closed card
  | _, _ => H

variable {H : Handles} {reader other : String} {card : ℕ}

/-- After a connection is made, the next rank is still free. -/
theorem fresh_opened (H : Handles) (hfresh : ∀ card, H.next ≤ card → H.live card = Option.none) :
    ∀ card, (H.opened reader).next ≤ card → (H.opened reader).live card = Option.none := by
  intro card hcard
  have hlt : H.next < card := hcard
  show Function.update H.live H.next (some reader) card = Option.none
  rw [Function.update_of_ne (by omega)]
  exact hfresh card (by omega)

/-- Dropping a connection frees no rank that was not free. -/
theorem fresh_closed (H : Handles) (hfresh : ∀ card, H.next ≤ card → H.live card = Option.none) :
    ∀ card', (H.closed card).next ≤ card' → (H.closed card).live card' = Option.none := by
  intro card' hcard'
  show Function.update H.live card Option.none card' = Option.none
  rw [Function.update_apply]
  split_ifs
  · rfl
  · exact hfresh card' hcard'

/-- A new connection leaves those to other readers as they are. -/
theorem live_opened_iff (H : Handles) (hfresh : ∀ card, H.next ≤ card → H.live card = Option.none)
    (hne : reader ≠ other) :
    (H.opened reader).live card = some other ↔ H.live card = some other := by
  show Function.update H.live H.next (some reader) card = some other ↔ _
  rw [Function.update_apply]
  split_ifs with hcard
  · subst hcard
    refine iff_of_false (fun heq => hne (Option.some.inj heq)) fun hlive => ?_
    rw [hfresh _ le_rfl] at hlive
    cases hlive
  · exact Iff.rfl

/-- So does dropping one: a connection is that of one reader only. -/
theorem live_closed_iff (H : Handles) {dropped : ℕ} (hdropped : H.live dropped = some reader)
    (hne : reader ≠ other) :
    (H.closed dropped).live card = some other ↔ H.live card = some other := by
  show Function.update H.live dropped Option.none card = some other ↔ _
  rw [Function.update_apply]
  split_ifs with hcard
  · subst hcard
    refine iff_of_false (fun heq => by cases heq) fun hlive => hne ?_
    rw [hdropped] at hlive
    exact Option.some.inj hlive
  · exact Iff.rfl

end Handles

/-- The protocol of the handles. -/
def handleProtocol : Protocol PcscOp PcscRet Handles := ⟨Handles.allowed, Handles.after⟩

/-- The call is about the readers `R` only: no other is connected to, and the connections
used and dropped are to these. -/
def Handles.Concerns (R : String → Prop) (H : Handles) : PcscOp → Prop
  | .connect reader => R reader
  | .transmit card _ _ => ∃ reader, R reader ∧ H.live card = some reader
  | .status2 card => ∃ reader, R reader ∧ H.live card = some reader
  | .drop card => ∃ reader, R reader ∧ H.live card = some reader
  | _ => True

/-- The protocol of calls about the readers `R`. -/
def readerProtocol (R : String → Prop) : Protocol PcscOp PcscRet Handles :=
  handleProtocol.restrict fun H o => H.Concerns R o

/-- The connections to other readers are left alone. -/
theorem live_of_permits {R : String → Prop} {H : Handles} {tr : List PcscEvent}
    (hfresh : ∀ card, H.next ≤ card → H.live card = none) (h : (readerProtocol R).Permits H tr)
    {other : String} (hother : ¬ R other) (card : ℕ) :
    (handleProtocol.after H tr).live card = some other ↔ H.live card = some other := by
  induction tr generalizing H with
  | nil => exact Iff.rfl
  | cons e tr ih =>
    obtain ⟨⟨-, hconcerns⟩, hrest⟩ := h
    obtain ⟨o, answer⟩ := e
    have hrest : (readerProtocol R).Permits (handleProtocol.see H ⟨o, answer⟩) tr := hrest
    rw [after_cons]
    match o, answer with
    | .establish, .ok () => exact ih hfresh hrest
    | .establish, .error e => exact ih hfresh hrest
    | .connect reader, .error e => exact ih hfresh hrest
    | .transmit _ _ _, reply => exact ih hfresh hrest
    | .status2 _, reply => exact ih hfresh hrest
    | .sleep _, () => exact ih hfresh hrest
    | .connect reader, .ok () =>
      have hne : reader ≠ other := fun heq => hother (heq ▸ hconcerns)
      exact (ih (H.fresh_opened hfresh) hrest).trans (H.live_opened_iff hfresh hne)
    | .drop dropped, () =>
      obtain ⟨reader, hreader, hdropped⟩ := hconcerns
      have hne : reader ≠ other := fun heq => hother (heq ▸ hreader)
      exact (ih (H.fresh_closed hfresh) hrest).trans (H.live_closed_iff hdropped hne)

namespace CardConnectionManager

/-- The open connections are those of the cache. -/
structure Mirrors (m : CardConnectionManager) (H : Handles) : Prop where
  context : H.context = true
  next : H.next = m.connected
  live : ∀ card reader, H.live card = some reader ↔ m.connections.lookup reader = some card
  fresh : ∀ card, H.next ≤ card → H.live card = none

variable {m : CardConnectionManager} {H : Handles} {R : String → Prop}

/-- The handle of a cached connection is open, and to its reader. -/
theorem Mirrors.allowed_of_cached (hm : m.Mirrors H) {reader : String} (hR : R reader)
    {card : ℕ} (hcard : m.connections.lookup reader = some card) :
    (H.live card).isSome ∧ ∃ reader, R reader ∧ H.live card = some reader := by
  have hlive := (hm.live card reader).mpr hcard
  exact ⟨Option.isSome_iff_exists.mpr ⟨reader, hlive⟩, reader, hR, hlive⟩

/-- The cache keeps the connection just made. -/
theorem Mirrors.keep (hm : m.Mirrors H) {reader : String}
    (hnone : m.connections.lookup reader = none) : (m.keep reader).Mirrors (H.opened reader) where
  context := hm.context
  next := congrArg (· + 1) hm.next
  live := by
    intro card other
    show (H.opened reader).live card = some other ↔
      (m.connections.insert reader m.connected).lookup other = some card
    by_cases hother : other = reader
    · subst hother
      rw [Finmap.lookup_insert]
      show Function.update H.live H.next (some other) card = some other ↔ _
      rw [Function.update_apply]
      split_ifs with hcard
      · exact iff_of_true rfl (by rw [hcard, hm.next])
      · refine iff_of_false (fun hlive => ?_) fun heq => hcard ?_
        · rw [(hm.live card other).mp hlive] at hnone
          cases hnone
        · rw [hm.next]
          exact (Option.some.inj heq).symm
    · rw [Finmap.lookup_insert_of_ne _ hother, ← hm.live]
      exact H.live_opened_iff hm.fresh (Ne.symm hother)
  fresh := H.fresh_opened hm.fresh

/-- The cache drops an entry along with its connection. -/
theorem Mirrors.erase (hm : m.Mirrors H) {reader : String} {card : ℕ}
    (hcard : m.connections.lookup reader = some card) :
    Mirrors { m with connections := m.connections.erase reader } (H.closed card) where
  context := hm.context
  next := hm.next
  live := by
    intro card' other
    show (H.closed card).live card' = some other ↔
      (m.connections.erase reader).lookup other = some card'
    by_cases hother : other = reader
    · subst hother
      rw [Finmap.lookup_erase]
      refine iff_of_false (fun hlive => ?_) (fun heq => by cases heq)
      change Function.update H.live card none card' = some other at hlive
      rw [Function.update_apply] at hlive
      split_ifs at hlive with hsame
      have hlookup := (hm.live card' other).mp hlive
      rw [hcard] at hlookup
      exact hsame (Option.some.inj hlookup).symm
    · rw [Finmap.lookup_erase_ne hother, ← hm.live]
      exact H.live_closed_iff ((hm.live card reader).mpr hcard) (Ne.symm hother)
  fresh := H.fresh_closed hm.fresh

/-! ## The methods of the manager -/

/-- The attempts to connect open one connection to the reader, or none. -/
theorem obeysHandles_connectAttempts {reader : String} (hcontext : H.context = true)
    (hfree : ∀ card, H.live card ≠ some reader) (hR : R reader) (n : ℕ) :
    Obeys (readerProtocol R)
      (fun result H' => H' = if result = .ok () then H.opened reader else H)
      (connectAttempts reader n) H := by
  induction n with
  | zero => rfl
  | succ n ih =>
    refine .perform_bind ⟨⟨hcontext, hfree⟩, hR⟩ fun answer => ?_
    match answer with
    | .ok () => rfl
    | .error ⟨.other, _⟩ => rfl
    | .error ⟨.sharingViolation, _⟩ =>
      by_cases hn : 0 < n
      · simp only [hn, if_true]
        exact .perform_bind ⟨trivial, trivial⟩ fun _ => ih
      · simp only [hn, if_false]
        rfl
    | .error ⟨.readerUnavailable, _⟩ =>
      by_cases hn : 0 < n
      · simp only [hn, if_true]
        exact .perform_bind ⟨trivial, trivial⟩ fun _ => ih
      · simp only [hn, if_false]
        rfl

/-- `get_or_connect` connects only where no connection is cached, and gives the one that is
cached afterwards. -/
theorem Mirrors.getOrConnect (hm : m.Mirrors H) {reader : String} (hR : R reader) :
    Obeys (readerProtocol R)
      (fun result H' => result.2.Mirrors H' ∧ ∀ card, result.1 = .ok card →
        result.2.connections.lookup reader = some card)
      (m.getOrConnect reader) H := by
  unfold CardConnectionManager.getOrConnect
  split
  · rename_i card hcard
    exact ⟨hm, fun card' heq => by rw [← Except.ok.inj heq]; exact hcard⟩
  · rename_i hnone
    split
    · exact ⟨hm, fun card heq => by cases heq⟩
    · rename_i readerCstr hcstr
      obtain rfl := cString_eq_ok hcstr
      have hfree : ∀ card, H.live card ≠ some readerCstr := by
        intro card hlive
        rw [(hm.live card readerCstr).mp hlive] at hnone
        cases hnone
      refine (obeysHandles_connectAttempts hm.context hfree hR maxRetries).bind
        fun result H' hH' => ?_
      subst hH'
      match result with
      | .error e => exact ⟨hm, fun card heq => by cases heq⟩
      | .ok () =>
        refine ⟨hm.keep hnone, fun card heq => ?_⟩
        rw [← Except.ok.inj heq]
        exact Finmap.lookup_insert _

/-- `try_transmit` uses the connection of the cache. -/
theorem Mirrors.tryTransmit (hm : m.Mirrors H) {reader : String} (hR : R reader)
    (apdu : Bytes) :
    Obeys (readerProtocol R) (fun result H' => result.2.Mirrors H') (m.tryTransmit reader apdu)
      H := by
  refine (hm.getOrConnect hR).bind fun result H' hH' => ?_
  obtain ⟨found, m'⟩ := result
  match found with
  | .error e => exact hH'.1
  | .ok card => exact .perform_bind (hH'.1.allowed_of_cached hR (hH'.2 card rfl)) fun _ => hH'.1

/-- `disconnect` drops the cached connection, if there is one. -/
theorem Mirrors.disconnect (hm : m.Mirrors H) {reader : String} (hR : R reader) :
    Obeys (readerProtocol R) (fun m' H' => m'.Mirrors H') (m.disconnect reader) H := by
  unfold CardConnectionManager.disconnect
  split
  · rename_i card hcard
    exact .perform_bind (hm.allowed_of_cached hR hcard) fun _ => hm.erase hcard
  · exact hm

/-- `transmit` drops the connection that has failed before it makes another. -/
theorem Mirrors.transmit (hm : m.Mirrors H) {reader : String} (hR : R reader) (apdu : Bytes) :
    Obeys (readerProtocol R) (fun result H' => result.2.Mirrors H') (m.transmit reader apdu)
      H := by
  refine (hm.tryTransmit hR apdu).bind fun result H' hH' => ?_
  obtain ⟨first, m'⟩ := result
  match first with
  | .ok response => exact hH'
  | .error e =>
    exact (hH'.disconnect hR).bind fun m'' H'' hH'' => hH''.tryTransmit hR apdu

/-- `get_atr` of the manager asks the connection of the cache. -/
theorem Mirrors.getAtr (hm : m.Mirrors H) {reader : String} (hR : R reader) :
    Obeys (readerProtocol R) (fun result H' => result.2.Mirrors H') (m.getAtr reader) H := by
  refine (hm.getOrConnect hR).bind fun result H' hH' => ?_
  obtain ⟨found, m'⟩ := result
  match found with
  | .error e => exact hH'.1
  | .ok card =>
    refine .perform_bind (hH'.1.allowed_of_cached hR (hH'.2 card rfl)) fun answer => ?_
    match answer with
    | .ok atr => exact hH'.1
    | .error e => exact hH'.1

end CardConnectionManager

namespace CardConnections

/-- Nothing has been given out yet, or the manager mirrors it. -/
def Mirrors : CardConnections → Handles → Prop
  | none, H => H = .none
  | some m, H => m.Mirrors H

/-- A new cache is empty, as PC/SC has given nothing out but the context. -/
theorem mirrors_new : CardConnectionManager.Mirrors ⟨0, ∅⟩ ⟨true, 0, fun _ => none⟩ where
  context := rfl
  next := rfl
  live := by
    intro card reader
    rw [Finmap.lookup_empty]
    exact iff_of_false (fun h => by cases h) (fun h => by cases h)
  fresh := fun _ _ => rfl

variable {g : CardConnections} {H : Handles} {R : String → Prop}

/-- The open connections, in the words of the cache; before there is a manager, none. -/
theorem Mirrors.live (hg : g.Mirrors H) (card : ℕ) (reader : String) :
    H.live card = some reader ↔ g.manager.connections.lookup reader = some card := by
  cases g with
  | none =>
    obtain rfl : H = .none := hg
    refine iff_of_false (fun heq => by cases heq) fun heq => ?_
    rw [CardConnections.manager, Option.getD_none, Finmap.lookup_empty] at heq
    cases heq
  | some m => exact CardConnectionManager.Mirrors.live hg card reader

theorem Mirrors.fresh (hg : g.Mirrors H) : ∀ card, H.next ≤ card → H.live card = none := by
  cases g with
  | none =>
    obtain rfl : H = .none := hg
    exact fun _ _ => rfl
  | some m => exact CardConnectionManager.Mirrors.fresh hg

theorem Mirrors.withManager (hg : g.Mirrors H)
    {method : CardConnectionManager →
      PcscProgram (Except ClientError Bytes × CardConnectionManager)}
    (hmethod : ∀ m H, CardConnectionManager.Mirrors m H →
      Obeys (readerProtocol R) (fun result H' => result.2.Mirrors H') (method m) H) :
    Obeys (readerProtocol R) (fun result H' => CardConnections.Mirrors result.2 H')
      (g.withManager method) H := by
  have hrest : ∀ m H, CardConnectionManager.Mirrors m H →
      Obeys (readerProtocol R) (fun result H' => CardConnections.Mirrors result.2 H')
        ((method m).bind fun result => Program.pure (result.1, some result.2)) H :=
    fun m H hm => (hmethod m H hm).bind fun _ _ hH' => hH'
  cases g with
  | some m => exact hrest m H hg
  | none =>
    obtain rfl : H = .none := hg
    refine .perform_bind ⟨rfl, trivial⟩ fun answer => ?_
    match answer with
    | .ok () => exact hrest _ _ mirrors_new
    | .error e => exact (rfl : Handles.none = .none)

theorem Mirrors.getAtr (hg : g.Mirrors H) {reader : String} (hR : R reader) :
    Obeys (readerProtocol R) (fun result H' => CardConnections.Mirrors result.2 H')
      (g.getAtr reader) H :=
  hg.withManager fun _ _ hm => hm.getAtr hR

theorem Mirrors.transmitApdu (hg : g.Mirrors H) {reader : String} (hR : R reader)
    (apdu : Bytes) :
    Obeys (readerProtocol R) (fun result H' => CardConnections.Mirrors result.2 H')
      (g.transmitApdu reader apdu) H :=
  hg.withManager fun _ _ hm => hm.transmit hR apdu

end CardConnections

/-- `get_reader_info` goes through the readers with the cache in step. -/
theorem CardConnections.Mirrors.getReaderInfo {g : CardConnections} {H : Handles}
    {R : String → Prop} (hg : g.Mirrors H) {readers : List String} (hR : ∀ r ∈ readers, R r) :
    Obeys (readerProtocol R) (fun result H' => CardConnections.Mirrors result.2 H')
      (RemoteSmartcard.getReaderInfo g readers) H := by
  induction readers generalizing g H with
  | nil => exact hg
  | cons reader readers ih =>
    have hrest : ∀ r ∈ readers, R r := fun r hr => hR r (List.mem_cons_of_mem _ hr)
    exact (hg.getAtr (hR reader List.mem_cons_self)).bind fun _ _ hH' =>
      (ih hH' hrest).bind fun _ _ hH'' => hH''

/-- A command concerns the reader that it names, and no other. -/
theorem CardConnections.Mirrors.processCommand {g : CardConnections} {H : Handles}
    {R : String → Prop} (hg : g.Mirrors H) (sessionId : String) {request : CommandRequest}
    (hR : R request.readerName) :
    Obeys (readerProtocol R) (fun result H' => CardConnections.Mirrors result.2 H')
      (GrpcClient.processCommand g sessionId request) H := by
  have hatr : ∀ f : Except ClientError Bytes → HandlerResult,
      Obeys (readerProtocol R) (fun result H' => CardConnections.Mirrors result.2 H')
        ((g.getAtr request.readerName).bind fun result => Program.pure (f result.1, result.2)) H :=
    fun f => (hg.getAtr hR).bind fun _ _ hH' => hH'
  have hcommand : Obeys (readerProtocol R) (fun result H' => CardConnections.Mirrors result.2 H')
      (GrpcClient.handleCommand g request.readerName request.command) H := by
    match request.command with
    | none => exact hg
    | some (.disconnect cmd) => exact hg
    | some (.connect cmd) => exact hatr GrpcClient.connectOutcome
    | some (.getAtr cmd) => exact hatr GrpcClient.atrOutcome
    | some (.apdu cmd) =>
      exact (hg.transmitApdu hR cmd.apdu).bind fun _ _ hH' => hH'
  exact hcommand.bind fun _ _ hH' => hH'

/-! ## What the calls cost -/

/-- A price for the calls into PC/SC: each attempt to connect costs `c`, each pause between
two attempts `p`, each APDU `a`, and the other calls are free. -/
structure Priced (w : PcscOp → ℕ) (c p a : ℕ) : Prop where
  connecting : ∀ reader, w (.connect reader) = c
  pausing : w (.sleep CardConnectionManager.retryDelayMs) = p
  transmitting : ∀ card apdu buffer, w (.transmit card apdu buffer) = a
  establishing : w .establish = 0
  asking : ∀ card, w (.status2 card) = 0
  dropping : ∀ card, w (.drop card) = 0

namespace Priced

variable {w : PcscOp → ℕ} {c p a : ℕ}

/-- The attempts to connect, with a pause between any two. -/
theorem connectAttempts (hw : Priced w c p a) (reader : String) (n : ℕ) :
    Spends w (CardConnectionManager.connectAttempts reader n) (n * c + (n - 1) * p) := by
  induction n with
  | zero => trivial
  | succ n ih =>
    have hretry : 0 < n → Spends w
        ((PcscOp.doSleep CardConnectionManager.retryDelayMs).bind fun _ =>
          CardConnectionManager.connectAttempts reader n) (n * c + n * p) := by
      intro hn
      have hsum : p + (n * c + (n - 1) * p) = n * c + n * p := by
        obtain ⟨k, rfl⟩ := Nat.exists_eq_add_of_lt hn
        rw [Nat.zero_add, Nat.add_sub_cancel]
        ring
      rw [← hsum]
      exact .perform_bind hw.pausing fun _ => ih
    have hsum : c + (n * c + n * p) = (n + 1) * c + (n + 1 - 1) * p := by
      rw [Nat.add_sub_cancel]
      ring
    rw [← hsum]
    refine .perform_bind (hw.connecting reader) fun answer => ?_
    match answer with
    | .ok () => trivial
    | .error ⟨.other, _⟩ => trivial
    | .error ⟨.sharingViolation, _⟩ =>
      by_cases hn : 0 < n
      · simpa [hn] using hretry hn
      · simp [hn]
    | .error ⟨.readerUnavailable, _⟩ =>
      by_cases hn : 0 < n
      · simpa [hn] using hretry hn
      · simp [hn]

/-- Five attempts at most, and none if the card is cached. -/
theorem getOrConnect (hw : Priced w c p a) (m : CardConnectionManager) (reader : String) :
    Spends w (m.getOrConnect reader) (5 * c + 4 * p) := by
  unfold CardConnectionManager.getOrConnect
  split
  · trivial
  · split
    · trivial
    · refine (hw.connectAttempts _ CardConnectionManager.maxRetries).bind (m := 0) fun result => ?_
      match result with
      | .ok () => trivial
      | .error e => trivial

/-- One attempt to transmit is one APDU after that. -/
theorem tryTransmit (hw : Priced w c p a) (m : CardConnectionManager) (reader : String)
    (apdu : Bytes) : Spends w (m.tryTransmit reader apdu) (5 * c + 4 * p + a) := by
  refine (hw.getOrConnect m reader).bind fun result => ?_
  obtain ⟨found, m'⟩ := result
  match found with
  | .error e => trivial
  | .ok card => exact .perform_bind (m := 0) (hw.transmitting card apdu _) fun _ => trivial

theorem disconnect (hw : Priced w c p a) (m : CardConnectionManager) (reader : String) :
    Spends w (m.disconnect reader) 0 := by
  unfold CardConnectionManager.disconnect
  split
  · exact .perform_bind (m := 0) (hw.dropping _) fun _ => trivial
  · trivial

/-- `transmit` tries twice at most. -/
theorem transmit (hw : Priced w c p a) (m : CardConnectionManager) (reader : String)
    (apdu : Bytes) : Spends w (m.transmit reader apdu) (2 * (5 * c + 4 * p + a)) := by
  rw [Nat.two_mul]
  refine (hw.tryTransmit m reader apdu).bind fun result => ?_
  obtain ⟨first, m'⟩ := result
  match first with
  | .ok response => trivial
  | .error e =>
    rw [← Nat.zero_add (5 * c + 4 * p + a)]
    exact (hw.disconnect m' reader).bind fun m'' => hw.tryTransmit m'' reader apdu

/-- `get_atr` sends no APDU. -/
theorem getAtr (hw : Priced w c p a) (m : CardConnectionManager) (reader : String) :
    Spends w (m.getAtr reader) (5 * c + 4 * p) := by
  refine (hw.getOrConnect m reader).bind (m := 0) fun result => ?_
  obtain ⟨found, m'⟩ := result
  match found with
  | .error e => trivial
  | .ok card =>
    refine .perform_bind (m := 0) (hw.asking card) fun answer => ?_
    match answer with
    | .ok atr => trivial
    | .error e => trivial

/-- The context is free. -/
theorem withManager (hw : Priced w c p a) (g : CardConnections) {n : ℕ}
    {method : CardConnectionManager →
      PcscProgram (Except ClientError Bytes × CardConnectionManager)}
    (hmethod : ∀ m, Spends w (method m) n) : Spends w (g.withManager method) n := by
  have hrest : ∀ m, Spends w
      ((method m).bind fun result => Program.pure (result.1, some result.2)) n :=
    fun m => (hmethod m).bind (m := 0) fun _ => trivial
  cases g with
  | some m => exact hrest m
  | none =>
    rw [← Nat.zero_add n]
    refine .perform_bind hw.establishing fun answer => ?_
    match answer with
    | .ok () => exact hrest _
    | .error e => trivial

/-- `get_reader_info` pays for each reader once. -/
theorem getReaderInfo (hw : Priced w c p a) (g : CardConnections) (readers : List String) :
    Spends w (RemoteSmartcard.getReaderInfo g readers) (readers.length * (5 * c + 4 * p)) := by
  induction readers generalizing g with
  | nil => trivial
  | cons reader readers ih =>
    rw [List.length_cons, Nat.succ_mul, Nat.add_comm]
    have hatr : Spends w (g.getAtr reader) (5 * c + 4 * p) :=
      hw.withManager g fun m => hw.getAtr m reader
    exact hatr.bind fun found => (ih found.2).bind (m := 0) fun _ => spends_pure _ _

/-- No command costs more than an APDU does. -/
theorem processCommand (hw : Priced w c p a) (g : CardConnections) (sessionId : String)
    (request : CommandRequest) :
    Spends w (GrpcClient.processCommand g sessionId request) (2 * (5 * c + 4 * p + a)) := by
  have hatr : ∀ f : Except ClientError Bytes → HandlerResult, Spends w
      ((g.getAtr request.readerName).bind fun result => Program.pure (f result.1, result.2))
      (2 * (5 * c + 4 * p + a)) := by
    intro f
    have hcall : Spends w (g.getAtr request.readerName) (5 * c + 4 * p) :=
      hw.withManager g fun m => hw.getAtr m request.readerName
    have hrest : Spends w ((g.getAtr request.readerName).bind fun result =>
        Program.pure (f result.1, result.2)) (5 * c + 4 * p + 0) := hcall.bind fun _ => trivial
    exact hrest.mono (by omega)
  have hcommand : Spends w (GrpcClient.handleCommand g request.readerName request.command)
      (2 * (5 * c + 4 * p + a)) := by
    match request.command with
    | none => trivial
    | some (.disconnect cmd) => trivial
    | some (.connect cmd) => exact hatr GrpcClient.connectOutcome
    | some (.getAtr cmd) => exact hatr GrpcClient.atrOutcome
    | some (.apdu cmd) =>
      have hcall : Spends w (g.transmitApdu request.readerName cmd.apdu)
          (2 * (5 * c + 4 * p + a)) :=
        hw.withManager g fun m => hw.transmit m request.readerName cmd.apdu
      exact hcall.bind (m := 0) fun _ => trivial
  exact hcommand.bind (m := 0) fun _ => trivial

end Priced

/-! ## Runs of the client -/

namespace ClientProcess

variable {Sigma : Type} {h : (o : PcscOp) → Sigma → PcscRet o × Sigma}

/-- The calls into PC/SC that an action makes. -/
def pcscEvents (h : (o : PcscOp) → Sigma → PcscRet o × Sigma) (s : ClientProcess Sigma) :
    ClientAction Sigma → List PcscEvent
  | .getReaderInfo readers =>
    (exec h (RemoteSmartcard.getReaderInfo s.cards readers) s.surroundings).2.1
  | .process k =>
    match s.tasks[k]? with
    | some t =>
      match t.phase with
      | .processing request =>
        (exec h (GrpcClient.processCommand s.cards t.sessionId request) s.surroundings).2.1
      | _ => []
    | none => []
  | _ => []

/-- All calls into PC/SC in a run. -/
def pcscTrace (h : (o : PcscOp) → Sigma → PcscRet o × Sigma) (s : ClientProcess Sigma)
    (as : List (ClientAction Sigma)) : List PcscEvent :=
  StepRun.record (step h) (fun s a tr => tr ++ s.pcscEvents h a) s as []

/-- The readers that an action is for: those looked at, or that of the command. -/
def readersOf (s : ClientProcess Sigma) : ClientAction Sigma → String → Prop
  | .getReaderInfo readers, reader => reader ∈ readers
  | .process k, reader => ∃ t request, s.tasks[k]? = some t ∧ t.phase = .processing request ∧
      request.readerName = reader
  | _, _ => False

/-- The action calls PC/SC by running one of the two programs, or not at all. -/
inductive CallsPcsc (h : (o : PcscOp) → Sigma → PcscRet o × Sigma) (s s' : ClientProcess Sigma)
    (a : ClientAction Sigma) : Prop
  | idle (hevents : s.pcscEvents h a = []) (hcards : s'.cards = s.cards)
      (hexecuted : s'.executed = s.executed)
  | looking {readers : List String} (ha : a = .getReaderInfo readers)
      (hcall : Yields (RemoteSmartcard.getReaderInfo s.cards readers) (s.pcscEvents h a)
        ((exec h (RemoteSmartcard.getReaderInfo s.cards readers) s.surroundings).1.1, s'.cards))
      (hexecuted : s'.executed = s.executed)
  | processing {k : ℕ} {sessionId : String} {request : CommandRequest}
      {response : CommandResponse} (hreader : s.readersOf a request.readerName)
      (hcall : Yields (GrpcClient.processCommand s.cards sessionId request) (s.pcscEvents h a)
        (response, s'.cards)) (hexecuted : s'.executed = s.executed ++ [(k, request)])

/-- **What a step calls**: two of the actions call PC/SC, and the others leave the cards
alone. -/
theorem Transition.callsPcsc {s s' : ClientProcess Sigma} {a : ClientAction Sigma}
    (ht : Transition h s a s') : CallsPcsc h s s' a := by
  cases ht with
  | @getReaderInfo readers hp => exact .looking rfl (yields_exec h _ _) rfl
  | @processed k t request hk hp =>
    have hevents : s.pcscEvents h (.process k) =
        (exec h (GrpcClient.processCommand s.cards t.sessionId request) s.surroundings).2.1 := by
      simp only [pcscEvents, hk, hp]
    have hcall := yields_exec h (GrpcClient.processCommand s.cards t.sessionId request)
      s.surroundings
    rw [← hevents] at hcall
    exact .processing ⟨t, request, hk, hp, rfl⟩ hcall rfl
  | event hp he =>
    unfold serve
    dsimp only
    split <;> exact .idle rfl rfl rfl
  | _ => exact .idle rfl rfl rfl

/-- The calls of an action keep to its readers, and the cache goes on mirroring the
connections. -/
theorem Transition.mirrors {s s' : ClientProcess Sigma} {a : ClientAction Sigma} {H : Handles}
    (ht : Transition h s a s') (hmirrors : s.cards.Mirrors H) :
    (readerProtocol (s.readersOf a)).Permits H (s.pcscEvents h a) ∧
      s'.cards.Mirrors (handleProtocol.after H (s.pcscEvents h a)) := by
  cases ht.callsPcsc with
  | idle hevents hcards hexecuted =>
    rw [hevents, hcards]
    exact ⟨trivial, hmirrors⟩
  | looking ha hcall hexecuted =>
    subst ha
    exact (hmirrors.getReaderInfo fun _ hr => hr).yields hcall
  | processing hreader hcall hexecuted => exact (hmirrors.processCommand _ hreader).yields hcall

/-- The invariant behind both results about the handles of a run. -/
theorem mirrors_of_run {d m : Duration} {enabled : Bool} {sigma : Sigma}
    {as : List (ClientAction Sigma)} {s : ClientProcess Sigma}
    (hrun : StepRun.run (step h) (start d m enabled sigma) as = some s) :
    handleProtocol.Permits .none (pcscTrace h (start d m enabled sigma) as) ∧
      s.cards.Mirrors
        (handleProtocol.after .none (pcscTrace h (start d m enabled sigma) as)) := by
  refine StepRun.invariant_record (P := fun (s : ClientProcess Sigma) tr =>
    handleProtocol.Permits .none tr ∧ s.cards.Mirrors (handleProtocol.after .none tr))
    (fun s a s' tr hP hstep => ?_) ⟨trivial, rfl⟩ hrun
  obtain ⟨hpermits, hmirrors⟩ := hP
  obtain ⟨hcalls, hend⟩ := (step_transition hstep).mirrors hmirrors
  rw [permits_append, after_append]
  exact ⟨⟨hpermits, hcalls.of_restrict⟩, hend⟩

/-- **The handles of a client.**  In every run of the client process, whatever the card,
PC/SC and the server do, a connection is used and dropped only while it is open, none is
made to a reader while one is open, the context of the card cache is established once,
before the first connection; and at every moment the open connections are exactly those of
the cache, so none has leaked. -/
theorem handles_of_run {d m : Duration} {enabled : Bool} {sigma : Sigma}
    {as : List (ClientAction Sigma)} {s : ClientProcess Sigma}
    (hrun : StepRun.run (step h) (start d m enabled sigma) as = some s) :
    handleProtocol.Permits .none (pcscTrace h (start d m enabled sigma) as) ∧
      ∀ card reader,
        (handleProtocol.after .none (pcscTrace h (start d m enabled sigma) as)).live card =
            some reader ↔
          s.cards.manager.connections.lookup reader = some card := by
  obtain ⟨hpermits, hmirrors⟩ := mirrors_of_run hrun
  exact ⟨hpermits, hmirrors.live⟩

/-- A client looks at its reader, connects, and carries out an APDU. -/
def commandRun : List (ClientAction ℕ) :=
  [.getReaderInfo ["r"], .connect (.ok ()), .establishSession (.ok "s"), .registerReader,
    .startCommandChannel, .opened 0 true,
    .next 0 (some (.ok ⟨1, some (.apdu ⟨[0x00, 0xA4]⟩), "r"⟩)), .process 0]

/-- When the first `transmit` fails, the connection is dropped and a second one is made. -/
theorem handles_of_run_commandRun :
    (∃ s, StepRun.run (step (flakyCard 0 true)) (start (.fromSecs 1) (.fromSecs 60) true 0)
        commandRun = some s ∧
      handleProtocol.Permits .none
        (pcscTrace (flakyCard 0 true) (start (.fromSecs 1) (.fromSecs 60) true 0) commandRun)) ∧
    (pcscTrace (flakyCard 0 true) (start (.fromSecs 1) (.fromSecs 60) true 0) commandRun).map
        (·.op) =
      [.establish, .connect "r", .status2 0, .transmit 0 [0x00, 0xA4] 65538, .drop 0,
        .connect "r", .transmit 1 [0x00, 0xA4] 65538] := by
  have hsome : (StepRun.run (step (flakyCard 0 true)) (start (.fromSecs 1) (.fromSecs 60) true 0)
      commandRun).isSome := by decide
  obtain ⟨s, hs⟩ := Option.isSome_iff_exists.mp hsome
  exact ⟨⟨s, hs, (handles_of_run hs).1⟩, by decide⟩

/-- **Readers are kept apart.**  At every moment of every run, whatever the card, PC/SC and
the server do, an action connects only to the readers it is for, uses and drops only
connections to these, and leaves the cached connections to all other readers as they are. -/
theorem readers_apart {d m : Duration} {enabled : Bool} {sigma : Sigma}
    {as : List (ClientAction Sigma)} {a : ClientAction Sigma} {s s' : ClientProcess Sigma}
    (hrun : StepRun.run (step h) (start d m enabled sigma) as = some s)
    (hstep : step h s a = some s') :
    (readerProtocol (s.readersOf a)).Permits
        (handleProtocol.after .none (pcscTrace h (start d m enabled sigma) as))
        (s.pcscEvents h a) ∧
      ∀ other, ¬ s.readersOf a other →
        s'.cards.manager.connections.lookup other = s.cards.manager.connections.lookup other := by
  have hmirrors := (mirrors_of_run hrun).2
  obtain ⟨hcalls, hend⟩ := (step_transition hstep).mirrors hmirrors
  refine ⟨hcalls, fun other hother => Option.ext fun card => ?_⟩
  have hsame := live_of_permits hmirrors.fresh hcalls hother card
  exact (hend.live card other).symm.trans (hsame.trans (hmirrors.live card other))

/-- A client looks at two readers, connects, and is sent an APDU for the first. -/
def twoReadersRun : List (ClientAction ℕ) :=
  [.getReaderInfo ["r", "q"], .connect (.ok ()), .establishSession (.ok "s"), .registerReader,
    .registerReader, .startCommandChannel, .opened 0 true,
    .next 0 (some (.ok ⟨1, some (.apdu ⟨[0x00, 0xA4]⟩), "r"⟩))]

/-- The first `transmit` fails: the connection to `r` is dropped and made again, and that to
`q` stays. -/
theorem readers_apart_twoReadersRun :
    ∃ s s', StepRun.run (step (flakyCard 0 true)) (start (.fromSecs 1) (.fromSecs 60) true 0)
        twoReadersRun = some s ∧
      step (flakyCard 0 true) s (.process 0) = some s' ∧
      s'.cards.manager.connections.lookup "q" = s.cards.manager.connections.lookup "q" ∧
      s.cards.manager.connections.lookup "q" = some 1 ∧
      s.cards.manager.connections.lookup "r" = some 0 ∧
      s'.cards.manager.connections.lookup "r" = some 2 := by
  have hdone : ((StepRun.run (step (flakyCard 0 true))
      (start (.fromSecs 1) (.fromSecs 60) true 0) twoReadersRun).bind fun s =>
        (step (flakyCard 0 true) s (.process 0)).map fun s' =>
          (s.tasks[0]?, s.cards.manager.connections.lookup "q",
            s.cards.manager.connections.lookup "r", s'.cards.manager.connections.lookup "r")) =
      some (some ⟨"s", .processing ⟨1, some (.apdu ⟨[0x00, 0xA4]⟩), "r"⟩⟩,
        some 1, some 0, some 2) := by decide
  simp only [Option.bind_eq_some_iff, Option.map_eq_some_iff, Prod.mk.injEq] at hdone
  obtain ⟨s, hs, s', hs', htask, hq, hr, hr'⟩ := hdone
  refine ⟨s, s', hs, hs', (readers_apart hs hs').2 "q" ?_, hq, hr, hr'⟩
  rintro ⟨t, request, ht, hphase, hname⟩
  rw [htask] at ht
  obtain rfl := Option.some.inj ht
  cases hphase
  exact absurd hname (by decide)

/-- How many readers the run has looked at. -/
def lookedAt (as : List (ClientAction Sigma)) : ℕ :=
  (as.map fun
    | .getReaderInfo readers => readers.length
    | _ => 0).sum

theorem lookedAt_cons (b : ClientAction Sigma) (as : List (ClientAction Sigma)) :
    lookedAt (b :: as) = lookedAt [b] + lookedAt as := by
  simp [lookedAt]

/-- What a step spends on the card: five attempts to connect for each reader that it looks
at, and twice as much, with two APDUs, for a command. -/
theorem Transition.cost_pcscEvents_le {w : PcscOp → ℕ} {c p a : ℕ} (hw : Priced w c p a)
    {s s' : ClientProcess Sigma} {b : ClientAction Sigma} (ht : Transition h s b s') :
    cost w (s.pcscEvents h b) + 2 * (5 * c + 4 * p + a) * s.executed.length ≤
      2 * (5 * c + 4 * p + a) * s'.executed.length + (5 * c + 4 * p) * lookedAt [b] := by
  cases ht.callsPcsc with
  | idle hevents hcards hexecuted =>
    have hnil : cost w (s.pcscEvents h b) = 0 := by
      rw [hevents]
      rfl
    rw [hexecuted]
    omega
  | @looking readers hb hcall hexecuted =>
    have hle := (hw.getReaderInfo s.cards readers).cost_le hcall
    have hlooked : (5 * c + 4 * p) * lookedAt [b] = readers.length * (5 * c + 4 * p) := by
      rw [hb, Nat.mul_comm]
      rfl
    rw [hexecuted]
    omega
  | processing hreader hcall hexecuted =>
    have hle := (hw.processCommand s.cards _ _).cost_le hcall
    rw [hexecuted, List.length_append, List.length_singleton, Nat.mul_add_one]
    omega

/-- A run spends what its steps spend. -/
theorem cost_record_le {w : PcscOp → ℕ} {c p a : ℕ} (hw : Priced w c p a)
    {s s' : ClientProcess Sigma} {as : List (ClientAction Sigma)}
    (hrun : StepRun.run (step h) s as = some s') (tr : List PcscEvent) :
    cost w (StepRun.record (step h) (fun s a tr => tr ++ s.pcscEvents h a) s as tr) +
        2 * (5 * c + 4 * p + a) * s.executed.length ≤
      cost w tr + 2 * (5 * c + 4 * p + a) * s'.executed.length +
        (5 * c + 4 * p) * lookedAt as := by
  induction as generalizing s tr with
  | nil =>
    obtain rfl := Option.some.inj hrun
    exact Nat.le_add_right _ _
  | cons b as ih =>
    rw [StepRun.run_cons, Option.bind_eq_some_iff] at hrun
    obtain ⟨s₁, hstep, hrun⟩ := hrun
    have hfirst := (step_transition hstep).cost_pcscEvents_le hw
    have hrest := ih hrun (tr ++ s.pcscEvents h b)
    have hcost := cost_append w tr (s.pcscEvents h b)
    have hlooked : (5 * c + 4 * p) * lookedAt (b :: as) =
        (5 * c + 4 * p) * lookedAt [b] + (5 * c + 4 * p) * lookedAt as := by
      rw [lookedAt_cons, Nat.mul_add]
    rw [StepRun.record, hstep]
    dsimp only
    omega

/-- **The price of a run**, in the commands carried out and the readers looked at. -/
theorem cost_pcscTrace_le {w : PcscOp → ℕ} {c p a : ℕ} (hw : Priced w c p a)
    {d m : Duration} {enabled : Bool} {sigma : Sigma} {as : List (ClientAction Sigma)}
    {s : ClientProcess Sigma}
    (hrun : StepRun.run (step h) (start d m enabled sigma) as = some s) :
    cost w (pcscTrace h (start d m enabled sigma) as) ≤
      2 * (5 * c + 4 * p + a) * s.executed.length + (5 * c + 4 * p) * lookedAt as := by
  have hle := cost_record_le hw hrun []
  have hnil : cost w ([] : List PcscEvent) = 0 := rfl
  have hfresh : (start d m enabled sigma).executed.length = 0 := rfl
  rw [hnil, hfresh, Nat.mul_zero, Nat.add_zero, Nat.zero_add] at hle
  exact hle

/-- The attempts to connect. -/
def connectCalls : PcscOp → ℕ
  | .connect _ => 1
  | _ => 0

/-- The APDUs put to a card. -/
def transmitCalls : PcscOp → ℕ
  | .transmit _ _ _ => 1
  | _ => 0

/-- The milliseconds slept. -/
def sleptMillis : PcscOp → ℕ
  | .sleep millis => millis
  | _ => 0

theorem priced_connectCalls : Priced connectCalls 1 0 0 := by constructor <;> intros <;> rfl

theorem priced_transmitCalls : Priced transmitCalls 0 0 1 := by constructor <;> intros <;> rfl

theorem priced_sleptMillis : Priced sleptMillis 0 500 0 := by constructor <;> intros <;> rfl

/-- **The work on the card is bounded.**  In every run, whatever the card and PC/SC answer:
for each command carried out there are ten attempts to connect, two APDUs and four seconds
of sleep at most, and for each reader looked at five attempts and two seconds. -/
theorem card_access_bounded {d m : Duration} {enabled : Bool} {sigma : Sigma}
    {as : List (ClientAction Sigma)} {s : ClientProcess Sigma}
    (hrun : StepRun.run (step h) (start d m enabled sigma) as = some s) :
    cost connectCalls (pcscTrace h (start d m enabled sigma) as) ≤
        10 * s.executed.length + 5 * lookedAt as ∧
      cost transmitCalls (pcscTrace h (start d m enabled sigma) as) ≤ 2 * s.executed.length ∧
      cost sleptMillis (pcscTrace h (start d m enabled sigma) as) ≤
        4000 * s.executed.length + 2000 * lookedAt as := by
  have hconnects := cost_pcscTrace_le priced_connectCalls hrun
  have htransmits := cost_pcscTrace_le priced_transmitCalls hrun
  have hslept := cost_pcscTrace_le priced_sleptMillis hrun
  omega

/-- In `commandRun` two attempts to connect are made, of the fifteen that are allowed. -/
theorem card_access_bounded_commandRun :
    (∃ s, StepRun.run (step (flakyCard 0 true)) (start (.fromSecs 1) (.fromSecs 60) true 0)
        commandRun = some s ∧
      cost connectCalls
          (pcscTrace (flakyCard 0 true) (start (.fromSecs 1) (.fromSecs 60) true 0) commandRun) ≤
        10 * s.executed.length + 5 * lookedAt commandRun) ∧
    cost connectCalls (pcscTrace (flakyCard 0 true)
      (start (.fromSecs 1) (.fromSecs 60) true 0) commandRun) = 2 := by
  have hsome : (StepRun.run (step (flakyCard 0 true)) (start (.fromSecs 1) (.fromSecs 60) true 0)
      commandRun).isSome := by decide
  obtain ⟨s, hs⟩ := Option.isSome_iff_exists.mp hsome
  exact ⟨⟨s, hs, (card_access_bounded hs).1⟩, by decide⟩

end ClientProcess

end RemoteSmartcard
