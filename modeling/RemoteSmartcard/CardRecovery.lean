/-
# The ATR after a card has been removed

A PC/SC handle becomes invalid when its card is removed or reset.  `transmit` drops a
handle that fails and connects again; `get_atr` asks the cached handle and keeps it when
that fails.  So after any history `get_atr` finds the card a reader now holds exactly
when no invalid handle is cached for the reader.
-/
import RemoteSmartcard.CardSession

namespace RemoteSmartcard

open Program hiding pure

/-! ## PC/SC -/

/-- The reader an operation has opened a handle for, if it has. -/
def opened : (o : PcscOp) → PcscRet o → List String
  | .connect reader, .ok () => [reader]
  | _, _ => []

/-- PC/SC and the cards, as the client meets them: how an operation is answered in a
state, what happens besides (cards inserted and removed, other programs), the readers
of the handles made so far, and which handles are invalid. -/
structure PcscWorld (Sigma : Type) where
  answer : (o : PcscOp) → Sigma → PcscRet o × Sigma
  event : Sigma → Sigma → Prop
  handles : Sigma → List String
  invalid : Sigma → ℕ → Prop

/-- The reader holds a card with this ATR: connecting succeeds, and the fresh handle
answers `status2`. -/
def PcscWorld.FreshAtr {Sigma : Type} (P : PcscWorld Sigma) (s : Sigma) (reader : String)
    (atr : { atr : Bytes // atr.length ≤ maxAtrSize }) : Prop :=
  (P.answer (.connect reader) s).1 = .ok () ∧
    (P.answer (.status2 (P.handles s).length) (P.answer (.connect reader) s).2).1 = .ok atr

/-- What the client relies on: a handle is made by a successful connect; an invalid one
fails, and a valid one answers as a fresh one would. -/
structure PcscService (Sigma : Type) extends PcscWorld Sigma where
  handles_answer : ∀ o s, handles (answer o s).2 = handles s ++ opened o (answer o s).1
  handles_event : ∀ s s', event s s' → handles s' = handles s
  status2_invalid : ∀ s card, invalid s card → ∃ e, (answer (.status2 card) s).1 = .error e
  status2_valid : ∀ s card reader atr, (handles s)[card]? = some reader → ¬ invalid s card →
    toPcscWorld.FreshAtr s reader atr → (answer (.status2 card) s).1 = .ok atr

/-! ## Handles opened along a run -/

/-- The readers for which a trace opens a handle, in order. -/
def openedIn (tr : List PcscEvent) : List String := tr.flatMap fun e => opened e.op e.answer

@[simp] theorem openedIn_nil : openedIn [] = [] := rfl

@[simp] theorem openedIn_append (t₁ t₂ : List PcscEvent) :
    openedIn (t₁ ++ t₂) = openedIn t₁ ++ openedIn t₂ := List.flatMap_append

theorem openedIn_cons (e : PcscEvent) (tr : List PcscEvent) :
    openedIn (e :: tr) = opened e.op e.answer ++ openedIn tr := List.flatMap_cons

/-- A run of a program makes the handles that its trace opens. -/
theorem PcscService.handles_exec {Sigma : Type} (P : PcscService Sigma) {Alpha : Type}
    (p : PcscProgram Alpha) (s : Sigma) :
    P.handles (exec P.answer p s).2.2 = P.handles s ++ openedIn (exec P.answer p s).2.1 := by
  induction p generalizing s with
  | pure a => simp
  | op o k ih =>
    rw [exec_op, ih, P.handles_answer, openedIn_cons, List.append_assoc]

/-! ## The cache -/

namespace CardConnectionManager

/-- The manager has counted the handles, and keeps for a reader a handle of that
reader. -/
structure Tracks (m : CardConnectionManager) (handles : List String) : Prop where
  connected : m.connected = handles.length
  connections : ∀ reader card, m.connections.lookup reader = some card →
    handles[card]? = some reader

/-- A new manager has counted no handle. -/
theorem tracks_empty : Tracks ⟨0, ∅⟩ [] where
  connected := rfl
  connections := by
    intro reader card h
    simp at h

/-- A handle made and kept is counted. -/
theorem Tracks.keep {m : CardConnectionManager} {handles : List String} (h : m.Tracks handles)
    (reader : String) : (m.keep reader).Tracks (handles ++ [reader]) where
  connected := by simp [CardConnectionManager.keep, h.connected]
  connections := by
    intro other card hcard
    by_cases hother : other = reader
    · subst hother
      obtain rfl : m.connected = card := by simpa [CardConnectionManager.keep] using hcard
      simp [h.connected]
    · have hold := h.connections other card (by
        simpa [CardConnectionManager.keep, Finmap.lookup_insert_of_ne _ hother] using hcard)
      rw [List.getElem?_append_left (List.getElem?_eq_some_iff.mp hold).1, hold]

/-- Forgetting a handle does not change the count. -/
theorem Tracks.forget {m : CardConnectionManager} {handles : List String} (h : m.Tracks handles)
    (reader : String) : (m.forget reader).Tracks handles where
  connected := h.connected
  connections := by
    intro other card hcard
    by_cases hother : other = reader
    · subst hother
      simp [CardConnectionManager.forget] at hcard
    · exact h.connections other card (by
        simpa [CardConnectionManager.forget, Finmap.lookup_erase_ne hother] using hcard)

/-- `connect_with_retry` opens a handle exactly when it succeeds. -/
theorem openedIn_connectAttempts {reader : String} {n : ℕ} {tr : List PcscEvent}
    {result : Except ClientError Unit} (h : Yields (connectAttempts reader n) tr result) :
    openedIn tr = if result = .ok () then [reader] else [] := by
  induction n generalizing tr with
  | zero =>
    obtain ⟨rfl, rfl⟩ := yields_pure_iff.mp h
    rfl
  | succ n ih =>
    obtain ⟨answer, tr, rfl, hrest⟩ := yields_perform_bind_iff.mp h
    have hretry : ∀ {e : PcscError} {text : String},
        Yields (if 0 < n then (PcscOp.doSleep retryDelayMs).bind fun _ => connectAttempts reader n
          else pure (.error (.smartcard text))) tr result →
        openedIn (⟨.connect reader, .error e⟩ :: tr) =
          if result = .ok () then [reader] else [] := by
      intro e text hloop
      rw [openedIn_cons]
      split_ifs at hloop with hn
      · obtain ⟨_, tr, rfl, hnext⟩ := yields_perform_bind_iff.mp hloop
        rw [openedIn_cons, ih hnext]
        rfl
      · obtain ⟨rfl, rfl⟩ := yields_pure_iff.mp hloop
        rfl
    match answer with
    | .ok () =>
      obtain ⟨rfl, rfl⟩ := yields_pure_iff.mp hrest
      rfl
    | .error ⟨.sharingViolation, _⟩ => exact hretry hrest
    | .error ⟨.readerUnavailable, _⟩ => exact hretry hrest
    | .error ⟨.other, _⟩ =>
      obtain ⟨rfl, rfl⟩ := yields_pure_iff.mp hrest
      rfl

/-- `get_or_connect` counts and keeps the handle that it makes. -/
theorem Tracks.getOrConnect {m m' : CardConnectionManager} {handles : List String}
    (h : m.Tracks handles) {reader : String} {tr : List PcscEvent} {result : Except ClientError ℕ}
    (hrun : Yields (m.getOrConnect reader) tr (result, m')) :
    m'.Tracks (handles ++ openedIn tr) := by
  unfold CardConnectionManager.getOrConnect at hrun
  split at hrun
  · obtain ⟨rfl, heq⟩ := yields_pure_iff.mp hrun
    cases heq
    simpa using h
  · split at hrun
    · obtain ⟨rfl, heq⟩ := yields_pure_iff.mp hrun
      cases heq
      simpa using h
    · rename_i readerCstr hname
      obtain rfl := cString_eq_ok hname
      obtain ⟨t₁, t₂, answer, rfl, hconnect, hrest⟩ := yields_bind_iff.mp hrun
      have hopened := openedIn_connectAttempts hconnect
      match answer with
      | .error e =>
        obtain ⟨rfl, heq⟩ := yields_pure_iff.mp hrest
        cases heq
        rw [List.append_nil, hopened, if_neg nofun, List.append_nil]
        exact h
      | .ok () =>
        obtain ⟨rfl, heq⟩ := yields_pure_iff.mp hrest
        cases heq
        rw [List.append_nil, hopened, if_pos rfl]
        exact h.keep readerCstr

/-- So does `try_transmit`. -/
theorem Tracks.tryTransmit {m m' : CardConnectionManager} {handles : List String}
    (h : m.Tracks handles) {reader : String} {apdu : Bytes} {tr : List PcscEvent}
    {result : Except ClientError Bytes}
    (hrun : Yields (m.tryTransmit reader apdu) tr (result, m')) :
    m'.Tracks (handles ++ openedIn tr) := by
  obtain ⟨t₁, t₂, ⟨found, m₁⟩, rfl, hopen, hrest⟩ := yields_bind_iff.mp hrun
  have htracks := h.getOrConnect hopen
  match found with
  | .error e =>
    obtain ⟨rfl, heq⟩ := yields_pure_iff.mp hrest
    cases heq
    rwa [List.append_nil]
  | .ok card =>
    obtain ⟨reply, t₃, rfl, hret⟩ := yields_perform_bind_iff.mp hrest
    obtain ⟨rfl, heq⟩ := yields_pure_iff.mp hret
    cases heq
    rw [openedIn_append, ← List.append_assoc]
    simpa [openedIn, opened] using htracks

/-- `disconnect` makes none. -/
theorem Tracks.disconnect {m m' : CardConnectionManager} {handles : List String}
    (h : m.Tracks handles) {reader : String} {tr : List PcscEvent}
    (hrun : Yields (m.disconnect reader) tr m') : m'.Tracks (handles ++ openedIn tr) := by
  obtain ⟨-, rfl⟩ := yields_disconnect hrun
  have hopened : openedIn tr = [] := by
    unfold CardConnectionManager.disconnect at hrun
    split at hrun
    · obtain ⟨answer, t, rfl, hret⟩ := yields_perform_bind_iff.mp hrun
      obtain ⟨rfl, -⟩ := yields_pure_iff.mp hret
      rfl
    · obtain ⟨rfl, -⟩ := yields_pure_iff.mp hrun
      rfl
  rw [hopened, List.append_nil]
  exact h.forget reader

/-- `transmit` makes two at most, and counts both. -/
theorem Tracks.transmit {m m' : CardConnectionManager} {handles : List String}
    (h : m.Tracks handles) {reader : String} {apdu : Bytes} {tr : List PcscEvent}
    {result : Except ClientError Bytes} (hrun : Yields (m.transmit reader apdu) tr (result, m')) :
    m'.Tracks (handles ++ openedIn tr) := by
  obtain ⟨t₁, t₂, ⟨first, m₁⟩, rfl, hfirst, hrest⟩ := yields_bind_iff.mp hrun
  have htracks := h.tryTransmit hfirst
  match first with
  | .ok response =>
    obtain ⟨rfl, heq⟩ := yields_pure_iff.mp hrest
    cases heq
    rwa [List.append_nil]
  | .error e =>
    obtain ⟨t₃, t₄, m₂, rfl, hdisconnect, hretry⟩ := yields_bind_iff.mp hrest
    simpa using (htracks.disconnect hdisconnect).tryTransmit hretry

/-- `get_atr` counts the one it makes. -/
theorem Tracks.getAtr {m m' : CardConnectionManager} {handles : List String}
    (h : m.Tracks handles) {reader : String} {tr : List PcscEvent}
    {result : Except ClientError Bytes} (hrun : Yields (m.getAtr reader) tr (result, m')) :
    m'.Tracks (handles ++ openedIn tr) := by
  obtain ⟨t₁, t₂, ⟨found, m₁⟩, rfl, hopen, hrest⟩ := yields_bind_iff.mp hrun
  have htracks := h.getOrConnect hopen
  match found with
  | .error e =>
    obtain ⟨rfl, heq⟩ := yields_pure_iff.mp hrest
    cases heq
    rwa [List.append_nil]
  | .ok card =>
    obtain ⟨answer, t₃, rfl, hret⟩ := yields_perform_bind_iff.mp hrest
    rw [openedIn_append, ← List.append_assoc]
    match answer with
    | .ok atr =>
      obtain ⟨rfl, heq⟩ := yields_pure_iff.mp hret
      cases heq
      simpa [openedIn, opened] using htracks
    | .error e =>
      obtain ⟨rfl, heq⟩ := yields_pure_iff.mp hret
      cases heq
      simpa [openedIn, opened] using htracks

end CardConnectionManager

/-! ## Histories -/

/-- A call of the connection manager. -/
inductive ManagerCall
  | getAtr (reader : String)
  | transmit (reader : String) (apdu : Bytes)
  | disconnect (reader : String)
  deriving DecidableEq

/-- The program of a call, for its effect on the manager. -/
def ManagerCall.program (m : CardConnectionManager) :
    ManagerCall → PcscProgram CardConnectionManager
  | getAtr reader => (m.getAtr reader).bind fun result => .pure result.2
  | transmit reader apdu => (m.transmit reader apdu).bind fun result => .pure result.2
  | disconnect reader => m.disconnect reader

/-- **Each call** of the manager counts the handles it makes. -/
theorem ManagerCall.tracks {m m' : CardConnectionManager} {handles : List String}
    (h : m.Tracks handles) {call : ManagerCall} {tr : List PcscEvent}
    (hrun : Yields (call.program m) tr m') : m'.Tracks (handles ++ openedIn tr) := by
  cases call with
  | getAtr reader =>
    obtain ⟨t₁, t₂, ⟨result, m₁⟩, rfl, hcall, hrest⟩ := yields_bind_iff.mp hrun
    obtain ⟨rfl, rfl⟩ := yields_pure_iff.mp hrest
    rw [List.append_nil]
    exact h.getAtr hcall
  | transmit reader apdu =>
    obtain ⟨t₁, t₂, ⟨result, m₁⟩, rfl, hcall, hrest⟩ := yields_bind_iff.mp hrun
    obtain ⟨rfl, rfl⟩ := yields_pure_iff.mp hrest
    rw [List.append_nil]
    exact h.transmit hcall
  | disconnect reader => exact h.disconnect hrun

namespace PcscService

variable {Sigma : Type}

/-- One step of a history: a call of the manager, or an event outside the client. -/
inductive Step (P : PcscService Sigma) :
    CardConnectionManager × Sigma → CardConnectionManager × Sigma → Prop
  | call (m : CardConnectionManager) (s : Sigma) (call : ManagerCall) :
      Step P (m, s) ((exec P.answer (call.program m) s).1, (exec P.answer (call.program m) s).2.2)
  | event (m : CardConnectionManager) {s s' : Sigma} (h : P.event s s') : Step P (m, s) (m, s')

/-- The states that a new manager comes to. -/
def Reachable (P : PcscService Sigma) (c : CardConnectionManager × Sigma) : Prop :=
  ∃ s, P.handles s = [] ∧ Relation.ReflTransGen P.Step (⟨0, ∅⟩, s) c

/-- Each step of a history keeps the count: the events besides the calls make no handle. -/
theorem Step.tracks {P : PcscService Sigma} {c c' : CardConnectionManager × Sigma}
    (h : P.Step c c') (htracks : c.1.Tracks (P.handles c.2)) : c'.1.Tracks (P.handles c'.2) := by
  cases h with
  | call m s call =>
    dsimp only
    rw [P.handles_exec]
    exact ManagerCall.tracks htracks (yields_exec P.answer _ s)
  | event m h =>
    dsimp only
    rw [P.handles_event _ _ h]
    exact htracks

/-- After any history the manager has counted the handles. -/
theorem Reachable.tracks {P : PcscService Sigma} {c : CardConnectionManager × Sigma}
    (h : P.Reachable c) : c.1.Tracks (P.handles c.2) := by
  obtain ⟨s, hs, hrun⟩ := h
  induction hrun with
  | refl =>
    dsimp only
    rw [hs]
    exact CardConnectionManager.tracks_empty
  | tail _ hstep ih => exact hstep.tracks ih

/-! ## The theorem -/

/-- The result of `get_atr` over a cached handle. -/
theorem getAtr_of_cached (P : PcscService Sigma) {m : CardConnectionManager} {s : Sigma}
    {reader : String} {card : ℕ} (hcard : m.connections.lookup reader = some card) :
    (exec P.answer (m.getAtr reader) s).1.1 =
      match (P.answer (.status2 card) s).1 with
      | .ok atr => .ok atr.1
      | .error e => .error (.pcsc e) := by
  simp only [CardConnectionManager.getAtr, CardConnectionManager.getOrConnect, hcard, monad_bind,
    monad_pure, pure_bind, exec_perform_bind]
  cases (P.answer (.status2 card) s).1 <;> rfl

/-- The first attempt to connect succeeds. -/
theorem exec_connectWithRetry (P : PcscService Sigma) {s : Sigma} {reader : String}
    (h : (P.answer (.connect reader) s).1 = .ok ()) :
    exec P.answer (CardConnectionManager.connectWithRetry reader) s =
      (.ok (), [⟨.connect reader, .ok ()⟩], (P.answer (.connect reader) s).2) := by
  unfold CardConnectionManager.connectWithRetry CardConnectionManager.maxRetries
    CardConnectionManager.connectAttempts
  rw [monad_bind, exec_perform_bind, h]
  rfl

/-- The result of `get_atr` without a cached handle, for a reader with a card. -/
theorem getAtr_of_fresh (P : PcscService Sigma) {m : CardConnectionManager} {s : Sigma}
    (htracks : m.Tracks (P.handles s)) {reader : String} (hname : cString reader = .ok reader)
    {atr : { atr : Bytes // atr.length ≤ maxAtrSize }} (hatr : P.FreshAtr s reader atr)
    (hcard : m.connections.lookup reader = none) :
    (exec P.answer (m.getAtr reader) s).1.1 = .ok atr.1 := by
  obtain ⟨hconnect, hstatus⟩ := hatr
  rw [← htracks.connected] at hstatus
  simp only [CardConnectionManager.getAtr, CardConnectionManager.getOrConnect, hcard, hname,
    monad_bind, monad_pure, bind_assoc, exec_bind, exec_connectWithRetry P hconnect, pure_bind]
  rw [exec_perform, hstatus]
  rfl

/-- **`get_atr` after any history.**  For a reader that holds a card, `get_atr` returns
the ATR of the card exactly when no invalid handle is cached for the reader. -/
theorem getAtr_eq_ok_iff {P : PcscService Sigma} {m : CardConnectionManager} {s : Sigma}
    (h : P.Reachable (m, s)) {reader : String} (hname : cString reader = .ok reader)
    {atr : { atr : Bytes // atr.length ≤ maxAtrSize }} (hatr : P.FreshAtr s reader atr) :
    (exec P.answer (m.getAtr reader) s).1.1 = .ok atr.1 ↔
      ∀ card, m.connections.lookup reader = some card → ¬ P.invalid s card := by
  have htracks := h.tracks
  cases hcard : m.connections.lookup reader with
  | none => exact iff_of_true (getAtr_of_fresh P htracks hname hatr hcard) nofun
  | some card =>
    rw [getAtr_of_cached P hcard]
    by_cases hinvalid : P.invalid s card
    · obtain ⟨e, he⟩ := P.status2_invalid s card hinvalid
      rw [he]
      exact iff_of_false nofun fun hvalid => hvalid card rfl hinvalid
    · rw [P.status2_valid s card reader atr (htracks.connections reader card hcard) hinvalid hatr]
      refine iff_of_true rfl fun card' hcard' => ?_
      cases hcard'
      exact hinvalid

end PcscService

/-! ## One reader -/

/-- One reader whose card is exchanged or reset from time to time: how often that has
happened, and the handles made, each with the count at that time. -/
structure Slot where
  generation : ℕ
  handles : List (String × ℕ)
  deriving DecidableEq

namespace Slot

/-- The card of the handle has been removed or reset. -/
def stale (s : Slot) (card : ℕ) : Bool :=
  match s.handles[card]? with
  | some handle => handle.2 < s.generation
  | none => false

/-- The error of a stale handle. -/
def resetCard : PcscError := ⟨.other, "The smart card has been reset"⟩

/-- How the reader answers; dropping a handle resets the card. -/
def answer : (o : PcscOp) → Slot → PcscRet o × Slot
  | .establish, s => (.ok (), s)
  | .connect reader, s =>
    if reader = "Reader" then
      (.ok (), { s with handles := s.handles ++ [(reader, s.generation)] })
    else (.error ⟨.other, "The specified reader name is not recognized"⟩, s)
  | .transmit card _ buffer, s =>
    if s.stale card then (.error ⟨resetCard, false⟩, s)
    else (.ok ⟨[0x6D, 0x00].take buffer, by simp⟩, s)
  | .status2 card, s =>
    if s.stale card then (.error resetCard, s)
    else (.ok ⟨[0x3B, UInt8.ofNat s.generation], by simp [maxAtrSize]⟩, s)
  | .drop _, s => ((), { s with generation := s.generation + 1 })
  | .sleep _, s => ((), s)

/-- The card is exchanged. -/
def exchangeCard (s : Slot) : Slot := { s with generation := s.generation + 1 }

/-- The reader as a PC/SC service. -/
def service : PcscService Slot where
  answer := answer
  event := fun s s' => s' = s.exchangeCard
  handles := fun s => s.handles.map Prod.fst
  invalid := fun s card => s.stale card = true
  handles_answer := by
    intro o s
    cases o with
    | connect reader => by_cases hreader : reader = "Reader" <;> simp [answer, opened, hreader]
    | transmit card apdu buffer => cases h : s.stale card <;> simp [answer, opened, h]
    | status2 card => cases h : s.stale card <;> simp [answer, opened, h]
    | _ => simp [answer, opened]
  handles_event := by
    rintro s s' rfl
    rfl
  status2_invalid := fun s card h => ⟨resetCard, by simp [answer, h]⟩
  status2_valid := by
    rintro s card reader atr - hvalid ⟨hconnect, hstatus⟩
    have hname : reader = "Reader" := by
      by_contra hne
      simp [answer, hne] at hconnect
    subst hname
    have hfresh : stale { s with handles := s.handles ++ [("Reader", s.generation)] }
        (s.handles.map Prod.fst).length = false := by simp [stale]
    simp only [answer, if_true, hfresh, Bool.false_eq_true, if_false] at hstatus
    simp only [answer, Bool.eq_false_iff.mpr hvalid, Bool.false_eq_true, if_false, hstatus]

/-- A call of the manager on the reader. -/
def after (c : CardConnectionManager × Slot) (call : ManagerCall) : CardConnectionManager × Slot :=
  ((exec answer (call.program c.1) c.2).1, (exec answer (call.program c.1) c.2).2.2)

/-- The ATR is read, and then the card is exchanged. -/
def exchanged : CardConnectionManager × Slot :=
  let c := after (⟨0, ∅⟩, ⟨0, []⟩) (.getAtr "Reader")
  (c.1, c.2.exchangeCard)

/-- After the exchange an APDU is transmitted. -/
def reconnected : CardConnectionManager × Slot :=
  after exchanged (.transmit "Reader" [0x00, 0xA4])

theorem reachable_exchanged : service.Reachable exchanged := by
  have hread : service.Step (⟨0, ∅⟩, ⟨0, []⟩) (after (⟨0, ∅⟩, ⟨0, []⟩) (.getAtr "Reader")) :=
    .call _ _ (.getAtr "Reader")
  exact ⟨⟨0, []⟩, rfl, .tail (.single hread) (.event _ rfl)⟩

theorem reachable_reconnected : service.Reachable reconnected := by
  obtain ⟨s, hs, hrun⟩ := reachable_exchanged
  exact ⟨s, hs, .tail hrun (.call exchanged.1 exchanged.2 (.transmit "Reader" [0x00, 0xA4]))⟩

/-- `transmit` has dropped the invalid handle, and `get_atr` finds the new card. -/
theorem getAtr_reconnected :
    (exec service.answer (reconnected.1.getAtr "Reader") reconnected.2).1.1 =
      .ok [0x3B, 0x02] := by
  have hatr : service.FreshAtr reconnected.2 "Reader" ⟨[0x3B, 0x02], by decide⟩ :=
    ⟨by decide, by decide⟩
  refine (PcscService.getAtr_eq_ok_iff reachable_reconnected (by decide) hatr).mpr ?_
  intro card hcard hinvalid
  have hcached : reconnected.1.connections.lookup "Reader" = some 1 := by decide
  obtain rfl := Option.some.inj (hcached.symm.trans hcard)
  have hvalid : reconnected.2.stale 1 = false := by decide
  exact absurd hinvalid (Bool.eq_false_iff.mp hvalid)

/-- After the card has been exchanged, `get_atr` fails on the handle of the old card,
although connecting would find the new one. -/
theorem not_getAtr_exchanged :
    service.Reachable exchanged ∧
      service.FreshAtr exchanged.2 "Reader" ⟨[0x3B, 0x01], by decide⟩ ∧
      (exec service.answer (exchanged.1.getAtr "Reader") exchanged.2).1.1 ≠ .ok [0x3B, 0x01] :=
  ⟨reachable_exchanged, ⟨by decide, by decide⟩, by decide⟩

end Slot

end RemoteSmartcard
