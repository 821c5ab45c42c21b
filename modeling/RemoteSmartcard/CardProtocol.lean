/-
# How the client handles its card connection

The programs of the client keep to a protocol with the card of one reader: an
APDU, a status request or a disconnect goes to the connection that is held, and
a connection is made only when none is held.  The protocol state is the
connection held, and the rank the next connection will have; it is what the
cache of the manager says between two calls (`CardConnections.holding`).

From this it follows how far a connection lasts: until it is dropped.
-/
import RemoteSmartcard.GrpcClient

namespace RemoteSmartcard

open Program hiding pure

/-- The connection held to the card of a reader, and the rank of the next one. -/
structure Holding where
  card : Option ℕ
  next : ℕ
  deriving DecidableEq

/-- What may be done with the connection held. -/
def Holding.allowed (h : Holding) : PcscOp → Prop
  | .transmit card _ _ => h.card = some card
  | .status2 card => h.card = some card
  | .drop card => h.card = some card
  | .connect _ => h.card = none
  | .establish => True
  | .sleep _ => True

/-- The connection held after an operation. -/
def Holding.after (h : Holding) : (o : PcscOp) → PcscRet o → Holding
  | .connect _, .ok () => ⟨some h.next, h.next + 1⟩
  | .drop _, () => ⟨none, h.next⟩
  | _, _ => h

/-- The protocol of the card connection. -/
def connectionProtocol : Protocol PcscOp PcscRet Holding := ⟨Holding.allowed, Holding.after⟩

namespace CardConnectionManager

/-- The connection the manager holds to the card of a reader. -/
def holding (m : CardConnectionManager) (reader : String) : Holding :=
  ⟨m.connections.lookup reader, m.connected⟩

/-- The attempts to connect hold the new connection at their end, or none. -/
theorem obeys_connectAttempts (reader : String) (n c : ℕ) :
    Obeys connectionProtocol
      (fun result h => h = if result = .ok () then ⟨some c, c + 1⟩ else ⟨none, c⟩)
      (connectAttempts reader n) ⟨none, c⟩ := by
  induction n with
  | zero => rfl
  | succ n ih =>
    refine .perform_bind rfl fun answer => ?_
    match answer with
    | .ok () => rfl
    | .error ⟨.other, _⟩ => rfl
    | .error ⟨.sharingViolation, _⟩ =>
      by_cases hn : 0 < n
      · simp only [hn, if_true]
        exact .perform_bind trivial fun _ => ih
      · simp only [hn, if_false]
        rfl
    | .error ⟨.readerUnavailable, _⟩ =>
      by_cases hn : 0 < n
      · simp only [hn, if_true]
        exact .perform_bind trivial fun _ => ih
      · simp only [hn, if_false]
        rfl

/-- `get_or_connect` connects only where nothing is held, and gives what is held afterwards. -/
theorem obeys_getOrConnect (m : CardConnectionManager) (reader : String) :
    Obeys connectionProtocol
      (fun result h => h = result.2.holding reader ∧ ∀ card, result.1 = .ok card →
        h.card = some card)
      (m.getOrConnect reader) (m.holding reader) := by
  unfold getOrConnect
  split
  · rename_i card hcard
    exact ⟨rfl, fun card' heq => by rw [← Except.ok.inj heq]; exact hcard⟩
  · rename_i hnone
    have hholding : m.holding reader = ⟨none, m.connected⟩ := by rw [holding, hnone]
    split
    · exact ⟨rfl, fun card heq => by cases heq⟩
    · rename_i readerCstr _
      rw [hholding]
      refine (obeys_connectAttempts readerCstr maxRetries m.connected).bind fun result h hh => ?_
      match result with
      | .error e => exact ⟨hh.trans hholding.symm, fun card heq => by cases heq⟩
      | .ok () =>
        have hkeep : (m.keep reader).holding reader = ⟨some m.connected, m.connected + 1⟩ := by
          simp [holding, keep]
        refine ⟨hh.trans hkeep.symm, fun card heq => ?_⟩
        rw [hh, ← Except.ok.inj heq]
        rfl

/-- `try_transmit` uses the connection held. -/
theorem obeys_tryTransmit (m : CardConnectionManager) (reader : String) (apdu : Bytes) :
    Obeys connectionProtocol (fun result h => h = result.2.holding reader)
      (m.tryTransmit reader apdu) (m.holding reader) := by
  refine (obeys_getOrConnect m reader).bind fun result h hh => ?_
  obtain ⟨found, m'⟩ := result
  match found with
  | .error e => exact hh.1
  | .ok card => exact .perform_bind (hh.2 card rfl) fun _ => hh.1

/-- `disconnect` gives the connection up. -/
theorem obeys_disconnect (m : CardConnectionManager) (reader : String) :
    Obeys connectionProtocol (fun m' h => h = m'.holding reader)
      (m.disconnect reader) (m.holding reader) := by
  unfold disconnect
  split
  · rename_i card hcard
    refine .perform_bind hcard fun _ => ?_
    show (⟨none, m.connected⟩ : Holding) = _
    simp [holding]
  · rfl

/-- `transmit` gives a connection that has failed up before it makes another. -/
theorem obeys_transmit (m : CardConnectionManager) (reader : String) (apdu : Bytes) :
    Obeys connectionProtocol (fun result h => h = result.2.holding reader)
      (m.transmit reader apdu) (m.holding reader) := by
  refine (obeys_tryTransmit m reader apdu).bind fun result h hh => ?_
  obtain ⟨first, m'⟩ := result
  match first with
  | .ok response => exact hh
  | .error e =>
    rw [hh]
    refine (obeys_disconnect m' reader).bind fun m'' h'' hh'' => ?_
    rw [hh'']
    exact obeys_tryTransmit m'' reader apdu

/-- `get_atr` asks the connection held, and keeps it. -/
theorem obeys_getAtr (m : CardConnectionManager) (reader : String) :
    Obeys connectionProtocol (fun result h => h = result.2.holding reader)
      (m.getAtr reader) (m.holding reader) := by
  refine (obeys_getOrConnect m reader).bind fun result h hh => ?_
  obtain ⟨found, m'⟩ := result
  match found with
  | .error e => exact hh.1
  | .ok card =>
    refine .perform_bind (hh.2 card rfl) fun answer => ?_
    match answer with
    | .ok atr => exact hh.1
    | .error e => exact hh.1

end CardConnectionManager

namespace CardConnections

/-- The connection held to the card of a reader. -/
def holding (g : CardConnections) (reader : String) : Holding := g.manager.holding reader

/-- A method of the manager obeys the protocol behind the cache too, whose context is no
connection. -/
theorem obeys_withManager {g : CardConnections} {reader : String}
    {method : CardConnectionManager →
      PcscProgram (Except ClientError Bytes × CardConnectionManager)}
    (hmethod : Obeys connectionProtocol (fun result h => h = result.2.holding reader)
      (method g.manager) (g.holding reader)) :
    Obeys connectionProtocol (fun result h => h = CardConnections.holding result.2 reader)
      (g.withManager method) (g.holding reader) := by
  have hrest : Obeys connectionProtocol
      (fun result h => h = CardConnections.holding result.2 reader)
      ((method g.manager).bind fun result => Program.pure (result.1, some result.2))
      (g.holding reader) := hmethod.bind fun result h hh => hh
  cases g with
  | some m => exact hrest
  | none =>
    refine .perform_bind trivial fun answer => ?_
    match answer with
    | .ok () => exact hrest
    | .error e => rfl

end CardConnections

/-- **The client keeps to the protocol** whatever command it processes for the
reader. -/
theorem GrpcClient.obeys_processCommand (g : CardConnections) (sessionId : String)
    (request : CommandRequest) :
    Obeys connectionProtocol
      (fun result h => h = CardConnections.holding result.2 request.readerName)
      (processCommand g sessionId request) (g.holding request.readerName) := by
  have hatr : ∀ f : Except ClientError Bytes → HandlerResult,
      Obeys connectionProtocol
        (fun result h => h = CardConnections.holding result.2 request.readerName)
        ((g.getAtr request.readerName).bind fun result => Program.pure (f result.1, result.2))
        (g.holding request.readerName) := fun f =>
    (CardConnections.obeys_withManager
      (CardConnectionManager.obeys_getAtr g.manager request.readerName)).bind fun _ _ hh => hh
  have hcommand : Obeys connectionProtocol
      (fun result h => h = CardConnections.holding result.2 request.readerName)
      (handleCommand g request.readerName request.command) (g.holding request.readerName) := by
    match request.command with
    | none => exact rfl
    | some (.disconnect cmd) => exact rfl
    | some (.connect cmd) => exact hatr connectOutcome
    | some (.getAtr cmd) => exact hatr atrOutcome
    | some (.apdu cmd) =>
      exact (CardConnections.obeys_withManager (CardConnectionManager.obeys_transmit g.manager
        request.readerName cmd.apdu)).bind fun _ _ hh => hh
  exact hcommand.bind fun _ _ hh => hh

end RemoteSmartcard
