/-
# The card connections of the client (`client/src/pcsc_reader.rs`)

`CardConnectionManager` keeps one PC/SC connection per reader.  The functions
are interaction programs over `PcscOp`, the calls into the `pcsc` crate and the
sleeps between two attempts to connect; what PC/SC and the card do is the
answer to an operation.

A card connection (`Card`) is named by its rank among the connections the
context has made, so that two connections never share a name.  The answer to a
failed `transmit` says whether the card had executed the APDU; no program looks
at it, since `pcsc::Error` does not tell.  Dropping a `Card` resets the card.
-/
import Mathlib.Data.Finmap
import RemoteSmartcard.InteractionProgram
import RemoteSmartcard.Protocol

namespace RemoteSmartcard

/-! ## Errors -/

/-- The cases of `pcsc::Error` that the client tells apart. -/
inductive PcscErrorKind
  | sharingViolation
  | readerUnavailable
  | other
  deriving DecidableEq

/-- `pcsc::Error`, with the text it displays. -/
structure PcscError where
  kind : PcscErrorKind
  text : String
  deriving DecidableEq

/-- `ClientError`; an error of another library by the text it displays. -/
inductive ClientError
  | config (text : String)
  | pcsc (e : PcscError)
  | smartcard (text : String)
  | connection (text : String)
  | tls (text : String)
  | io (text : String)
  | common (text : String)
  deriving DecidableEq

/-- The text of a client error. -/
def ClientError.text : ClientError → String
  | config text => s!"Configuration error: {text}"
  | pcsc e => s!"PC/SC error: {e.text}"
  | smartcard text => s!"Smartcard error: {text}"
  | connection text => s!"Connection error: {text}"
  | tls text => s!"TLS error: {text}"
  | io text => s!"I/O error: {text}"
  | common text => text

/-! ## The operations -/

/-- The calls into PC/SC, and the sleep of a retry. -/
inductive PcscOp
  | establish
  | connect (reader : String)
  | transmit (card : ℕ) (apdu : Bytes) (buffer : ℕ)
  | status2 (card : ℕ)
  | drop (card : ℕ)
  | sleep (millis : ℕ)
  deriving DecidableEq

/-- A failed `transmit`: the error, and whether the card had executed the APDU
by then. -/
structure TransmitFailure where
  error : PcscError
  executed : Bool
  deriving DecidableEq

/-- What `transmit` gives: a response that fits the buffer, or a failure. -/
abbrev TransmitReply (buffer : ℕ) :=
  Except TransmitFailure { response : Bytes // response.length ≤ buffer }

/-- `pcsc::MAX_ATR_SIZE`. -/
def maxAtrSize : ℕ := 33

/-- The answers to the operations. -/
abbrev PcscRet : PcscOp → Type
  | .establish => Except PcscError Unit
  | .connect _ => Except PcscError Unit
  | .transmit _ _ buffer => TransmitReply buffer
  | .status2 _ => Except PcscError { atr : Bytes // atr.length ≤ maxAtrSize }
  | .drop _ => Unit
  | .sleep _ => Unit

/-- Programs of the client's card access. -/
abbrev PcscProgram := Program PcscOp PcscRet

/-- One call into PC/SC with its answer. -/
abbrev PcscEvent := Program.Event PcscOp PcscRet

namespace PcscOp

/-! The one-operation programs, at their answer types. -/

abbrev doEstablish : PcscProgram (Except PcscError Unit) := .perform establish

abbrev doConnect (reader : String) : PcscProgram (Except PcscError Unit) :=
  .perform (connect reader)

abbrev doTransmit (card : ℕ) (apdu : Bytes) (buffer : ℕ) : PcscProgram (TransmitReply buffer) :=
  .perform (transmit card apdu buffer)

abbrev doStatus2 (card : ℕ) :
    PcscProgram (Except PcscError { atr : Bytes // atr.length ≤ maxAtrSize }) :=
  .perform (status2 card)

abbrev doDrop (card : ℕ) : PcscProgram Unit := .perform (drop card)

abbrev doSleep (millis : ℕ) : PcscProgram Unit := .perform (sleep millis)

end PcscOp

open PcscOp

/-! ## The connection manager -/

/-- `CString::new`: the bytes of the name up to a NUL byte, which is an error. -/
def cString (name : String) : Except String String :=
  match name.toUTF8.data.toList.findIdx? (· = 0) with
  | some position => .error s!"nul byte found in provided data at position: {position}"
  | none => .ok name

/-- A name without NUL is its own C string. -/
theorem cString_eq_ok {name name' : String} (h : cString name = .ok name') : name' = name := by
  unfold cString at h
  split at h
  · cases h
  · exact (Except.ok.inj h).symm

/-- `CardConnectionManager`: how many connections the context has made, and the
connection kept for each reader. -/
structure CardConnectionManager where
  connected : ℕ
  connections : Finmap fun _ : String => ℕ

namespace CardConnectionManager

/-- `MAX_RETRIES` of `connect_with_retry`. -/
def maxRetries : ℕ := 5

/-- `RETRY_DELAY_MS` of `connect_with_retry`. -/
def retryDelayMs : ℕ := 500

/-- The loop of `connect_with_retry` with `n` attempts left. -/
def connectAttempts (reader : String) : ℕ → PcscProgram (Except ClientError Unit)
  | 0 => pure (.error (.smartcard "Connection failed"))
  | n + 1 => do
    match ← doConnect reader with
    | .ok () => pure (.ok ())
    | .error e =>
      match e.kind with
      | .sharingViolation =>
        if 0 < n then do
          doSleep retryDelayMs
          connectAttempts reader n
        else pure (.error (.smartcard
          "Card is busy (sharing violation). Another application may be using it."))
      | .readerUnavailable =>
        if 0 < n then do
          doSleep retryDelayMs
          connectAttempts reader n
        else pure (.error (.smartcard "Reader unavailable after retries"))
      | .other => pure (.error (.pcsc e))

/-- `connect_with_retry`. -/
def connectWithRetry (reader : String) : PcscProgram (Except ClientError Unit) :=
  connectAttempts reader maxRetries

/-- Keep a new connection for a reader. -/
def keep (m : CardConnectionManager) (reader : String) : CardConnectionManager where
  connected := m.connected + 1
  connections := m.connections.insert reader m.connected

/-- `get_or_connect`. -/
def getOrConnect (m : CardConnectionManager) (reader : String) :
    PcscProgram (Except ClientError ℕ × CardConnectionManager) :=
  match m.connections.lookup reader with
  | some card => pure (.ok card, m)
  | none =>
    match cString reader with
    | .error e => pure (.error (.config s!"Invalid reader name: {e}"), m)
    | .ok readerCstr => do
      match ← connectWithRetry readerCstr with
      | .error e => pure (.error e, m)
      | .ok () => pure (.ok m.connected, m.keep reader)

/-- `disconnect`: the connection, if there is one, is removed and dropped. -/
def disconnect (m : CardConnectionManager) (reader : String) :
    PcscProgram CardConnectionManager :=
  match m.connections.lookup reader with
  | some card => do
    doDrop card
    pure { m with connections := m.connections.erase reader }
  | none => pure m

/-- The size of the response buffer of `try_transmit`. -/
def responseBuffer : ℕ := 65538

/-- The result of `try_transmit` for a reply of the card. -/
def replyResult {buffer : ℕ} : TransmitReply buffer → Except ClientError Bytes
  | .ok response => .ok response.1
  | .error failure => .error (.pcsc failure.error)

/-- `try_transmit`. -/
def tryTransmit (m : CardConnectionManager) (reader : String) (apdu : Bytes) :
    PcscProgram (Except ClientError Bytes × CardConnectionManager) := do
  match ← m.getOrConnect reader with
  | (.error e, m) => pure (.error e, m)
  | (.ok card, m) =>
    let reply ← doTransmit card apdu responseBuffer
    pure (replyResult reply, m)

/-- `transmit`: when the first attempt fails, disconnect and try once more. -/
def transmit (m : CardConnectionManager) (reader : String) (apdu : Bytes) :
    PcscProgram (Except ClientError Bytes × CardConnectionManager) := do
  match ← m.tryTransmit reader apdu with
  | (.ok response, m) => pure (.ok response, m)
  -- whatever the error: the card may have executed the APDU all the same
  | (.error _, m) =>
    let m ← m.disconnect reader
    m.tryTransmit reader apdu

/-- `get_atr`. -/
def getAtr (m : CardConnectionManager) (reader : String) :
    PcscProgram (Except ClientError Bytes × CardConnectionManager) := do
  match ← m.getOrConnect reader with
  | (.error e, m) => pure (.error e, m)
  | (.ok card, m) =>
    match ← doStatus2 card with
    | .ok atr => pure (.ok atr.1, m)
    | .error e => pure (.error (.pcsc e), m)

end CardConnectionManager

/-! ## The functions of the module -/

/-- `CARD_CONNECTIONS`. -/
abbrev CardConnections := Option CardConnectionManager

namespace CardConnections

/-- `ensure_manager`, and the manager that is there afterwards. -/
def ensureManager (g : CardConnections) : PcscProgram (Except ClientError CardConnectionManager) :=
  match g with
  | some m => pure (.ok m)
  | none => do
    match ← doEstablish with
    | .ok () => pure (.ok ⟨0, ∅⟩)
    | .error e => pure (.error (.pcsc e))

/-- Run a method of the manager under the lock of `CARD_CONNECTIONS`, after
`ensure_manager`. -/
def withManager (g : CardConnections)
    (method : CardConnectionManager →
      PcscProgram (Except ClientError Bytes × CardConnectionManager)) :
    PcscProgram (Except ClientError Bytes × CardConnections) := do
  match ← ensureManager g with
  | .error e => pure (.error e, g)
  | .ok m =>
    let result ← method m
    pure (result.1, some result.2)

/-- `pcsc_reader::get_atr`. -/
def getAtr (g : CardConnections) (reader : String) :
    PcscProgram (Except ClientError Bytes × CardConnections) :=
  withManager g fun m => m.getAtr reader

/-- `pcsc_reader::transmit_apdu`. -/
def transmitApdu (g : CardConnections) (reader : String) (apdu : Bytes) :
    PcscProgram (Except ClientError Bytes × CardConnections) :=
  withManager g fun m => m.transmit reader apdu

end CardConnections

/-- PC/SC with a card that works, except that the `k`-th `transmit` fails, after
the card has executed the APDU or before; the state counts the transmits. -/
def flakyCard (k : ℕ) (executed : Bool) : (o : PcscOp) → ℕ → PcscRet o × ℕ
  | .establish, n => (.ok (), n)
  | .connect _, n => (.ok (), n)
  | .transmit _ _ buffer, n =>
    if n = k then (.error ⟨⟨.other, "The smart card has been reset"⟩, executed⟩, n + 1)
    else (.ok ⟨[0x90, 0x00].take buffer, by simp⟩, n + 1)
  | .status2 _, n => (.ok ⟨[], by simp⟩, n)
  | .drop _, n => ((), n)
  | .sleep _, n => ((), n)

end RemoteSmartcard
