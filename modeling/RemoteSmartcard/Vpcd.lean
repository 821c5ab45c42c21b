/-
# The client of vpcd (`server/src/vpcd.rs`)

`VpcdClient` answers the requests of one virtual reader.  Its methods await the
TCP connection to vpcd, the lock of the session table and the response of a
remote client, and any other task may run at each of these points; they are
therefore interaction programs over `VpcdOp`, one operation for each such
point.  The table operations are `getSession` (a read lock around
`get_session`) and `sendCommand` (the write lock held across
`get_session_mut` and `send_command_async`); `recvResponse` is the wait of at
most 30 seconds on the oneshot receiver.

`received` and `sending` are the two log lines of the message loop; they record
which message is handed to `handle_message` and which response to
`send_response`.
-/
import RemoteSmartcard.InteractionProgram
import RemoteSmartcard.SessionManager

namespace RemoteSmartcard

/-! ## Control commands and messages -/

/-- `VpcdCtrlCommand`. -/
inductive VpcdCtrlCommand
  | powerOff
  | powerOn
  | reset
  | getAtr
  deriving DecidableEq, Repr

/-- One byte as two upper-case hexadecimal digits (`{:02X}`). -/
def hexByte (b : UInt8) : String :=
  let digits := (Nat.toDigits 16 b.toNat).map Char.toUpper
  String.ofList (if digits.length < 2 then '0' :: digits else digits)

namespace VpcdCtrlCommand

/-- The `#[repr(u8)]` value of a control command; note that `GetAtr` is 4. -/
def code : VpcdCtrlCommand → UInt8
  | powerOff => 0x00
  | powerOn => 0x01
  | reset => 0x02
  | getAtr => 0x04

/-- `VpcdCtrlCommand::try_from`. -/
def tryFrom (value : UInt8) : Except String VpcdCtrlCommand :=
  if value = 0x00 then .ok powerOff
  else if value = 0x01 then .ok powerOn
  else if value = 0x02 then .ok reset
  else if value = 0x04 then .ok getAtr
  else .error s!"Unknown vpcd control command: 0x{hexByte value}"

/-- A byte is a control command exactly if it is the code of one. -/
theorem tryFrom_eq_ok_iff {value : UInt8} {cmd : VpcdCtrlCommand} :
    tryFrom value = .ok cmd ↔ value = cmd.code := by
  unfold tryFrom
  constructor
  · intro h
    split_ifs at h with h0 h1 h2 h4
    all_goals
      injection h with h
      subst h
      assumption
  · rintro rfl
    cases cmd <;> rfl

end VpcdCtrlCommand

/-- `VpcdMessage`. -/
inductive VpcdMessage
  | control (cmd : VpcdCtrlCommand)
  | apdu (data : Bytes)
  deriving DecidableEq, Repr

/-! ## The operations -/

/-- An I/O error, by the kind the code looks at. -/
inductive IoError
  | unexpectedEof
  | other (text : String)
  deriving DecidableEq

/-- The text of an I/O error. -/
def IoError.text : IoError → String
  | unexpectedEof => "early eof"
  | other text => text

/-- A buffer of exactly `n` bytes. -/
abbrev Buffer (n : ℕ) := { data : Bytes // data.length = n }

/-- Why waiting for a response gave none. -/
inductive RecvFailure
  | closed
  | elapsed
  deriving DecidableEq

/-- The points at which a vpcd task gives up control. -/
inductive VpcdOp
  | readExact (n : ℕ)
  | writeAll (data : Bytes)
  | flush
  | received (msg : VpcdMessage)
  | sending (response : Bytes)
  | getSession (sessionId : String)
  | sleep (millis : ℕ)
  | sendCommand (sessionId : String) (command : Command) (readerName : String)
  | recvResponse (rx : ℕ)
  deriving DecidableEq

/-- The answers to the operations.  `sendCommand` answers `none` when the
session is not in the table. -/
abbrev VpcdRet : VpcdOp → Type
  | .readExact n => Except IoError (Buffer n)
  | .writeAll _ => Except String Unit
  | .flush => Except String Unit
  | .received _ => Unit
  | .sending _ => Unit
  | .getSession _ => Option Session
  | .sleep _ => Unit
  | .sendCommand _ _ _ => Option (Except String ℕ)
  | .recvResponse _ => Except RecvFailure CommandResponse

/-- Programs of a vpcd task. -/
abbrev VpcdProgram := Program VpcdOp VpcdRet

/-- One operation of a vpcd task with its answer. -/
abbrev VpcdEvent := Program.Event VpcdOp VpcdRet

namespace VpcdOp

/-! The one-operation programs, at their answer types. -/

abbrev doReadExact (n : ℕ) : VpcdProgram (Except IoError (Buffer n)) := .perform (readExact n)

abbrev doWriteAll (data : Bytes) : VpcdProgram (Except String Unit) := .perform (writeAll data)

abbrev doFlush : VpcdProgram (Except String Unit) := .perform flush

abbrev doReceived (msg : VpcdMessage) : VpcdProgram Unit := .perform (received msg)

abbrev doSending (response : Bytes) : VpcdProgram Unit := .perform (sending response)

abbrev doGetSession (sessionId : String) : VpcdProgram (Option Session) :=
  .perform (getSession sessionId)

abbrev doSleep (millis : ℕ) : VpcdProgram Unit := .perform (sleep millis)

abbrev doSendCommand (sessionId : String) (command : Command) (readerName : String) :
    VpcdProgram (Option (Except String ℕ)) :=
  .perform (sendCommand sessionId command readerName)

abbrev doRecvResponse (rx : ℕ) : VpcdProgram (Except RecvFailure CommandResponse) :=
  .perform (recvResponse rx)

end VpcdOp

open VpcdOp

/-! ## Reading and writing frames -/

/-- `u16::from_be_bytes`. -/
def u16FromBeBytes (buf : Buffer 2) : UInt16 :=
  UInt16.ofNat ((buf.1.get ⟨0, by simp [buf.2]⟩).toNat * 256 +
    (buf.1.get ⟨1, by simp [buf.2]⟩).toNat)

/-- `u16::to_be_bytes`. -/
def u16ToBeBytes (n : UInt16) : Bytes := [UInt8.ofNat (n.toNat / 256), UInt8.ofNat (n.toNat % 256)]

/-- `VpcdClient::receive_message`: two bytes of length, then the data; a single
byte is a control command, more than one an APDU. -/
def receiveMessage : VpcdProgram (Except String (Option VpcdMessage)) := do
  match ← doReadExact 2 with
  -- the end of the stream within the length field counts as a regular end
  | .error .unexpectedEof => pure (.ok none)
  | .error e => pure (.error s!"Failed to read length: {e.text}")
  | .ok lenBuf =>
    let len := (u16FromBeBytes lenBuf).toNat
    if len = 0 then pure (.error "Invalid zero-length message")
    else do
      match ← doReadExact len with
      | .error e => pure (.error s!"Failed to read message data: {e.text}")
      | .ok data =>
        if h : len = 1 then
          match VpcdCtrlCommand.tryFrom (data.1.get ⟨0, by rw [data.2, h]; exact Nat.one_pos⟩) with
          | .ok cmd => pure (.ok (some (.control cmd)))
          | .error e => pure (.error e)
        else pure (.ok (some (.apdu data.1)))

/-- `VpcdClient::send_response`: the length as a `u16`, then the data. -/
def sendResponse (data : Bytes) : VpcdProgram (Except String Unit) := do
  match ← doWriteAll (u16ToBeBytes (UInt16.ofNat data.length)) with
  | .error e => pure (.error s!"Failed to write length: {e}")
  | .ok () =>
    match ← doWriteAll data with
    | .error e => pure (.error s!"Failed to write data: {e}")
    | .ok () =>
      match ← doFlush with
      | .error e => pure (.error s!"Failed to flush: {e}")
      | .ok () => pure (.ok ())

/-! ## The client -/

/-- `VpcdClient`, without the shared session table. -/
structure VpcdClient where
  sessionId : Option String
  readerName : Option String
  atr : Bytes
  powered : Bool
  deriving DecidableEq

namespace VpcdClient

/-- `VpcdClient::new`. -/
def new : VpcdClient := ⟨none, none, [], true⟩

/-- `VpcdClient::set_target`. -/
def setTarget (c : VpcdClient) (sessionId readerName : String) : VpcdClient :=
  { c with sessionId := some sessionId, readerName := some readerName }

/-- The polling loop of `wait_for_command_channel`: `n` looks at the session,
100 ms apart. -/
def pollCommandChannel (sessionId : String) : ℕ → VpcdProgram Bool
  | 0 => pure false
  | n + 1 => do
    match ← doGetSession sessionId with
    | some session =>
      if session.commandChannel.isSome then pure true
      else do
        doSleep 100
        pollCommandChannel sessionId n
    | none => pure false

/-- `VpcdClient::wait_for_command_channel`: up to 30 seconds. -/
def waitForCommandChannel (c : VpcdClient) : VpcdProgram Bool :=
  match c.sessionId, c.readerName with
  | some sessionId, some _ => pollCommandChannel sessionId 300
  | _, _ => pure false

/-- The status word 6F00, no precise diagnosis. -/
def noPreciseDiagnosis : Bytes := [0x6F, 0x00]

/-- What `forward_apdu` makes of a response: data, SW1 and SW2 when the command
succeeded with an APDU response, else 6F00. -/
def apduResult (response : CommandResponse) : Bytes :=
  if response.success then
    match response.response with
    | some (.apdu resp) => resp.data ++ [resp.sw1.toUInt8, resp.sw2.toUInt8]
    | _ => noPreciseDiagnosis
  else noPreciseDiagnosis

/-- `VpcdClient::forward_apdu`. -/
def forwardApdu (c : VpcdClient) (apdu : Bytes) : VpcdProgram Bytes :=
  match c.sessionId, c.readerName with
  | some sessionId, some readerName => do
    if !(← c.waitForCommandChannel) then pure noPreciseDiagnosis
    else do
      match ← doSendCommand sessionId (.apdu ⟨apdu⟩) readerName with
      | none => pure noPreciseDiagnosis
      | some (.error _) => pure noPreciseDiagnosis
      | some (.ok rx) => do
        match ← doRecvResponse rx with
        | .ok response => pure (apduResult response)
        | .error .closed => pure noPreciseDiagnosis
        | .error .elapsed => pure noPreciseDiagnosis
  | _, _ => pure noPreciseDiagnosis

/-- The ATR a response carries, if the command succeeded with an ATR response. -/
def atrResult (response : CommandResponse) : Option Bytes :=
  if response.success then
    match response.response with
    | some (.atr resp) => some resp.atr
    | _ => none
  else none

/-- The non-empty ATR the session has stored for a reader. -/
def cachedAtr (session : Option Session) (readerName : String) : Option Bytes :=
  match session with
  | some session =>
    match session.readers.lookup readerName with
    | some info => if info.atr.isEmpty then none else some info.atr
    | none => none
  | none => none

/-- `VpcdClient::get_atr_from_client`: the ATR stored in the session, else a
`GetAtr` command to the remote client. -/
def getAtrFromClient (c : VpcdClient) : VpcdProgram (Bytes × VpcdClient) :=
  match c.sessionId, c.readerName with
  | some sessionId, some readerName => do
    match cachedAtr (← doGetSession sessionId) readerName with
    | some atr => pure (atr, { c with atr := atr })
    | none =>
      if !(← c.waitForCommandChannel) then pure ([], c)
      else do
        match ← doSendCommand sessionId (.getAtr ⟨⟩) readerName with
        | none => pure ([], c)
        | some (.error _) => pure ([], c)
        | some (.ok rx) => do
          match ← doRecvResponse rx with
          | .ok response =>
            match atrResult response with
            | some atr => pure (atr, { c with atr := atr })
            | none => pure ([], c)
          | .error .closed => pure ([], c)
          | .error .elapsed => pure ([], c)
  | _, _ => pure ([], c)

/-- `VpcdClient::handle_message`: a response for `GetAtr` and APDUs, none for
the power commands. -/
def handleMessage (c : VpcdClient) : VpcdMessage → VpcdProgram (Option Bytes × VpcdClient)
  -- the power state is a field of the client; no command is sent for it
  | .control .powerOff => pure (none, { c with powered := false })
  | .control .powerOn => pure (none, { c with powered := true })
  | .control .reset => pure (none, c)
  | .control .getAtr => do
    let (atr, c) ← c.getAtrFromClient
    pure (some atr, c)
  | .apdu data => do
    let response ← c.forwardApdu data
    pure (some response, c)

/-- One turn of the message loop of `VpcdClient::connect`; `false` is a
`break`. -/
def messageLoopBody (c : VpcdClient) : VpcdProgram (Bool × VpcdClient) := do
  match ← receiveMessage with
  | .ok (some msg) => do
    doReceived msg
    let (answer, c) ← c.handleMessage msg
    match answer with
    | some response => do
      doSending response
      match ← sendResponse response with
      | .error _ => pure (false, c)
      | .ok () => pure (true, c)
    | none => pure (true, c)
  | .ok none => pure (false, c)
  | .error _ => pure (false, c)

end VpcdClient

end RemoteSmartcard
