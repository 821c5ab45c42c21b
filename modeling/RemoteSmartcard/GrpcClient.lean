/-
# The commands at the client (`client/src/grpc_client.rs`)

`process_command` and its handlers: a command that came over the command
channel is carried out on the local card, and the outcome becomes the response
with the command's id.  A handler is the call into `pcsc_reader` followed by a
function of its result (`apduOutcome`, `connectOutcome`, `atrOutcome`).

An APDU command comes down to one call of `transmit_apdu`
(`yields_processCommand_apdu`); every other command puts nothing to the card
(`silent_processCommand`).
-/
import RemoteSmartcard.CardConnection

namespace RemoteSmartcard

open Program hiding pure

/-- What a handler returns: success, the error text and the response. -/
abbrev HandlerResult := Bool × String × Option ResponseBody

/-- `str::contains` for a text. -/
def containsText (s text : String) : Bool := decide (text.toList <:+: s.toList)

namespace GrpcClient

/-- The message by which `start_command_channel` registers its stream. -/
def initialResponse (sessionId : String) : CommandResponse := ⟨0, sessionId, true, "", none⟩

/-- What `handle_apdu_command` makes of the result of `transmit_apdu`: the last
two bytes are SW1 and SW2, as `uint32`. -/
def apduOutcome : Except ClientError Bytes → HandlerResult
  | .ok responseData =>
    if h : 2 ≤ responseData.length then
      let len := responseData.length
      let sw1 := (responseData.get ⟨len - 2, by omega⟩).toUInt32
      let sw2 := (responseData.get ⟨len - 1, by omega⟩).toUInt32
      (true, "", some (.apdu ⟨responseData.take (len - 2), sw1, sw2⟩))
    else (false, "Invalid response length", none)
  | .error e => (false, s!"APDU transmission failed: {e.text}", none)

/-- `handle_apdu_command`. -/
def handleApduCommand (g : CardConnections) (readerName : String) (apdu : Bytes) :
    PcscProgram (HandlerResult × CardConnections) := do
  let result ← g.transmitApdu readerName apdu
  pure (apduOutcome result.1, result.2)

/-- What `handle_connect_command` makes of the result of `get_atr`. -/
def connectOutcome : Except ClientError Bytes → HandlerResult
  | .ok atr => (true, "", some (.connect ⟨1, 0, atr⟩))
  | .error e => (false, s!"Card connect failed: {e.text}", none)

/-- `handle_connect_command`: the share mode and the protocol are not looked
at. -/
def handleConnectCommand (g : CardConnections) (readerName : String) (_cmd : CardConnectCommand) :
    PcscProgram (HandlerResult × CardConnections) := do
  let result ← g.getAtr readerName
  pure (connectOutcome result.1, result.2)

/-- `handle_disconnect_command`: nothing is done, and the disposition is not
looked at. -/
def handleDisconnectCommand (g : CardConnections) (_readerName : String)
    (_cmd : CardDisconnectCommand) : PcscProgram (HandlerResult × CardConnections) :=
  pure ((true, "", some (.disconnect ⟨⟩)), g)

/-- The texts by which `handle_get_atr_command` knows that there is no card. -/
def noCardTexts : List String := ["SCARD_E_NO_SMARTCARD", "No card", "NoSmartcard"]

/-- What `handle_get_atr_command` makes of the result of `get_atr`. -/
def atrOutcome : Except ClientError Bytes → HandlerResult
  | .ok atr => (true, "", some (.atr ⟨atr, true⟩))
  | .error e =>
    if noCardTexts.any (containsText e.text) then (true, "", some (.atr ⟨[], false⟩))
    else (false, s!"Get ATR failed: {e.text}", none)

/-- `handle_get_atr_command`. -/
def handleGetAtrCommand (g : CardConnections) (readerName : String) :
    PcscProgram (HandlerResult × CardConnections) := do
  let result ← g.getAtr readerName
  pure (atrOutcome result.1, result.2)

/-- The dispatch of `process_command`. -/
def handleCommand (g : CardConnections) (readerName : String) :
    Option Command → PcscProgram (HandlerResult × CardConnections)
  | some (.apdu cmd) => handleApduCommand g readerName cmd.apdu
  | some (.connect cmd) => handleConnectCommand g readerName cmd
  | some (.disconnect cmd) => handleDisconnectCommand g readerName cmd
  | some (.getAtr _) => handleGetAtrCommand g readerName
  | none => pure ((false, "Empty command", none), g)

/-- The response to a request with the result of its handler. -/
def responseTo (sessionId : String) (request : CommandRequest) (result : HandlerResult) :
    CommandResponse :=
  ⟨request.commandId, sessionId, result.1, result.2.1, result.2.2⟩

/-- `process_command`. -/
def processCommand (g : CardConnections) (sessionId : String) (request : CommandRequest) :
    PcscProgram (CommandResponse × CardConnections) := do
  let result ← handleCommand g request.readerName request.command
  pure (responseTo sessionId request result.1, result.2)

end GrpcClient

/-! ## What a command does to the card -/

/-- An APDU command is carried out by one call of `transmit_apdu`, with the APDU
and the reader of the request. -/
theorem GrpcClient.yields_processCommand_apdu {g g' : CardConnections} {sessionId : String}
    {request : CommandRequest} {apdu : Bytes} (hcommand : request.command = some (.apdu ⟨apdu⟩))
    {tr : List PcscEvent} {response : CommandResponse}
    (h : Yields (processCommand g sessionId request) tr (response, g')) :
    ∃ outcome, Yields (g.transmitApdu request.readerName apdu) tr (outcome, g') ∧
      response = responseTo sessionId request (apduOutcome outcome) := by
  obtain ⟨t₁, t₂, ⟨result, g₁⟩, rfl, hhandle, hret⟩ := yields_bind_iff.mp h
  obtain ⟨rfl, heq⟩ := yields_pure_iff.mp hret
  obtain ⟨rfl, rfl⟩ := Prod.mk.inj heq
  rw [hcommand] at hhandle
  obtain ⟨t₃, t₄, ⟨outcome, g₂⟩, rfl, htransmit, hend⟩ := yields_bind_iff.mp hhandle
  obtain ⟨rfl, heq⟩ := yields_pure_iff.mp hend
  obtain ⟨rfl, rfl⟩ := Prod.mk.inj heq
  exact ⟨outcome, by simpa using htransmit, rfl⟩

theorem CardConnections.silent_getAtr (g : CardConnections) (reader : String) :
    Uses PcscOp.Silent (g.getAtr reader) := by
  have hrest : ∀ m : CardConnectionManager, Uses PcscOp.Silent
      ((m.getAtr reader).bind fun result => Program.pure (result.1, some result.2)) :=
    fun m => (m.silent_getAtr reader).bind fun _ => trivial
  cases g with
  | some m => exact hrest m
  | none =>
    refine .perform_bind trivial fun answer => ?_
    match answer with
    | .ok () => exact hrest _
    | .error e => trivial

/-- A command that is no APDU puts nothing to the card. -/
theorem GrpcClient.silent_processCommand (g : CardConnections) (sessionId : String)
    {request : CommandRequest} (h : ∀ cmd, request.command ≠ some (.apdu cmd)) :
    Uses PcscOp.Silent (processCommand g sessionId request) := by
  have hatr : ∀ f : Except ClientError Bytes → HandlerResult, Uses PcscOp.Silent
      ((g.getAtr request.readerName).bind fun result => Program.pure (f result.1, result.2)) :=
    fun f => (g.silent_getAtr request.readerName).bind fun _ => trivial
  have hcommand :
      Uses PcscOp.Silent (handleCommand g request.readerName request.command) := by
    match hc : request.command with
    | none => trivial
    | some (.disconnect cmd) => trivial
    | some (.connect cmd) => exact hatr connectOutcome
    | some (.getAtr cmd) => exact hatr atrOutcome
    | some (.apdu cmd) => exact absurd hc (h cmd)
  exact hcommand.bind fun _ => trivial

end RemoteSmartcard
