/-
# Messages between client and server (`protocol/smartcard.proto`)

The messages of the command channel and of the session RPCs, as the generated
code represents them: `bytes` are lists of bytes, `uint32` / `uint64` are
machine words, an enumeration field is the `int32` that travels on the wire,
a `oneof` is an optional value of an inductive type.
-/
import Mathlib.Tactic

namespace RemoteSmartcard

/-- A byte string (`Vec<u8>`). -/
abbrev Bytes := List UInt8

/-! ## Commands, server to client -/

/-- `ApduCommand`: the APDU to transmit. -/
structure ApduCommand where
  apdu : Bytes
  deriving DecidableEq, Repr

/-- `CardConnectCommand`. -/
structure CardConnectCommand where
  shareMode : Int32
  preferredProtocol : Int32
  deriving DecidableEq, Repr

/-- `CardDisconnectCommand`. -/
structure CardDisconnectCommand where
  cardHandle : UInt64
  disposition : Int32
  deriving DecidableEq, Repr

/-- `GetAtrCommand`, without fields. -/
structure GetAtrCommand where
  deriving DecidableEq, Repr

/-- The `oneof command` of `CommandRequest`. -/
inductive Command
  | apdu (cmd : ApduCommand)
  | connect (cmd : CardConnectCommand)
  | disconnect (cmd : CardDisconnectCommand)
  | getAtr (cmd : GetAtrCommand)
  deriving DecidableEq, Repr

/-- `CommandRequest`: a command for the local card of a client. -/
structure CommandRequest where
  commandId : UInt64
  command : Option Command
  readerName : String
  deriving DecidableEq, Repr

/-! ## Responses, client to server -/

/-- `CommandResponse.ApduResponse`: response data and the two status words. -/
structure ApduResponse where
  data : Bytes
  sw1 : UInt32
  sw2 : UInt32
  deriving DecidableEq, Repr

/-- `CommandResponse.ConnectResponse`. -/
structure CardConnectResponse where
  cardHandle : UInt64
  activeProtocol : Int32
  atr : Bytes
  deriving DecidableEq, Repr

/-- `CommandResponse.DisconnectResponse`, without fields. -/
structure CardDisconnectResponse where
  deriving DecidableEq, Repr

/-- `CommandResponse.AtrResponse`. -/
structure AtrResponse where
  atr : Bytes
  cardPresent : Bool
  deriving DecidableEq, Repr

/-- The `oneof response` of `CommandResponse`. -/
inductive ResponseBody
  | apdu (resp : ApduResponse)
  | connect (resp : CardConnectResponse)
  | disconnect (resp : CardDisconnectResponse)
  | atr (resp : AtrResponse)
  deriving DecidableEq, Repr

/-- `CommandResponse`: the result of a command, or (with `commandId = 0`) the
message by which a client registers its command channel. -/
structure CommandResponse where
  commandId : UInt64
  sessionId : String
  success : Bool
  error : String
  response : Option ResponseBody
  deriving DecidableEq, Repr

/-- `SendResponseAck`. -/
structure SendResponseAck where
  success : Bool
  error : String
  deriving DecidableEq, Repr

/-! ## Session RPCs -/

/-- `ConnectRequest`, the fields the server reads. -/
structure ConnectRequest where
  clientId : String
  clientVersion : String
  deriving DecidableEq, Repr

/-- `UpdateReaderInfoRequest`. -/
structure UpdateReaderInfoRequest where
  sessionId : String
  readerName : String
  atr : Bytes
  cardPresent : Bool
  deriving DecidableEq, Repr

/-- `UpdateReaderInfoResponse`. -/
structure UpdateReaderInfoResponse where
  success : Bool
  virtualReaderName : String
  deriving DecidableEq, Repr

/-- `ListReadersRequest`. -/
structure ListReadersRequest where
  sessionId : String
  deriving DecidableEq, Repr

/-- `Reader`, one entry of `ListReadersResponse`. -/
structure Reader where
  name : String
  atr : Bytes
  cardPresent : Bool
  state : Int32
  vendor : String
  model : String
  deriving DecidableEq, Repr

/-- `ListReadersResponse`; the readers come in the order of a hash map. -/
structure ListReadersResponse where
  readers : Multiset Reader
  deriving DecidableEq

/-- `TransmitRequest`, the fields the server reads. -/
structure TransmitRequest where
  sessionId : String
  cardHandle : UInt64
  apdu : Bytes
  deriving DecidableEq, Repr

/-- `TransmitResponse`. -/
structure TransmitResponse where
  data : Bytes
  sw1 : UInt32
  sw2 : UInt32
  response : Bytes
  deriving DecidableEq, Repr

end RemoteSmartcard
