/-
# One virtual card from end to end

A `Relay` is the `VpcdClient` that handles the messages of vpcd for a reader,
the commands it has sent, and the remote client that carries them out on its
card connection.  Both sides are interaction programs and take one operation at
a time; what the session table, the network, PC/SC and the card answer is up to
the surroundings.

`PowerHonoured` is what `PowerOff` and `Reset` ask for: the card connection is
renewed before the next APDU is executed, and nothing is put to the card for an
APDU that came while the power was off.
-/
import RemoteSmartcard.CardConnection
import RemoteSmartcard.GrpcClient
import RemoteSmartcard.Vpcd

namespace RemoteSmartcard

open VpcdOp
open Program hiding pure

/-! ## What happens at the two ends -/

/-- An event of the timeline: a message of vpcd is handled, an APDU is put to the
card (for the message at the position `origin`), or the card connection is
renewed, that is, dropped with a reset of the card, or newly made. -/
inductive LinkEvent
  | message (msg : VpcdMessage)
  | exchange (origin : Option ℕ) (x : CardExchange)
  | renewed
  deriving DecidableEq

namespace LinkEvent

/-- The messages after which the card is to be as after a reset. -/
def isCycle : LinkEvent → Bool
  | message (.control .powerOff) => true
  | message (.control .reset) => true
  | _ => false

/-- The card executes an APDU. -/
def isExecution : LinkEvent → Bool
  | exchange _ x => x.executed
  | _ => false

/-- The card connection is renewed. -/
def isRenewed : LinkEvent → Bool
  | renewed => true
  | _ => false

end LinkEvent

/-- The power state a message asks for. -/
def powerAfter (powered : Bool) : VpcdMessage → Bool
  | .control .powerOff => false
  | .control .powerOn => true
  | _ => powered

/-- The power state vpcd has asked for in the course of a timeline. -/
def poweredAfter (timeline : List LinkEvent) : Bool :=
  timeline.foldl (fun powered e => match e with
    | .message msg => powerAfter powered msg
    | _ => powered) true

/-- The event at a position is an APDU received with the power on. -/
def PoweredApdu (timeline : List LinkEvent) (position : ℕ) : Prop :=
  ∃ data, timeline[position]? = some (.message (.apdu data)) ∧
    poweredAfter (timeline.take position) = true

/-- **Power commands are honoured.** -/
structure PowerHonoured (timeline : List LinkEvent) : Prop where
  /-- Between two executions with a `PowerOff` or `Reset` in between, and no other
  execution, the card connection is renewed. -/
  cycled : ∀ before between after o o' x y,
    timeline = before ++ .exchange o x :: between ++ .exchange o' y :: after →
      x.executed = true → y.executed = true → (∀ e ∈ between, e.isExecution = false) →
      (∃ e ∈ between, e.isCycle = true) → .renewed ∈ between
  /-- What is put to the card comes from APDUs received with the power on. -/
  gated : ∀ o x, .exchange (some o) x ∈ timeline → PoweredApdu timeline o

/-! ## The relay -/

/-- The state of a relay: the vpcd client, and the message it is handling (its
position in the timeline, and what is left to do); the commands sent, each with
the position of its message; the card connections of the remote client, and what
it is working at; the timeline. -/
structure Relay where
  client : VpcdClient
  handling : Option (ℕ × VpcdProgram (Option Bytes × VpcdClient))
  commands : List (ℕ × CommandRequest)
  cards : CardConnections
  processing : Option (Option ℕ × PcscProgram CardConnections)
  timeline : List LinkEvent

/-- The actions.  `process` and `lose` may take any command that has been sent;
`readAtr` is `get_reader_info` on a new connection of the client. -/
inductive RelayAction
  | message (msg : VpcdMessage)
  | vpcd (answer : (o : VpcdOp) → VpcdRet o)
  | process (k : ℕ)
  | lose (k : ℕ)
  | readAtr
  | pcsc (answer : (o : PcscOp) → PcscRet o)

namespace Relay

/-- A relay at its start. -/
def start (sessionId readerName : String) : Relay :=
  ⟨VpcdClient.new.setTarget sessionId readerName, none, [], none, none, []⟩

/-- The vpcd client goes on with `p`; when that is done it is ready for the next
message. -/
def resume (w : Relay) (origin : ℕ) (p : VpcdProgram (Option Bytes × VpcdClient)) : Relay :=
  match p with
  | .pure (_, client) => { w with client := client, handling := none }
  | .op o k => { w with handling := some (origin, .op o k) }

/-- The remote client goes on with `p`; when that is done it is ready for the next
command. -/
def proceed (w : Relay) (origin : Option ℕ) (p : PcscProgram CardConnections) : Relay :=
  match p with
  | .pure g => { w with cards := g, processing := none }
  | .op o k => { w with processing := some (origin, .op o k) }

/-- The command that an operation of the vpcd client sends. -/
def sent (origin : ℕ) : (o : VpcdOp) → VpcdRet o → List (ℕ × CommandRequest)
  | .sendCommand _ command readerName, some (.ok rx) =>
    [(origin, ⟨UInt64.ofNat (rx + 1), some command, readerName⟩)]
  | _, _ => []

/-- What an operation of the remote client adds to the timeline. -/
def seen (origin : Option ℕ) : (o : PcscOp) → PcscRet o → List LinkEvent
  | .transmit card apdu _, reply => [.exchange origin (exchangeWith card apdu reply)]
  | .connect _, .ok () => [.renewed]
  | .drop _, () => [.renewed]
  | _, _ => []

/-- One step of a relay. -/
def step (reader : String) (w : Relay) : RelayAction → Option Relay
  | .message msg =>
    match w.handling with
    | some _ => none
    | none =>
      some (resume { w with timeline := w.timeline ++ [.message msg] } w.timeline.length
        (w.client.handleMessage msg))
  | .vpcd answer =>
    match w.handling with
    | some (origin, .op o k) =>
      some (resume { w with commands := w.commands ++ sent origin o (answer o) } origin
        (k (answer o)))
    | _ => none
  -- the lock of `CARD_CONNECTIONS` lets one command through at a time
  | .process k =>
    match w.processing, w.commands[k]? with
    | none, some (origin, request) =>
      some (proceed { w with commands := w.commands.eraseIdx k } (some origin)
        ((GrpcClient.processCommand w.cards (w.client.sessionId.getD "") request).bind
          fun result => Program.pure result.2))
    | _, _ => none
  | .lose k => some { w with commands := w.commands.eraseIdx k }
  | .readAtr =>
    match w.processing with
    | none => some (proceed w none ((w.cards.getAtr reader).bind fun result =>
        Program.pure result.2))
    | some _ => none
  | .pcsc answer =>
    match w.processing with
    | some (origin, .op o k) =>
      some (proceed { w with timeline := w.timeline ++ seen origin o (answer o) } origin
        (k (answer o)))
    | _ => none

end Relay

end RemoteSmartcard
