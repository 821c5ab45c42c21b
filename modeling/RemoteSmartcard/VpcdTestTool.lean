/-
# The vpcd test tool (`tools/vpcd-test/src/main.rs`)

The tool plays the part of vpcd: it listens, `rsc-server` connects, and for each
line the user enters it writes one frame.  It declares the command codes a
second time, and not as `server/src/vpcd.rs` does: its `GetAtr` is 3 and it
writes the code 4 in front of an APDU, where the server has 4 for `GetAtr` and
takes every longer payload for the APDU itself.

`Understood` says that the server decodes what the tool writes for a command as
that command.
-/
import RemoteSmartcard.LinkErrors
import RemoteSmartcard.Text

namespace RemoteSmartcard

open Program hiding pure

namespace VpcdTest

/-! ## The tool -/

/-- `VpcdCommand`. -/
inductive VpcdCommand
  | powerOff
  | powerOn
  | reset
  | getAtr
  | apdu
  deriving DecidableEq

/-- `cmd as u8`, the `#[repr(u8)]` value. -/
def VpcdCommand.code : VpcdCommand → UInt8
  | powerOff => 0x00
  | powerOn => 0x01
  | reset => 0x02
  | getAtr => 0x03
  | apdu => 0x04

/-- The SELECT command of the tool. -/
def selectApdu : Bytes := [0x00, 0xA4, 0x04, 0x00, 0x00]

/-- The GET DATA command of the tool. -/
def getDataApdu : Bytes := [0x00, 0xCA, 0x00, 0x00, 0x00]

/-- What the first character of a line asks for. -/
inductive InputChoice
  | send (cmd : VpcdCommand) (payload : Bytes)
  | hexApdu
  | quit
  | unknown
  deriving DecidableEq

/-- The `match` on the first character. -/
def InputChoice.ofChar (c : Char) : InputChoice :=
  if c = 'p' ∨ c = 'P' then .send .powerOn []
  else if c = 'r' ∨ c = 'R' then .send .reset []
  else if c = 'a' ∨ c = 'A' then .send .getAtr []
  else if c = 's' ∨ c = 'S' then .send .apdu selectApdu
  else if c = 'g' ∨ c = 'G' then .send .apdu getDataApdu
  else if c = 'h' ∨ c = 'H' then .hexApdu
  else if c = 'o' ∨ c = 'O' then .send .powerOff []
  else if c = 'q' ∨ c = 'Q' then .quit
  else .unknown

section Input

/- `hex::decode`, on the characters of a line. -/
variable (hexDecode : List Char → Except String Bytes)

/-- The command built from a line of hexadecimal digits, if they decode. -/
def hexCommand (hexInput : List Char) : List (VpcdCommand × Bytes) :=
  match hexDecode (Text.trim hexInput) with
  | .ok apdu => [(.apdu, apdu)]
  | .error _ => []

/-- The main input loop of `handle_connection`: the commands it builds from the
lines of the input.  A hex APDU takes a line of its own, which is empty at the
end of the input. -/
def builtCommands : List (List Char) → List (VpcdCommand × Bytes)
  | [] => []
  | line :: lines =>
    match (Text.trim line).head? with
    | none => builtCommands lines
    | some c =>
      match InputChoice.ofChar c, lines with
      | .send cmd payload, lines => (cmd, payload) :: builtCommands lines
      | .hexApdu, [] => hexCommand hexDecode []
      | .hexApdu, hexInput :: lines => hexCommand hexDecode hexInput ++ builtCommands lines
      | .quit, _ => []
      | .unknown, lines => builtCommands lines

end Input

/-- What is written for a command: the length as a `u16`, then the code and the
payload. -/
def written (cmd : VpcdCommand) (payload : Bytes) : Bytes :=
  let data := cmd.code :: payload
  u16ToBeBytes (UInt16.ofNat data.length) ++ data

/-! ## The round trip -/

/-- The message a command of the tool stands for. -/
def VpcdCommand.message (payload : Bytes) : VpcdCommand → VpcdMessage
  | powerOff => .control .powerOff
  | powerOn => .control .powerOn
  | reset => .control .reset
  | getAtr => .control .getAtr
  | apdu => .apdu payload

/-- The server decodes what the tool writes for a command as that command: on any
connection, in any segments and whatever follows, `receive_message` gives it and
leaves what follows. -/
def Understood (cmd : VpcdCommand) (payload : Bytes) : Prop :=
  ∀ (Sigma : Type) (env : (o : VpcdOp) → Sigma → VpcdRet o × Sigma) (stream : TcpStream)
    (s : Sigma) (rest : Bytes), stream.bytes = written cmd payload ++ rest →
      (exec (link env) receiveMessage (stream, s)).1 = .ok (some (cmd.message payload)) ∧
        (exec (link env) receiveMessage (stream, s)).2.2.1.bytes = rest

/-- The commands are understood whose frame the grammar of the requests reads as
the message. -/
theorem understood_iff_next {cmd : VpcdCommand} {payload : Bytes} :
    Understood cmd payload ↔
      ∀ rest, requestReader.next (written cmd payload ++ rest) =
        some (cmd.message payload, rest) := by
  constructor
  · intro h rest
    let stream : TcpStream := ⟨[written cmd payload ++ rest], .unexpectedEof⟩
    have hbytes : stream.bytes = written cmd payload ++ rest := List.append_nil _
    obtain ⟨hres, hleft⟩ := h Unit noSessions stream () rest hbytes
    obtain ⟨hiff, hrest⟩ := exec_receiveMessage_iff (readsStream_link noSessions) (stream, ())
      (cmd.message payload)
    obtain ⟨rest', hnext⟩ := hiff.mp hres
    have hrest' : rest = rest' := hleft.symm.trans (hrest rest' hnext)
    rw [hrest', ← hnext, ← hrest', ← hbytes]
  · intro h Sigma env stream s rest hbytes
    have hnext := h rest
    rw [← hbytes] at hnext
    obtain ⟨hiff, hrest⟩ := exec_receiveMessage_iff (readsStream_link env) (stream, s)
      (cmd.message payload)
    exact ⟨hiff.mpr ⟨rest, hnext⟩, hrest rest hnext⟩

/-- What the grammar reads of what is written: the length is taken modulo 2^16. -/
theorem next_written (cmd : VpcdCommand) (payload rest : Bytes) :
    requestReader.next (written cmd payload ++ rest) =
      (VpcdMessage.ofPayload
        ((cmd.code :: payload ++ rest).take ((payload.length + 1) % 65536))).map fun m =>
          (m, (cmd.code :: payload ++ rest).drop ((payload.length + 1) % 65536)) := by
  have hlen : beLength (u16ToBeBytes (UInt16.ofNat (cmd.code :: payload).length)) =
      (payload.length + 1) % 65536 := by
    rw [beLength_u16ToBeBytes, UInt16.toNat_ofNat', List.length_cons]
  rw [written, List.append_assoc, requestReader_next_append (length_u16ToBeBytes _), hlen,
    if_pos]
  rw [List.length_append, List.length_cons]
  have := Nat.mod_le (payload.length + 1) 65536
  omega

/-- The code of Get ATR is one the server does not know. -/
theorem next_written_getAtr (rest : Bytes) :
    requestReader.next (written .getAtr [] ++ rest) = none := by
  rw [next_written]
  rfl

theorem ofPayload_eq_apdu {payload data : Bytes}
    (h : VpcdMessage.ofPayload payload = some (.apdu data)) : payload = data := by
  rcases payload with _ | ⟨b, _ | ⟨b', t⟩⟩
  · cases h
  · obtain ⟨cmd, -, hcmd⟩ := Option.map_eq_some_iff.mp h
    cases hcmd
  · cases h
    rfl

/-- No APDU is understood: the length of what arrives is off by one, modulo 2^16. -/
theorem not_understood_apdu (payload : Bytes) : ¬ Understood .apdu payload := by
  intro h
  have hnext := understood_iff_next.mp h []
  rw [next_written, Option.map_eq_some_iff] at hnext
  obtain ⟨m, hdec, hm⟩ := hnext
  rw [(Prod.mk.injEq ..).mp hm |>.1] at hdec
  have hlen := congrArg List.length (ofPayload_eq_apdu hdec)
  rw [List.length_take, List.length_append, List.length_cons, List.length_nil] at hlen
  have := Nat.mod_le (payload.length + 1) 65536
  omega

theorem not_understood_getAtr : ¬ Understood .getAtr [] := by
  intro h
  have hnext := understood_iff_next.mp h []
  rw [next_written_getAtr] at hnext
  cases hnext

/-- The commands whose codes the tool and the server declare alike. -/
def VpcdCommand.Shared : VpcdCommand → Prop
  | powerOff | powerOn | reset => True
  | getAtr | apdu => False

theorem understood_of_shared {cmd : VpcdCommand} (h : cmd.Shared) : Understood cmd [] := by
  rw [understood_iff_next]
  intro rest
  cases cmd with
  | powerOff => rw [next_written]; rfl
  | powerOn => rw [next_written]; rfl
  | reset => rw [next_written]; rfl
  | getAtr => exact h.elim
  | apdu => exact h.elim

/-! ## The commands of an input -/

section Input

variable {hexDecode : List Char → Except String Bytes}

theorem payload_of_ofChar {c : Char} {cmd : VpcdCommand} {payload : Bytes}
    (h : InputChoice.ofChar c = .send cmd payload) : cmd = .apdu ∨ payload = [] := by
  unfold InputChoice.ofChar at h
  split_ifs at h
  all_goals cases h
  all_goals simp

theorem mem_hexCommand_iff {hexInput : List Char} {cmd : VpcdCommand} {payload : Bytes} :
    (cmd, payload) ∈ hexCommand hexDecode hexInput ↔
      cmd = .apdu ∧ hexDecode (Text.trim hexInput) = .ok payload := by
  unfold hexCommand
  cases hexDecode (Text.trim hexInput) with
  | ok apdu => simp [eq_comm]
  | error e => simp

/-- Only APDUs have a payload. -/
theorem payload_of_mem {lines : List (List Char)} {cmd : VpcdCommand} {payload : Bytes}
    (h : (cmd, payload) ∈ builtCommands hexDecode lines) : cmd = .apdu ∨ payload = [] := by
  -- the induction follows the input loop: one case for each choice
  fun_induction builtCommands hexDecode lines with
  | case1 => cases h
  | case2 line lines hblank ih => exact ih h
  | case3 line c hc cmd' payload' lines hchoice ih =>
    rcases List.mem_cons.mp h with heq | hmem
    · cases heq
      exact payload_of_ofChar hchoice
    · exact ih hmem
  | case4 line c hc hchoice => exact Or.inl (mem_hexCommand_iff.mp h).1
  | case5 line c hc hexInput lines hchoice ih =>
    rcases List.mem_append.mp h with hhex | hmem
    · exact Or.inl (mem_hexCommand_iff.mp hhex).1
    · exact ih hmem
  | case6 => cases h
  | case7 line c hc lines hchoice ih => exact ih h

/-- **The test tool and the server.**  Of the commands the tool builds from any
input, the server understands Power Off, Power On and Reset, and no others. -/
theorem understood_iff {lines : List (List Char)} {cmd : VpcdCommand} {payload : Bytes}
    (h : (cmd, payload) ∈ builtCommands hexDecode lines) :
    Understood cmd payload ↔ cmd = .powerOff ∨ cmd = .powerOn ∨ cmd = .reset := by
  rcases payload_of_mem h with rfl | rfl
  · exact iff_of_false (not_understood_apdu payload) (by decide)
  · cases cmd with
    | getAtr => exact iff_of_false not_understood_getAtr (by decide)
    | apdu => exact iff_of_false (not_understood_apdu []) (by decide)
    | _ => exact iff_of_true (understood_of_shared ⟨⟩) (by decide)

/-- A hex APDU among the commands of an input. -/
theorem understood_iff_hex :
    (VpcdCommand.apdu, [0x00, 0xB0]) ∈
        builtCommands (fun _ => .ok [0x00, 0xB0]) [['h'], ['0', '0', 'B', '0']] ∧
      (Understood .apdu [0x00, 0xB0] ↔ VpcdCommand.apdu = .powerOff ∨
        VpcdCommand.apdu = .powerOn ∨ VpcdCommand.apdu = .reset) := by
  have hmem : (VpcdCommand.apdu, [0x00, 0xB0]) ∈
      builtCommands (fun _ => .ok [0x00, 0xB0]) [['h'], ['0', '0', 'B', '0']] := by decide
  exact ⟨hmem, understood_iff hmem⟩

/-- Get ATR and the SELECT command of the tool are not understood. -/
theorem not_understood_ats :
    (VpcdCommand.getAtr, []) ∈ builtCommands (fun _ => .ok []) [['a'], ['s']] ∧
      (VpcdCommand.apdu, selectApdu) ∈ builtCommands (fun _ => .ok []) [['a'], ['s']] ∧
      ¬ Understood .getAtr [] ∧ ¬ Understood .apdu selectApdu :=
  ⟨by decide, by decide, not_understood_getAtr, not_understood_apdu _⟩

end Input

end VpcdTest

end RemoteSmartcard
