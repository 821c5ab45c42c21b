/-
# The grammar of the requests from vpcd

`Frames b ms` is the grammar of the byte stream from vpcd, independent of the
code: each frame has a two-byte big-endian length; a single byte is a control
command, more are an APDU.  Against a peer that sends any bytes, in any
segments, and then ends the connection, the message loop hands exactly the
messages of the longest front part in the grammar to `handle_message`, whatever
the rest of the surroundings does.
-/
import RemoteSmartcard.ResponseFraming
import RemoteSmartcard.TcpStream

namespace RemoteSmartcard

open VpcdOp
open Program hiding pure

/-! ## The grammar -/

/-- `f` is a well-formed frame of the message. -/
inductive WellFormedFrame : Bytes → VpcdMessage → Prop
  | control (cmd : VpcdCtrlCommand) : WellFormedFrame [0x00, 0x01, cmd.code] (.control cmd)
  | apdu {hi lo : UInt8} {data : Bytes} (hlen : data.length = hi.toNat * 256 + lo.toNat)
      (hapdu : 1 < data.length) : WellFormedFrame (hi :: lo :: data) (.apdu data)

/-- `b` is a concatenation of well-formed frames. -/
inductive Frames : Bytes → List VpcdMessage → Prop
  | nil : Frames [] []
  | cons {f b : Bytes} {m : VpcdMessage} {ms : List VpcdMessage} :
      WellFormedFrame f m → Frames b ms → Frames (f ++ b) (m :: ms)

/-- The encoding of a message. -/
def VpcdMessage.encode : VpcdMessage → Bytes
  | .control cmd => [0x00, 0x01, cmd.code]
  | .apdu data => frameOf data

/-- The messages that have an encoding: all control commands, and the APDUs of 2
to 65535 bytes. -/
def VpcdMessage.Encodable : VpcdMessage → Prop
  | .control _ => True
  | .apdu data => 2 ≤ data.length ∧ data.length ≤ 65535

/-- The frame of a request is well formed. -/
theorem wellFormedFrame_encode {m : VpcdMessage} (h : m.Encodable) :
    WellFormedFrame m.encode m := by
  cases m with
  | control cmd => exact .control cmd
  | apdu data =>
    obtain ⟨h2, hmax⟩ := h
    refine .apdu ?_ h2
    have hlen := beLength_u16ToBeBytes (UInt16.ofNat data.length)
    rw [UInt16.toNat_ofNat', Nat.mod_eq_of_lt (by omega)] at hlen
    exact hlen.symm

/-- So is a sequence of them. -/
theorem frames_flatMap_encode {ms : List VpcdMessage} (h : ∀ m ∈ ms, m.Encodable) :
    Frames (ms.flatMap VpcdMessage.encode) ms := by
  induction ms with
  | nil => exact .nil
  | cons m ms ih =>
    rw [List.flatMap_cons]
    exact .cons (wellFormedFrame_encode (h m (by simp))) (ih fun m' hm => h m' (by simp [hm]))

/-! ## The grammar as a reader -/

/-- The message a payload stands for. -/
def VpcdMessage.ofPayload : Bytes → Option VpcdMessage
  | [] => none
  | [b] => (VpcdCtrlCommand.tryFrom b).toOption.map .control
  | data => some (.apdu data)

/-- One byte is a control command. -/
theorem ofPayload_of_length_eq_one {data : Bytes} (h : data.length = 1) (h0 : 0 < data.length) :
    VpcdMessage.ofPayload data =
      (VpcdCtrlCommand.tryFrom (data.get ⟨0, h0⟩)).toOption.map .control := by
  match data, h with
  | [b], _ => rfl

/-- More bytes are an APDU. -/
theorem ofPayload_of_one_lt_length {data : Bytes} (h : 1 < data.length) :
    VpcdMessage.ofPayload data = some (.apdu data) := by
  match data, h with
  | _ :: _ :: _, _ => rfl

/-- The reader of the requests from vpcd. -/
def requestReader : FrameReader UInt8 VpcdMessage := frameReader.decoded VpcdMessage.ofPayload

/-- A control command is known by its code. -/
theorem toOption_tryFrom_eq_some_iff {b : UInt8} {cmd : VpcdCtrlCommand} :
    (VpcdCtrlCommand.tryFrom b).toOption = some cmd ↔ b = cmd.code := by
  rw [← VpcdCtrlCommand.tryFrom_eq_ok_iff]
  cases VpcdCtrlCommand.tryFrom b <;> simp [Except.toOption]

/-- One byte is no length field. -/
theorem requestReader_next_of_length_lt {b : Bytes} (h : b.length < 2) :
    requestReader.next b = none := by
  rw [requestReader, FrameReader.decoded_next, frameReader_next_of_length_lt h]
  rfl

/-- After the length field come as many bytes as it says. -/
theorem requestReader_next_append {header : Bytes} (h : header.length = 2) (b : Bytes) :
    requestReader.next (header ++ b) =
      if beLength header ≤ b.length then
        (VpcdMessage.ofPayload (b.take (beLength header))).map fun m =>
          (m, b.drop (beLength header))
      else none := by
  have htake : (header ++ b).take (1 + 1) = header := by
    rw [show 1 + 1 = header.length from h.symm]
    exact List.take_left
  have hdrop : (header ++ b).drop (1 + 1) = b := by
    rw [show 1 + 1 = header.length from h.symm]
    exact List.drop_left
  rw [requestReader, FrameReader.decoded_next, frameReader, FrameReader.lengthPrefixed_next,
    htake, hdrop, List.length_append, h]
  by_cases hle : beLength header ≤ b.length
  · rw [if_pos (by omega), if_pos hle]
    rfl
  · rw [if_neg (by omega), if_neg hle]
    rfl

/-- The reader accepts exactly the well-formed frames. -/
theorem isFrame_requestReader_iff {f : Bytes} {m : VpcdMessage} :
    requestReader.IsFrame f m ↔ WellFormedFrame f m := by
  have hframe : requestReader.IsFrame f m ↔
      ∃ payload, frameReader.IsFrame f payload ∧ VpcdMessage.ofPayload payload = some m := by
    rw [FrameReader.IsFrame, requestReader, FrameReader.decoded_next]
    simp only [Option.bind_eq_some_iff, Option.map_eq_some_iff, Prod.mk.injEq, Prod.exists,
      FrameReader.IsFrame]
    constructor
    · rintro ⟨payload, rest, hnext, m', hdec, rfl, rfl⟩
      exact ⟨payload, hnext, hdec⟩
    · rintro ⟨payload, hnext, hdec⟩
      exact ⟨payload, [], hnext, m, hdec, rfl, rfl⟩
  rw [hframe]
  constructor
  · rintro ⟨payload, hf, hdec⟩
    obtain ⟨hi, lo, rfl, hlen⟩ := isFrame_frameReader_iff.mp hf
    rcases payload with _ | ⟨b, _ | ⟨b', t⟩⟩
    · cases hdec
    · simp only [VpcdMessage.ofPayload, Option.map_eq_some_iff,
        toOption_tryFrom_eq_some_iff] at hdec
      obtain ⟨cmd, rfl, rfl⟩ := hdec
      -- a length of one is 00 01
      have hlo := lo.toNat_lt
      rw [List.length_singleton] at hlen
      have hhi0 : hi = 0 := UInt8.toNat_inj.mp (by rw [UInt8.toNat_zero]; omega)
      have hlo1 : lo = 1 := UInt8.toNat_inj.mp (by rw [UInt8.toNat_one]; omega)
      rw [hhi0, hlo1]
      exact .control cmd
    · cases hdec
      exact .apdu hlen (by simp)
  · intro h
    cases h with
    | control cmd =>
      refine ⟨[cmd.code], isFrame_frameReader_iff.mpr ⟨0x00, 0x01, rfl, rfl⟩, ?_⟩
      cases cmd <;> rfl
    | @apdu hi lo data hlen hapdu =>
      refine ⟨data, isFrame_frameReader_iff.mpr ⟨hi, lo, rfl, hlen⟩, ?_⟩
      rcases data with _ | ⟨b, _ | ⟨b', t⟩⟩
      · simp at hapdu
      · simp at hapdu
      · rfl

/-- What the reader takes off is a sequence of well-formed frames. -/
theorem concat_requestReader_iff {b : Bytes} {ms : List VpcdMessage} :
    requestReader.Concat b ms ↔ Frames b ms := by
  constructor
  · intro h
    induction h with
    | nil => exact .nil
    | cons hf _ ih => exact .cons (isFrame_requestReader_iff.mp hf) ih
  · intro h
    induction h with
    | nil => exact .nil
    | cons hf _ ih => exact .cons (isFrame_requestReader_iff.mpr hf) ih

/-! ## Reading a message -/

section Reading

variable {Sigma : Type} {w : (o : VpcdOp) → TcpStream × Sigma → VpcdRet o × (TcpStream × Sigma)}

/-- Surroundings in which a read is answered by the stream, and nothing else touches
the stream. -/
structure ReadsStream (w : (o : VpcdOp) → TcpStream × Sigma → VpcdRet o × (TcpStream × Sigma)) :
    Prop where
  readExact : ∀ n p, w (readExact n) p =
    ((p.1.readExact n).1, (p.1.readExact n).2, (w (readExact n) p).2.2)
  stream : ∀ o p, o.part ≠ .reading → (w o p).2.1 = p.1

/-- The length field is read with the high byte first. -/
theorem toNat_u16FromBeBytes (buf : Buffer 2) : (u16FromBeBytes buf).toNat = beLength buf.1 := by
  obtain ⟨data, hdata⟩ := buf
  match data, hdata with
  | [a, b], _ =>
    have ha := a.toNat_lt
    have hb := b.toNat_lt
    simp only [u16FromBeBytes, beLength, List.get_eq_getElem, List.getElem_cons_zero,
      List.getElem_cons_succ, UInt16.toNat_ofNat']
    omega

/-- `receive_message` on a connection that ends within the length field. -/
theorem exec_receiveMessage_of_no_header (hw : ReadsStream w) {p : TcpStream × Sigma}
    {e : IoError} {st : TcpStream} (h : p.1.readExact 2 = (.error e, st)) (m : VpcdMessage) :
    (exec w receiveMessage p).1 ≠ .ok (some m) := by
  have hp : w (readExact 2) p = (.error e, st, (w (readExact 2) p).2.2) := by
    rw [hw.readExact, h]
  unfold receiveMessage
  rw [monad_bind, exec_perform_bind, hp]
  cases e <;> simp

/-- `receive_message` once it has the length field: it gives a message if the
payload is there and stands for one. -/
theorem exec_receiveMessage_of_header (hw : ReadsStream w) {p : TcpStream × Sigma}
    {buf : Buffer 2} {st st' : TcpStream}
    {answer : Except IoError (Buffer (u16FromBeBytes buf).toNat)}
    (h : p.1.readExact 2 = (.ok buf, st))
    (h' : st.readExact (u16FromBeBytes buf).toNat = (answer, st')) (m : VpcdMessage) :
    ((exec w receiveMessage p).1 = .ok (some m) ↔
      ∃ data, answer = .ok data ∧ VpcdMessage.ofPayload data.1 = some m) ∧
      ((exec w receiveMessage p).1 = .ok (some m) → (exec w receiveMessage p).2.2.1 = st') := by
  have hp : w (readExact 2) p = (.ok buf, st, (w (readExact 2) p).2.2) := by
    rw [hw.readExact, h]
  have hp' : ∀ s, w (readExact (u16FromBeBytes buf).toNat) (st, s) =
      (answer, st', (w (readExact (u16FromBeBytes buf).toNat) (st, s)).2.2) := by
    intro s
    rw [hw.readExact, h']
  unfold receiveMessage
  rw [monad_bind, exec_perform_bind, hp]
  dsimp only
  split_ifs with h0 h1
  · -- a length of zero is refused before anything is read
    have hnil : ∀ data : Buffer (u16FromBeBytes buf).toNat, data.1 = [] := fun data =>
      List.length_eq_zero_iff.mp (data.2.trans h0)
    simp [hnil, VpcdMessage.ofPayload]
  · rw [monad_bind, exec_perform_bind, hp']
    rcases answer with e | data
    · simp
    · have hpayload := ofPayload_of_length_eq_one (data.2.trans h1) (by rw [data.2]; omega)
      -- one byte: a control command, or an error that ends the loop
      simp only [Except.ok.injEq, exists_eq_left', hpayload]
      cases VpcdCtrlCommand.tryFrom _ <;> simp [Except.toOption]
  · rw [monad_bind, exec_perform_bind, hp']
    rcases answer with e | data
    · simp
    · have hpayload : VpcdMessage.ofPayload data.1 = some (.apdu data.1) :=
        ofPayload_of_one_lt_length (by rw [data.2]; omega)
      simp [hpayload]

/-- **Reading a message** off a stream takes a frame off its bytes, if there is
one. -/
theorem exec_receiveMessage_iff (hw : ReadsStream w) (p : TcpStream × Sigma) (m : VpcdMessage) :
    ((exec w receiveMessage p).1 = .ok (some m) ↔
      ∃ rest, requestReader.next p.1.bytes = some (m, rest)) ∧
    ∀ rest, requestReader.next p.1.bytes = some (m, rest) →
      (exec w receiveMessage p).2.2.1.bytes = rest := by
  by_cases h2 : p.1.bytes.length < 2
  · -- the stream ends within the length field
    have hnone := exec_receiveMessage_of_no_header hw (TcpStream.readExact_of_lt h2) m
    rw [requestReader_next_of_length_lt h2]
    simp [hnone]
  · obtain ⟨buf, st, hbuf, hbytes, -⟩ := TcpStream.readExact_of_le (Nat.not_lt.mp h2)
    rw [hbytes, requestReader_next_append buf.2, ← toNat_u16FromBeBytes]
    by_cases hlen : st.bytes.length < (u16FromBeBytes buf).toNat
    · -- the stream ends within the payload
      have hhead := exec_receiveMessage_of_header hw hbuf (TcpStream.readExact_of_lt hlen) m
      rw [if_neg (by omega)]
      simp [hhead.1]
    · obtain ⟨data, st', hdata, hbytes', -⟩ := TcpStream.readExact_of_le (Nat.not_lt.mp hlen)
      obtain ⟨hiff, hstream⟩ := exec_receiveMessage_of_header hw hbuf hdata m
      rw [if_pos (by omega), hbytes', show (data.1 ++ st'.bytes).take
        (u16FromBeBytes buf).toNat = data.1 from List.take_left' data.2,
        show (data.1 ++ st'.bytes).drop (u16FromBeBytes buf).toNat = st'.bytes from
          List.drop_left' data.2]
      simp only [Except.ok.injEq, exists_eq_left', Option.map_eq_some_iff, Prod.mk.injEq] at hiff ⊢
      refine ⟨hiff.trans ⟨fun hm => ⟨_, m, hm, rfl, rfl⟩, ?_⟩, ?_⟩
      · rintro ⟨rest, m', hm, rfl, -⟩
        exact hm
      · rintro rest ⟨m', hm, rfl, rfl⟩
        rw [hstream (hiff.mpr hm)]

/-- A program that reads nothing leaves the stream alone. -/
theorem exec_stream (hw : ReadsStream w) {Alpha : Type} {prog : VpcdProgram Alpha}
    (hprog : prog.Uses fun o => o.part ≠ .reading) (p : TcpStream × Sigma) :
    (exec w prog p).2.2.1 = p.1 :=
  exec_frame (f := Prod.fst) w hw.stream hprog p

/-! ## A round of the loop -/

/-- The messages handed to `handle_message` along a trace. -/
def requests (tr : List VpcdEvent) : List VpcdMessage :=
  (marks tr).filterMap fun
    | .request msg => some msg
    | .response _ => none

@[simp] theorem requests_append (tr tr' : List VpcdEvent) :
    requests (tr ++ tr') = requests tr ++ requests tr' := by
  simp [requests]

/-- A write that failed. -/
def WriteFailed : VpcdEvent → Prop
  | ⟨writeAll _, .error _⟩ => True
  | ⟨flush, .error _⟩ => True
  | _ => False

/-- `send_response` returns an error exactly if one of its writes fails. -/
theorem sendResponse_eq_ok_iff {data : Bytes} {tr : List VpcdEvent} {r : Except String Unit}
    (h : (sendResponse data).Yields tr r) : r = .ok () ↔ ∀ e ∈ tr, ¬ WriteFailed e := by
  unfold sendResponse at h
  obtain ⟨r₁, t₁, rfl, h₁⟩ := yields_perform_bind_iff.mp h
  rcases r₁ with e | ⟨⟩
  · obtain ⟨rfl, rfl⟩ := yields_pure_iff.mp h₁
    simp [WriteFailed]
  obtain ⟨r₂, t₂, rfl, h₂⟩ := yields_perform_bind_iff.mp h₁
  rcases r₂ with e | ⟨⟩
  · obtain ⟨rfl, rfl⟩ := yields_pure_iff.mp h₂
    simp [WriteFailed]
  obtain ⟨r₃, t₃, rfl, h₃⟩ := yields_perform_bind_iff.mp h₂
  rcases r₃ with e | ⟨⟩
  · obtain ⟨rfl, rfl⟩ := yields_pure_iff.mp h₃
    simp [WriteFailed]
  · obtain ⟨rfl, rfl⟩ := yields_pure_iff.mp h₃
    simp [WriteFailed]

/-- Answering a request reads nothing. -/
theorem VpcdClient.uses_respond (c : VpcdClient) (msg : VpcdMessage) :
    (c.respond msg).Uses fun o => o.part ≠ .reading := by
  have hhandling := (c.uses_handleMessage msg).mono fun o ho =>
    (ho.trans_ne (by decide) : o.part ≠ .reading)
  refine .perform_bind nofun fun _ => hhandling.bind fun answered => ?_
  obtain ⟨answer, c'⟩ := answered
  cases answer with
  | none => trivial
  | some data =>
    have hwriting := (uses_sendResponse data).mono fun o ho =>
      (ho.trans_ne (by decide) : o.part ≠ .reading)
    refine .perform_bind nofun fun _ => hwriting.bind fun sent => ?_
    cases sent <;> trivial

/-- The message is handed over, and the loop goes on unless a write fails. -/
theorem VpcdClient.requests_respond {c c' : VpcdClient} {msg : VpcdMessage}
    {tr : List VpcdEvent} {goesOn : Bool} (h : (c.respond msg).Yields tr (goesOn, c')) :
    requests tr = [msg] ∧ (goesOn = true ∨ ∃ e ∈ tr, WriteFailed e) := by
  obtain ⟨answer, handling, writing, rfl, hh, hwriting⟩ := VpcdClient.yields_respond h
  have hhandling := marks_eq_nil (c.uses_handleMessage msg) (by decide) hh
  rcases hwriting with ⟨rfl, rfl, rfl⟩ | ⟨data, tr', sent, rfl, rfl, hw, hsent⟩
  · simp [requests, hhandling]
  · have hmarks := marks_eq_nil (uses_sendResponse data) (by decide) hw
    refine ⟨by simp [requests, hhandling, hmarks], ?_⟩
    by_cases hok : ∀ e ∈ tr', ¬ WriteFailed e
    · exact Or.inl (hsent.mpr ((sendResponse_eq_ok_iff hw).mpr hok))
    · obtain ⟨e, he, hfailed⟩ : ∃ e ∈ tr', WriteFailed e := by simpa using hok
      exact Or.inr ⟨e, by simp [he], hfailed⟩

/-- A round with a frame at the front of the stream: its message is handed over,
the rest of the stream is left, and the loop goes on unless a write fails. -/
theorem exec_messageLoopBody_some (hw : ReadsStream w) (c : VpcdClient) {p : TcpStream × Sigma}
    {m : VpcdMessage} {rest : Bytes} (h : requestReader.next p.1.bytes = some (m, rest)) :
    ((exec w c.messageLoopBody p).1.1 = true ∨
      ∃ e ∈ (exec w c.messageLoopBody p).2.1, WriteFailed e) ∧
      requests (exec w c.messageLoopBody p).2.1 = [m] ∧
      (exec w c.messageLoopBody p).2.2.1.bytes = rest := by
  obtain ⟨hiff, hrest⟩ := exec_receiveMessage_iff hw p m
  have hres := hiff.mpr ⟨rest, h⟩
  have hstream := hrest rest h
  have hmarks : marks (exec w receiveMessage p).2.1 = [] :=
    marks_eq_nil uses_receiveMessage (by decide) (yields_exec ..)
  rw [VpcdClient.messageLoopBody_eq, exec_bind]
  generalize exec w receiveMessage p = q at hres hstream hmarks ⊢
  obtain ⟨res, tr, p'⟩ := q
  dsimp only at hres hstream hmarks ⊢
  subst hres
  dsimp only
  obtain ⟨hreq, hgoes⟩ := VpcdClient.requests_respond (yields_exec w (c.respond m) p')
  refine ⟨hgoes.imp_right fun ⟨e, he, hfailed⟩ => ⟨e, List.mem_append_right _ he, hfailed⟩, ?_, ?_⟩
  · rw [requests_append, hreq, requests, hmarks]
    rfl
  · rw [exec_stream hw (c.uses_respond m), hstream]

/-- The last round: no frame at the front of the stream, nothing handed over. -/
theorem exec_messageLoopBody_none (hw : ReadsStream w) (c : VpcdClient) {p : TcpStream × Sigma}
    (h : requestReader.next p.1.bytes = none) :
    (exec w c.messageLoopBody p).1.1 = false ∧
      requests (exec w c.messageLoopBody p).2.1 = [] := by
  have hres : ∀ m, (exec w receiveMessage p).1 ≠ .ok (some m) := by
    intro m hm
    obtain ⟨rest, hnext⟩ := (exec_receiveMessage_iff hw p m).1.mp hm
    rw [h] at hnext
    cases hnext
  have hmarks : marks (exec w receiveMessage p).2.1 = [] :=
    marks_eq_nil uses_receiveMessage (by decide) (yields_exec ..)
  rw [VpcdClient.messageLoopBody_eq, exec_bind]
  generalize exec w receiveMessage p = q at hres hmarks ⊢
  obtain ⟨res, tr, p'⟩ := q
  dsimp only at hres hmarks ⊢
  rcases res with e | (_ | m)
  · simp [requests, hmarks]
  · simp [requests, hmarks]
  · exact absurd rfl (hres m)

/-! ## The loop -/

/-- The loop ends after at most as many rounds as there are bytes, and one more;
unless a write fails it has handed over what the reader of the grammar reads. -/
theorem loopExec_messageLoop (hw : ReadsStream w) (fuel : ℕ) (c : VpcdClient)
    (p : TcpStream × Sigma) (h : p.1.bytes.length < fuel) :
    ∃ c' tr p', loopExec w VpcdClient.messageLoopBody fuel c p = some (c', tr, p') ∧
      (requests tr = (requestReader.readAll p.1.bytes).1 ∨ ∃ e ∈ tr, WriteFailed e) := by
  -- each round that goes on takes a frame, so at least one byte, off the stream
  induction fuel generalizing c p with
  | zero => omega
  | succ fuel ih =>
    rw [loopExec]
    cases hn : requestReader.next p.1.bytes with
    | none =>
      obtain ⟨hfalse, hreq⟩ := exec_messageLoopBody_none hw c hn
      rw [FrameReader.readAll_of_next_eq_none hn]
      dsimp only
      rw [if_neg (by simp [hfalse])]
      exact ⟨_, _, _, rfl, Or.inl hreq⟩
    | some q =>
      obtain ⟨m, rest⟩ := q
      obtain ⟨hgoes, hreq, hbytes⟩ := exec_messageLoopBody_some hw c hn
      have hlt := FrameReader.length_lt_of_next hn
      rw [FrameReader.readAll_of_next_eq_some hn]
      dsimp only
      by_cases htrue : (exec w c.messageLoopBody p).1.1 = true
      · obtain ⟨c', tr, p', hloop, hih⟩ := ih (exec w c.messageLoopBody p).1.2
          (exec w c.messageLoopBody p).2.2 (by rw [hbytes]; omega)
        rw [if_pos htrue, hloop]
        refine ⟨c', _, p', rfl, ?_⟩
        rcases hih with hih | ⟨e, he, hfailed⟩
        · refine Or.inl ?_
          rw [requests_append, hreq, hih, hbytes]
          rfl
        · exact Or.inr ⟨e, List.mem_append_right _ he, hfailed⟩
      · rw [if_neg htrue]
        exact ⟨_, _, _, rfl, Or.inr (hgoes.resolve_left htrue)⟩

end Reading

/-! ## The surroundings of the loop -/

section Peer

variable {Sigma : Type} (env : (o : VpcdOp) → Sigma → VpcdRet o × Sigma)

/-- A peer whose bytes arrive as `TcpStream` says and who takes every response;
all else is up to `env`. -/
def peer (o : VpcdOp) (p : TcpStream × Sigma) : VpcdRet o × (TcpStream × Sigma) :=
  match o with
  | readExact n => ((p.1.readExact n).1, (p.1.readExact n).2, (env (readExact n) p.2).2)
  | writeAll data => (.ok (), p.1, (env (writeAll data) p.2).2)
  | flush => (.ok (), p.1, (env flush p.2).2)
  | received msg => ((), p.1, (env (received msg) p.2).2)
  | sending data => ((), p.1, (env (sending data) p.2).2)
  | getSession sid => ((env (getSession sid) p.2).1, p.1, (env (getSession sid) p.2).2)
  | sleep millis => ((), p.1, (env (sleep millis) p.2).2)
  | sendCommand sid command readerName =>
    ((env (sendCommand sid command readerName) p.2).1, p.1,
      (env (sendCommand sid command readerName) p.2).2)
  | recvResponse rx => ((env (recvResponse rx) p.2).1, p.1, (env (recvResponse rx) p.2).2)

/-- The surroundings that vpcd gives read from its stream. -/
theorem readsStream_peer : ReadsStream (peer env) where
  readExact := fun _ _ => rfl
  stream := fun o _ ho => by cases o <;> first | rfl | exact absurd rfl ho

/-- The peer takes every response. -/
theorem not_writeFailed_peer (o : VpcdOp) (p : TcpStream × Sigma) :
    ¬ WriteFailed ⟨o, (peer env o p).1⟩ := by
  cases o <;> exact id

/-- Against such a peer the message loop ends, and has handed over what the reader of
the grammar reads. -/
theorem requests_peer (c : VpcdClient) (stream : TcpStream) (s : Sigma) (extra : ℕ) :
    ∃ c' tr p', loopExec (peer env) VpcdClient.messageLoopBody (stream.bytes.length + 1 + extra) c
        (stream, s) = some (c', tr, p') ∧
      requests tr = (requestReader.readAll stream.bytes).1 := by
  obtain ⟨c', tr, p', hloop, hreads⟩ := loopExec_messageLoop (readsStream_peer env)
    (stream.bytes.length + 1 + extra) c (stream, s) (by dsimp only; omega)
  have hwritten := loopExec_answers (P := fun e => ¬ WriteFailed e) _
    (not_writeFailed_peer env) hloop
  exact ⟨c', tr, p', hloop,
    hreads.resolve_right fun ⟨e, he, hfailed⟩ => hwritten e he hfailed⟩

/-- **The grammar of the requests.**  Whatever the surroundings do, the message
loop ends, and the messages it has handed to `handle_message` are those of the
longest front part of the stream that is a concatenation of well-formed frames.
In particular the encoding of a list of messages is decoded to that list. -/
theorem requests_of_messageLoop (c : VpcdClient) (stream : TcpStream) (s : Sigma) (extra : ℕ) :
    ∃ c' tr p', loopExec (peer env) VpcdClient.messageLoopBody (stream.bytes.length + 1 + extra) c
        (stream, s) = some (c', tr, p') ∧
      (∃ b rest, stream.bytes = b ++ rest ∧ Frames b (requests tr) ∧
        ∀ b' rest' ms, stream.bytes = b' ++ rest' → Frames b' ms →
          b'.length ≤ b.length ∧ ms <+: requests tr) ∧
      ∀ ms : List VpcdMessage, (∀ m ∈ ms, m.Encodable) →
        stream.bytes = ms.flatMap VpcdMessage.encode → requests tr = ms := by
  obtain ⟨c', tr, p', hloop, hreq⟩ := requests_peer env c stream s extra
  refine ⟨c', tr, p', hloop, ?_, fun ms hms hbytes => ?_⟩
  · obtain ⟨b, hb, hconcat, -⟩ := requestReader.readAll_spec stream.bytes
    rw [hreq]
    refine ⟨b, _, hb, concat_requestReader_iff.mp hconcat, fun b' rest' ms hb' hframes => ?_⟩
    obtain ⟨hfront, hle⟩ :=
      FrameReader.readAll_longest hb' (concat_requestReader_iff.mpr hframes)
    refine ⟨?_, hfront⟩
    have hlen := congrArg List.length hb
    have hlen' := congrArg List.length hb'
    rw [List.length_append] at hlen hlen'
    omega
  · have hconcat := concat_requestReader_iff.mpr (frames_flatMap_encode hms)
    rw [hreq, hbytes, hconcat.readAll_eq]

end Peer

end RemoteSmartcard
