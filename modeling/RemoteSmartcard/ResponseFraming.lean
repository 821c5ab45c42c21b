/-
# The framing of the responses to vpcd

`send_response` writes the length of a response as a `u16` and then the
response.  The peer reads frames with a two-byte length field.  The responses
are read back as they were written as long as their lengths fit the field; a
longer response, such as an extended APDU can give, is written with its length
modulo 2^16.
-/
import RemoteSmartcard.FrameStream
import RemoteSmartcard.MessageLoop

namespace RemoteSmartcard

open VpcdOp
open Program hiding pure

/-! ## The length field -/

/-- The number a two-byte big-endian field stands for. -/
def beLength : Bytes → ℕ
  | [a, b] => a.toNat * 256 + b.toNat
  | _ => 0

/-- The reader of frames with a two-byte big-endian length, as vpcd reads the
responses (and the test tool in `tools/vpcd-test`). -/
def frameReader : FrameReader UInt8 Bytes := .lengthPrefixed 1 beLength

/-- A stream that ends within a length field has no frame. -/
theorem frameReader_next_of_length_lt {b : Bytes} (h : b.length < 2) :
    frameReader.next b = none := by
  rw [frameReader, FrameReader.lengthPrefixed_next, if_neg (by omega)]

@[simp] theorem length_u16ToBeBytes (n : UInt16) : (u16ToBeBytes n).length = 2 := rfl

@[simp] theorem beLength_u16ToBeBytes (n : UInt16) : beLength (u16ToBeBytes n) = n.toNat := by
  have hlt := n.toNat_lt
  simp only [u16ToBeBytes, beLength, UInt8.toNat_ofNat']
  omega

/-- A length field of two bytes is below 65536. -/
theorem beLength_lt (header : Bytes) : beLength header < 65536 := by
  unfold beLength
  split
  · rename_i a b
    have ha := a.toNat_lt
    have hb := b.toNat_lt
    omega
  · omega

/-- The frames of the reader: a length of two bytes, and as many bytes. -/
theorem isFrame_frameReader_iff {f payload : Bytes} :
    frameReader.IsFrame f payload ↔
      ∃ hi lo, f = hi :: lo :: payload ∧ payload.length = hi.toNat * 256 + lo.toNat := by
  constructor
  · intro h
    rw [FrameReader.IsFrame, frameReader, FrameReader.lengthPrefixed_next] at h
    split_ifs at h with hle
    simp only [Option.some.injEq, Prod.mk.injEq] at h
    obtain ⟨hp, hrest⟩ := h
    rcases f with _ | ⟨hi, _ | ⟨lo, t⟩⟩
    · simp at hle
    · rw [List.length_singleton] at hle
      omega
    · simp only [List.take_succ_cons, List.take_zero, List.drop_succ_cons, List.drop_zero,
        beLength, List.length_cons] at hp hrest hle
      rw [List.drop_eq_nil_iff] at hrest
      rw [List.take_of_length_le hrest] at hp
      subst hp
      exact ⟨hi, lo, rfl, by omega⟩
  · rintro ⟨hi, lo, rfl, hlen⟩
    exact FrameReader.isFrame_lengthPrefixed (show [hi, lo].length = 1 + 1 from rfl) hlen.symm

/-- The frame of a payload whose length fits. -/
def frameOf (payload : Bytes) : Bytes := u16ToBeBytes (UInt16.ofNat payload.length) ++ payload

/-- A payload that fits is framed. -/
theorem isFrame_frameOf {payload : Bytes} (h : payload.length < 65536) :
    frameReader.IsFrame (frameOf payload) payload := by
  apply FrameReader.isFrame_lengthPrefixed (length_u16ToBeBytes _)
  rw [beLength_u16ToBeBytes, UInt16.toNat_ofNat']
  exact Nat.mod_eq_of_lt h

/-- What is framed fits. -/
theorem length_of_isFrame {f payload : Bytes} (h : frameReader.IsFrame f payload) :
    payload.length < 65536 := by
  rw [FrameReader.length_of_lengthPrefixed_next h]
  exact beLength_lt _

/-- So does each payload of a sequence of frames. -/
theorem length_of_concat {b : Bytes} {payloads : List Bytes}
    (h : frameReader.Concat b payloads) : ∀ p ∈ payloads, p.length < 65536 := by
  induction h with
  | nil => simp
  | cons hf _ ih =>
    intro p hp
    rcases List.mem_cons.mp hp with rfl | hp
    · exact length_of_isFrame hf
    · exact ih p hp

/-! ## What is written -/

/-- The bytes an operation writes. -/
def VpcdOp.bytes : VpcdOp → Bytes
  | writeAll data => data
  | _ => []

/-- The bytes written along a trace. -/
def written (tr : List VpcdEvent) : Bytes := tr.flatMap fun e => e.op.bytes

/-- A successful `send_response` writes the length, the data, and flushes. -/
theorem yields_sendResponse_iff {data : Bytes} {tr : List VpcdEvent} :
    (sendResponse data).Yields tr (.ok ()) ↔
      tr = [⟨writeAll (u16ToBeBytes (UInt16.ofNat data.length)), .ok ()⟩,
        ⟨writeAll data, .ok ()⟩, ⟨flush, .ok ()⟩] := by
  constructor
  · intro h
    unfold sendResponse at h
    obtain ⟨r₁, t₁, rfl, h₁⟩ := yields_perform_bind_iff.mp h
    rcases r₁ with e | ⟨⟩
    · cases (yields_pure_iff.mp h₁).2
    obtain ⟨r₂, t₂, rfl, h₂⟩ := yields_perform_bind_iff.mp h₁
    rcases r₂ with e | ⟨⟩
    · cases (yields_pure_iff.mp h₂).2
    obtain ⟨r₃, t₃, rfl, h₃⟩ := yields_perform_bind_iff.mp h₂
    rcases r₃ with e | ⟨⟩
    · cases (yields_pure_iff.mp h₃).2
    rw [(yields_pure_iff.mp h₃).1]
  · rintro rfl
    exact .head (.head (.head (.refl _)))

/-- `send_response` writes the frame of its data. -/
theorem written_of_sendResponse {data : Bytes} {tr : List VpcdEvent}
    (h : (sendResponse data).Yields tr (.ok ())) : written tr = frameOf data := by
  rw [yields_sendResponse_iff.mp h]
  simp [written, VpcdOp.bytes, frameOf]

/-- A response that the handling of a message gave and that was written
successfully. -/
structure SentResponse where
  client : VpcdClient
  msg : VpcdMessage
  handling : List VpcdEvent
  client' : VpcdClient
  data : Bytes
  writing : List VpcdEvent
  handles : (client.handleMessage msg).Yields handling (some data, client')
  sends : (sendResponse data).Yields writing (.ok ())

namespace SentResponse

/-- All bytes written for a list of responses. -/
def allWritten (xs : List SentResponse) : Bytes := xs.flatMap fun x => written x.writing

/-- Several responses write their frames one after the other. -/
theorem allWritten_eq (xs : List SentResponse) :
    allWritten xs = xs.flatMap fun x => frameOf x.data := by
  unfold allWritten
  congr 1
  funext x
  exact written_of_sendResponse x.sends

/-- **The framing of the responses.**  The responses of a list are read back from
what is written for them, with nothing left over, exactly if each has at most
65535 bytes. -/
theorem readAll_allWritten_iff (xs : List SentResponse) :
    frameReader.readAll (allWritten xs) = (xs.map (·.data), []) ↔
      ∀ x ∈ xs, x.data.length ≤ 65535 := by
  rw [allWritten_eq]
  constructor
  · intro h x hx
    obtain ⟨b, -, hconcat, -⟩ := frameReader.readAll_spec (xs.flatMap fun x => frameOf x.data)
    rw [h] at hconcat
    have hlt := length_of_concat hconcat x.data (List.mem_map_of_mem hx)
    omega
  · intro h
    have hconcat : frameReader.Concat (xs.flatMap fun x => frameOf x.data) (xs.map (·.data)) :=
      FrameReader.concat_flatMap fun x hx => isFrame_frameOf (by have := h x hx; omega)
    exact hconcat.readAll_eq

/-- The response to an extended APDU: 65534 bytes of data and the status 9000,
as a client that read 65536 bytes from its card sends it. -/
def extended : CommandResponse :=
  ⟨1, "s", true, "", some (.apdu ⟨List.replicate 65534 0, 0x90, 0x00⟩)⟩

/-- Its data and the two status bytes are one byte too many. -/
theorem length_apduResult_extended : (VpcdClient.apduResult extended).length = 65536 := by
  have h : VpcdClient.apduResult extended = List.replicate 65534 0 ++ [0x90, 0x00] := rfl
  rw [h, List.length_append, List.length_replicate]
  rfl

/-- The response to an extended APDU, handled and written. -/
def ofExtended : SentResponse where
  client := VpcdClient.new.setTarget "s" "r"
  msg := .apdu [0x00, 0xB0, 0x00, 0x00, 0x00, 0xFF, 0xFE]
  handling := [⟨.getSession "s", some ⟨"s", "client", 0, 0, ∅, some ⟨0, ∅⟩⟩⟩,
    ⟨.sendCommand "s" (.apdu ⟨[0x00, 0xB0, 0x00, 0x00, 0x00, 0xFF, 0xFE]⟩) "r", some (.ok 0)⟩,
    ⟨.recvResponse 0, .ok extended⟩]
  client' := VpcdClient.new.setTarget "s" "r"
  data := VpcdClient.apduResult extended
  writing := _
  handles := .head (.head (.head (.refl _)))
  sends := yields_sendResponse_iff.mpr rfl

/-- It is not read back: its length field says zero. -/
theorem not_readAll_allWritten_ofExtended :
    ¬ frameReader.readAll (allWritten [ofExtended]) = ([ofExtended.data], []) := by
  rw [allWritten_eq]
  intro h
  obtain ⟨b, -, hconcat, -⟩ :=
    frameReader.readAll_spec ([ofExtended].flatMap fun x => frameOf x.data)
  rw [h] at hconcat
  have hlt := length_of_concat hconcat ofExtended.data (by simp)
  rw [show ofExtended.data = VpcdClient.apduResult extended from rfl,
    length_apduResult_extended] at hlt
  omega

end SentResponse

end RemoteSmartcard
