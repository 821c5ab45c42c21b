/-
# Errors on the connection to vpcd

`VpcdClient::connect` returns a `Result`, and the retry loop of `start_client`
backs off after an error and reconnects at once after `Ok(())`.  The message
loop leaves through three `break`s: at the end of the stream, after an error of
`receive_message`, and after a failed `send_response`; all three return `Ok(())`.
Here the surroundings answer the writes too, so that any of them may fail.
-/
import RemoteSmartcard.RequestGrammar
import RemoteSmartcard.Transitions

namespace RemoteSmartcard

open VpcdOp
open Program hiding pure

/-! ## A call of `connect` -/

/-- A connection whose bytes arrive as `TcpStream` says; all other operations, the
writes among them, are answered by `env`. -/
def link {Sigma : Type} (env : (o : VpcdOp) → Sigma → VpcdRet o × Sigma) (o : VpcdOp)
    (p : TcpStream × Sigma) : VpcdRet o × (TcpStream × Sigma) :=
  match o with
  | readExact n => ((p.1.readExact n).1, (p.1.readExact n).2, (env (readExact n) p.2).2)
  | o => ((env o p.2).1, p.1, (env o p.2).2)

theorem readsStream_link {Sigma : Type} (env : (o : VpcdOp) → Sigma → VpcdRet o × Sigma) :
    ReadsStream (link env) where
  readExact := fun _ _ => rfl
  stream := fun o _ ho => by cases o <;> first | rfl | exact absurd rfl ho

/-- A call of `connect`: its result, the client afterwards and the operations. -/
structure ConnectCall where
  result : Except String Unit
  client : VpcdClient
  trace : List VpcdEvent

/-- `VpcdClient::connect` when `TcpStream::connect` gives `opened`, for at most
`fuel` turns of the message loop. -/
def VpcdClient.connect {Sigma : Type} (env : (o : VpcdOp) → Sigma → VpcdRet o × Sigma)
    (fuel : ℕ) (c : VpcdClient) (opened : Except String TcpStream) (s : Sigma) :
    Option ConnectCall :=
  match opened with
  | .error e => some ⟨.error s!"Failed to connect to vpcd: {e}", c, []⟩
  | .ok stream =>
    (loopExec (link env) VpcdClient.messageLoopBody fuel { c with powered := true }
      (stream, s)).map fun r => ⟨.ok (), r.1, r.2.1⟩

/-- What the retry loop of `start_client` makes of a result of `connect`: the
number of consecutive errors, and the pause in milliseconds. -/
def afterConnect (consecutiveErrors : UInt32) : Except String Unit → UInt32 × ℕ
  | .ok () => (0, 100)
  | .error _ =>
    (consecutiveErrors + 1, min (consecutiveErrors + 1).toNat 5 * 1000)

namespace Server

/-- The task of a reader does that after a failure to connect. -/
theorem taskConnect_failed {s : Server} {i : ℕ} {t : VpcdTask} (h : t.phase = .connecting)
    (e : String) : s.taskConnect i t (.error e) = some (s.setTask i { t with
      consecutiveErrors := (afterConnect t.consecutiveErrors (.error e)).1
      phase := .pausing (afterConnect t.consecutiveErrors (.error e)).2 }) := by
  rw [taskConnect, h]
  rfl

end Server

/-! ## How a connection ends -/

namespace ConnectCall

/-- Nothing went wrong: the peer closed the connection after whole well-formed
frames, and every write was taken. -/
structure Clean (stream : TcpStream) (call : ConnectCall) : Prop where
  closed : stream.ending = .unexpectedEof
  framed : ∃ ms, Frames stream.bytes ms
  written : ∀ e ∈ call.trace, ¬ WriteFailed e

/-- The result tells whether something went wrong, and if so the retry loop backs
off. -/
structure Reported (stream : TcpStream) (call : ConnectCall) : Prop where
  result : call.result = .ok () ↔ call.Clean stream
  backoff : ¬ call.Clean stream → ∀ consecutiveErrors,
    afterConnect consecutiveErrors call.result =
      (consecutiveErrors + 1, min (consecutiveErrors + 1).toNat 5 * 1000)

/-- A call that returns `Ok(())` is reported truly exactly if it was clean. -/
theorem reported_iff_clean {stream : TcpStream} {call : ConnectCall}
    (h : call.result = .ok ()) : call.Reported stream ↔ call.Clean stream := by
  constructor
  · intro hreported
    exact hreported.result.mp h
  · intro hclean
    exact ⟨iff_of_true h hclean, fun hnot => absurd hclean hnot⟩

end ConnectCall

section Connect

variable {Sigma : Type} (env : (o : VpcdOp) → Sigma → VpcdRet o × Sigma)

/-- On an open connection `connect` returns, with `Ok(())`; without a failed write
it has handed over all whole frames. -/
theorem VpcdClient.connect_ok (c : VpcdClient) (stream : TcpStream) (s : Sigma) (extra : ℕ) :
    ∃ call, c.connect env (stream.bytes.length + 1 + extra) (.ok stream) s = some call ∧
      call.result = .ok () ∧ ((∀ e ∈ call.trace, ¬ WriteFailed e) →
        requests call.trace = (requestReader.readAll stream.bytes).1) := by
  obtain ⟨c', tr, p', hloop, hreads⟩ := loopExec_messageLoop (readsStream_link env)
    (stream.bytes.length + 1 + extra) { c with powered := true } (stream, s)
    (by dsimp only; omega)
  refine ⟨⟨.ok (), c', tr⟩, ?_, rfl, fun hwritten => ?_⟩
  · rw [VpcdClient.connect, hloop]
    rfl
  · exact hreads.resolve_right fun ⟨e, he, hfailed⟩ => hwritten e he hfailed

/-- **Errors on the connection.**  Whatever the peer sends, however the connection
ends, and whatever becomes of the writes: `connect` returns, and its result tells
truly whether something went wrong exactly if nothing did. -/
theorem VpcdClient.reported_iff (c : VpcdClient) (stream : TcpStream) (s : Sigma) (extra : ℕ) :
    ∃ call, c.connect env (stream.bytes.length + 1 + extra) (.ok stream) s = some call ∧
      (call.Reported stream ↔ call.Clean stream) := by
  obtain ⟨call, hcall, hok, -⟩ := c.connect_ok env stream s extra
  exact ⟨call, hcall, ConnectCall.reported_iff_clean hok⟩

end Connect

/-! ## A frame of length zero -/

/-- A peer that sends a frame of length zero and closes the connection. -/
def zeroLengthStream : TcpStream := ⟨[[0x00, 0x00]], .unexpectedEof⟩

/-- A server that has no sessions; all writes are taken. -/
def noSessions : (o : VpcdOp) → Unit → VpcdRet o × Unit
  | readExact _, u => (.error .unexpectedEof, u)
  | writeAll _, u => (.ok (), u)
  | flush, u => (.ok (), u)
  | received _, u => ((), u)
  | sending _, u => ((), u)
  | getSession _, u => (none, u)
  | sleep _, u => ((), u)
  | sendCommand _ _ _, u => (none, u)
  | recvResponse _, u => (.error .closed, u)

theorem not_frames_zeroLength (ms : List VpcdMessage) : ¬ Frames zeroLengthStream.bytes ms := by
  intro h
  have hread := (concat_requestReader_iff.mpr h).readAll_eq
  have hnone : requestReader.next zeroLengthStream.bytes = none := rfl
  rw [FrameReader.readAll_of_next_eq_none hnone, Prod.mk.injEq] at hread
  cases hread.2

/-- After it `connect` returns `Ok(())`, and the retry loop does not back off. -/
theorem VpcdClient.not_reported_zeroLength :
    ∃ call, VpcdClient.new.connect noSessions 3 (.ok zeroLengthStream) () = some call ∧
      afterConnect 4 call.result = (0, 100) ∧ ¬ call.Reported zeroLengthStream := by
  obtain ⟨call, hcall, hok, -⟩ := VpcdClient.new.connect_ok noSessions zeroLengthStream () 0
  refine ⟨call, hcall, by rw [hok]; rfl, fun hreported => ?_⟩
  obtain ⟨ms, hframes⟩ := (hreported.result.mp hok).framed
  exact not_frames_zeroLength ms hframes

end RemoteSmartcard
