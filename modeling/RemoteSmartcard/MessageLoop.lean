/-
# The rounds of the message loop

The message loop of `VpcdClient::connect` reads a message, handles it, and
hands at most one response to `send_response` before it reads the next.
`Exchange` is one such round; a run of the loop is a chain of exchanges and a
round not yet answered.  Nothing is assumed here about how the operations are
answered.
-/
import RemoteSmartcard.Vpcd

namespace RemoteSmartcard

open VpcdOp
open Program hiding pure

/-! ## Which operations occur where -/

/-- The marks of a trace: the messages handed to `handle_message` and the
responses handed to `send_response`. -/
inductive Mark
  | request (msg : VpcdMessage)
  | response (data : Bytes)
  deriving DecidableEq

/-- The mark an operation leaves. -/
def VpcdOp.mark : VpcdOp → Option Mark
  | received msg => some (.request msg)
  | sending data => some (.response data)
  | _ => none

/-- The marks of a trace, in order. -/
def marks (tr : List VpcdEvent) : List Mark := tr.filterMap fun e => e.op.mark

@[simp] theorem marks_append (tr tr' : List VpcdEvent) :
    marks (tr ++ tr') = marks tr ++ marks tr' := List.filterMap_append

@[simp] theorem marks_received (msg : VpcdMessage) (r : Unit) (tr : List VpcdEvent) :
    marks (⟨received msg, r⟩ :: tr) = .request msg :: marks tr := rfl

@[simp] theorem marks_sending (data : Bytes) (r : Unit) (tr : List VpcdEvent) :
    marks (⟨sending data, r⟩ :: tr) = .response data :: marks tr := rfl

/-- The part of a round an operation belongs to. -/
inductive Part
  | reading
  | marking
  | handling
  | writing
  deriving DecidableEq

/-- The part of the round in which an operation is used. -/
def VpcdOp.part : VpcdOp → Part
  | readExact _ => .reading
  | received _ => .marking
  | sending _ => .marking
  | writeAll _ => .writing
  | flush => .writing
  | getSession _ => .handling
  | sleep _ => .handling
  | sendCommand _ _ _ => .handling
  | recvResponse _ => .handling

/-- Only the marks are marked. -/
theorem mark_eq_none {o : VpcdOp} (h : o.part ≠ .marking) : o.mark = none := by
  cases o <;> first | rfl | exact absurd rfl h

/-- A program that keeps to another part of the round leaves no mark. -/
theorem marks_eq_nil {Alpha : Type} {p q : VpcdProgram Alpha} {tr : List VpcdEvent} {x : Part}
    (hp : p.Uses fun o => o.part = x) (hx : x ≠ .marking) (h : Follows p tr q) :
    marks tr = [] := by
  unfold marks
  rw [List.filterMap_eq_nil_iff]
  intro e he
  exact mark_eq_none (((hp.follows h).1 e he).trans_ne hx)

/-- `receive_message` only reads. -/
theorem uses_receiveMessage : receiveMessage.Uses fun o => o.part = .reading := by
  unfold receiveMessage
  refine .perform_bind rfl fun lenBuf => ?_
  rcases lenBuf with (_ | _) | lenBuf
  · trivial
  · trivial
  · dsimp only
    split
    · trivial
    · refine .perform_bind rfl fun data => ?_
      rcases data with e | data
      · trivial
      · dsimp only
        split
        · split <;> trivial
        · trivial

/-- `send_response` only writes. -/
theorem uses_sendResponse (data : Bytes) :
    (sendResponse data).Uses fun o => o.part = .writing := by
  unfold sendResponse
  refine .perform_bind rfl fun r => ?_
  rcases r with e | ⟨⟩
  · trivial
  · refine .perform_bind rfl fun r => ?_
    rcases r with e | ⟨⟩
    · trivial
    · refine .perform_bind rfl fun r => ?_
      rcases r with e | ⟨⟩ <;> trivial

/-- The operations of `wait_for_command_channel`. -/
def VpcdOp.IsPolling : VpcdOp → Prop
  | getSession _ => True
  | sleep _ => True
  | _ => False

/-- Waiting for the command channel is part of the handling of a message. -/
theorem VpcdOp.IsPolling.part_eq {o : VpcdOp} (h : o.IsPolling) : o.part = .handling := by
  cases o with
  | getSession sid => rfl
  | sleep millis => rfl
  | _ => exact absurd h id

namespace VpcdClient

/-- The waits for a command channel only look at the session and sleep. -/
theorem uses_pollCommandChannel (sid : String) (n : ℕ) :
    (pollCommandChannel sid n).Uses IsPolling := by
  induction n with
  | zero => trivial
  | succ n ih =>
    refine .perform_bind trivial fun session => ?_
    rcases session with _ | session
    · trivial
    · dsimp only
      split_ifs
      · trivial
      · exact .perform_bind trivial fun _ => ih

/-- So does `wait_for_command_channel`. -/
theorem uses_waitForCommandChannel (c : VpcdClient) :
    c.waitForCommandChannel.Uses IsPolling := by
  unfold waitForCommandChannel
  split
  · exact uses_pollCommandChannel ..
  · trivial

/-- What `forward_apdu` and `get_atr_from_client` have in common: wait for the
channel, send the command, wait for the response; `d` is the result of every
failure, `k` goes on with the response. -/
def ask {Alpha : Type} (c : VpcdClient) (sid readerName : String) (command : Command)
    (d : Alpha) (k : CommandResponse → VpcdProgram Alpha) : VpcdProgram Alpha := do
  if !(← c.waitForCommandChannel) then pure d
  else do
    match ← doSendCommand sid command readerName with
    | none => pure d
    | some (.error _) => pure d
    | some (.ok rx) => do
      match ← doRecvResponse rx with
      | .ok response => k response
      | .error .closed => pure d
      | .error .elapsed => pure d

/-- `forward_apdu` asks the client, if the vpcd client has a target. -/
theorem forwardApdu_eq (c : VpcdClient) (apdu : Bytes) :
    c.forwardApdu apdu =
      match c.sessionId, c.readerName with
      | some sid, some readerName =>
        c.ask sid readerName (.apdu ⟨apdu⟩) noPreciseDiagnosis fun r => pure (apduResult r)
      | _, _ => pure noPreciseDiagnosis := rfl

/-- `get_atr_from_client` looks at the stored ATR first, and asks only without one. -/
theorem getAtrFromClient_eq (c : VpcdClient) :
    c.getAtrFromClient =
      match c.sessionId, c.readerName with
      | some sid, some readerName => do
        match cachedAtr (← doGetSession sid) readerName with
        | some atr => pure (atr, { c with atr := atr })
        | none =>
          c.ask sid readerName (.getAtr ⟨⟩) ([], c) fun r =>
            match atrResult r with
            | some atr => pure (atr, { c with atr := atr })
            | none => pure ([], c)
      | _, _ => pure ([], c) := rfl

/-- Asking the client is part of the handling of a message. -/
theorem uses_ask {Alpha : Type} (c : VpcdClient) (sid readerName : String) (command : Command)
    (d : Alpha) {k : CommandResponse → VpcdProgram Alpha}
    (hk : ∀ r, (k r).Uses fun o => o.part = .handling) :
    (c.ask sid readerName command d k).Uses fun o => o.part = .handling := by
  have hwait := c.uses_waitForCommandChannel.mono fun _ => IsPolling.part_eq
  refine hwait.bind fun ready => ?_
  split
  · trivial
  · refine .perform_bind rfl fun sent => ?_
    rcases sent with _ | _ | rx
    · trivial
    · trivial
    · refine .perform_bind rfl fun answer => ?_
      rcases answer with (_ | _) | r
      · trivial
      · trivial
      · exact hk r

/-- So is `forward_apdu`. -/
theorem uses_forwardApdu (c : VpcdClient) (apdu : Bytes) :
    (c.forwardApdu apdu).Uses fun o => o.part = .handling := by
  rw [forwardApdu_eq]
  split
  · exact uses_ask _ _ _ _ _ fun _ => trivial
  · trivial

/-- So is `get_atr_from_client`. -/
theorem uses_getAtrFromClient (c : VpcdClient) :
    c.getAtrFromClient.Uses fun o => o.part = .handling := by
  rw [getAtrFromClient_eq]
  split
  · refine .perform_bind rfl fun session => ?_
    split
    · trivial
    · refine uses_ask _ _ _ _ _ fun r => ?_
      split <;> trivial
  · trivial

/-- `handle_message` only handles: it neither reads nor writes. -/
theorem uses_handleMessage (c : VpcdClient) (msg : VpcdMessage) :
    (c.handleMessage msg).Uses fun o => o.part = .handling := by
  rcases msg with cmd | data
  · cases cmd with
    | powerOff => trivial
    | powerOn => trivial
    | reset => trivial
    | getAtr => exact (uses_getAtrFromClient c).bind fun _ => trivial
  · exact (uses_forwardApdu c data).bind fun _ => trivial

end VpcdClient

/-! ## Exchanges -/

/-- The messages that get a response. -/
def VpcdMessage.needsResponse : VpcdMessage → Bool
  | .control .getAtr => true
  | .control _ => false
  | .apdu _ => true

/-- `handle_message` gives a response exactly for the messages that need one. -/
theorem isSome_of_handleMessage {c c' : VpcdClient} {msg : VpcdMessage} {tr : List VpcdEvent}
    {answer : Option Bytes} (h : (c.handleMessage msg).Yields tr (answer, c')) :
    answer.isSome = msg.needsResponse := by
  rcases msg with cmd | data
  · cases cmd with
    | powerOff | powerOn | reset =>
      obtain ⟨-, heq⟩ := yields_pure_iff.mp h
      cases heq
      rfl
    | getAtr =>
      obtain ⟨t₁, t₂, a, -, -, h₂⟩ := yields_bind_iff.mp h
      obtain ⟨-, heq⟩ := yields_pure_iff.mp h₂
      cases heq
      rfl
  · obtain ⟨t₁, t₂, a, -, -, h₂⟩ := yields_bind_iff.mp h
    obtain ⟨-, heq⟩ := yields_pure_iff.mp h₂
    cases heq
    rfl

/-- The operations by which a response goes out, as far as they have got: none
without a response. -/
def Hands : Option Bytes → List VpcdEvent → Prop
  | none, tr => tr = []
  | some data, tr => ∃ tr' p, tr = ⟨sending data, ()⟩ :: tr' ∧ Follows (sendResponse data) tr' p

/-- One round of the message loop: the message `msg` is read, handled with the
result `answer`, and the response, if any, handed over. -/
structure Exchange where
  client : VpcdClient
  msg : VpcdMessage
  answer : Option Bytes
  client' : VpcdClient
  reading : List VpcdEvent
  handling : List VpcdEvent
  writing : List VpcdEvent
  reads : receiveMessage.Yields reading (.ok (some msg))
  handles : (client.handleMessage msg).Yields handling (answer, client')
  hands : Hands answer writing

namespace Exchange

/-- The operations of an exchange. -/
def trace (x : Exchange) : List VpcdEvent :=
  x.reading ++ ⟨received x.msg, ()⟩ :: (x.handling ++ x.writing)

/-- An exchange hands over its message and then its response, if the message
needs one. -/
theorem marks_trace (x : Exchange) :
    marks x.trace = .request x.msg :: x.answer.toList.map .response := by
  have hwriting : marks x.writing = x.answer.toList.map .response := by
    have hw := x.hands
    cases ha : x.answer with
    | none =>
      rw [ha] at hw
      rw [show x.writing = [] from hw]
      rfl
    | some data =>
      rw [ha] at hw
      obtain ⟨tr', p, htr, hsend⟩ := hw
      rw [htr, marks_sending, marks_eq_nil (uses_sendResponse data) (by decide) hsend]
      rfl
  rw [trace, marks_append, marks_received, marks_append,
    marks_eq_nil uses_receiveMessage (by decide) x.reads,
    marks_eq_nil (x.client.uses_handleMessage x.msg) (by decide) x.handles, hwriting]
  rfl

/-- An exchange has an answer exactly if its message needs one. -/
theorem isSome_answer (x : Exchange) : x.answer.isSome = x.msg.needsResponse :=
  isSome_of_handleMessage x.handles

/-- The response has been written, if there is one. -/
def Sent (x : Exchange) : Prop :=
  ∀ data, x.answer = some data →
    ∃ tr, x.writing = ⟨sending data, ()⟩ :: tr ∧ (sendResponse data).Yields tr (.ok ())

end Exchange

/-- A round that has not handed over anything: it is still reading, or handling
a message. -/
inductive Unanswered (c : VpcdClient) : List VpcdEvent → Prop
  | reading {tr : List VpcdEvent} {p : VpcdProgram (Except String (Option VpcdMessage))}
      (h : Follows receiveMessage tr p) : Unanswered c tr
  | handling {tr tr' : List VpcdEvent} {msg : VpcdMessage}
      {p : VpcdProgram (Option Bytes × VpcdClient)}
      (hr : receiveMessage.Yields tr (.ok (some msg)))
      (hh : Follows (c.handleMessage msg) tr' p) :
      Unanswered c (tr ++ ⟨received msg, ()⟩ :: tr')

/-- Before anything has happened a message is being read. -/
theorem Unanswered.nil (c : VpcdClient) : Unanswered c [] := .reading (.refl _)

/-- Without a response handed over, at most a message has been read. -/
theorem Unanswered.marks {c : VpcdClient} {tr : List VpcdEvent} (h : Unanswered c tr) :
    marks tr = [] ∨ ∃ msg, marks tr = [.request msg] := by
  cases h with
  | reading h => exact Or.inl (marks_eq_nil uses_receiveMessage (by decide) h)
  | @handling tr tr' msg p hr hh =>
    refine Or.inr ⟨msg, ?_⟩
    rw [marks_append, marks_received, marks_eq_nil uses_receiveMessage (by decide) hr,
      marks_eq_nil (c.uses_handleMessage msg) (by decide) hh]
    rfl

/-! ## The rounds of the message loop -/

/-- What a round does with a message that it has read. -/
def VpcdClient.respond (c : VpcdClient) (msg : VpcdMessage) : VpcdProgram (Bool × VpcdClient) := do
  doReceived msg
  let (answer, c) ← c.handleMessage msg
  match answer with
  | some response => do
    doSending response
    match ← sendResponse response with
    | .error _ => pure (false, c)
    | .ok () => pure (true, c)
  | none => pure (true, c)

/-- A round reads a message and, if there is one, responds. -/
theorem VpcdClient.messageLoopBody_eq (c : VpcdClient) :
    c.messageLoopBody = receiveMessage.bind fun
      | .ok (some msg) => c.respond msg
      | .ok none => pure (false, c)
      | .error _ => pure (false, c) := rfl

/-- The message is handled; the loop goes on without an answer, or when the answer
is written. -/
theorem VpcdClient.yields_respond {c c' : VpcdClient} {msg : VpcdMessage} {tr : List VpcdEvent}
    {goesOn : Bool} (h : (c.respond msg).Yields tr (goesOn, c')) :
    ∃ answer handling writing, tr = ⟨received msg, ()⟩ :: (handling ++ writing) ∧
      (c.handleMessage msg).Yields handling (answer, c') ∧
      ((answer = none ∧ writing = [] ∧ goesOn = true) ∨
        ∃ data tr' sent, answer = some data ∧ writing = ⟨sending data, ()⟩ :: tr' ∧
          (sendResponse data).Yields tr' sent ∧ (goesOn = true ↔ sent = .ok ())) := by
  unfold VpcdClient.respond at h
  obtain ⟨⟨⟩, t₁, rfl, h₁⟩ := yields_perform_bind_iff.mp h
  obtain ⟨handling, t₂, ⟨answer, c₁⟩, rfl, hh, h₂⟩ := yields_bind_iff.mp h₁
  cases answer with
  | none =>
    obtain ⟨rfl, heq⟩ := yields_pure_iff.mp h₂
    cases heq
    exact ⟨none, handling, [], rfl, hh, Or.inl ⟨rfl, rfl, rfl⟩⟩
  | some data =>
    obtain ⟨⟨⟩, t₃, rfl, h₃⟩ := yields_perform_bind_iff.mp h₂
    obtain ⟨tr', t₄, sent, rfl, hw, h₄⟩ := yields_bind_iff.mp h₃
    refine ⟨some data, handling, ⟨sending data, ()⟩ :: tr', ?_⟩
    rcases sent with e | ⟨⟩
    · obtain ⟨rfl, heq⟩ := yields_pure_iff.mp h₄
      cases heq
      exact ⟨by rw [List.append_nil], hh, Or.inr ⟨data, tr', _, rfl, rfl, hw, by simp⟩⟩
    · obtain ⟨rfl, heq⟩ := yields_pure_iff.mp h₄
      cases heq
      exact ⟨by rw [List.append_nil], hh, Or.inr ⟨data, tr', _, rfl, rfl, hw, by simp⟩⟩

/-- A round that goes on with the next is an exchange with its response
written. -/
theorem exchange_of_yields {c c' : VpcdClient} {tr : List VpcdEvent}
    (h : c.messageLoopBody.Yields tr (true, c')) :
    ∃ x : Exchange, x.client = c ∧ x.client' = c' ∧ x.trace = tr ∧ x.Sent := by
  rw [VpcdClient.messageLoopBody_eq] at h
  obtain ⟨reading, t₁, result, rfl, hr, h₁⟩ := yields_bind_iff.mp h
  rcases result with e | (_ | msg)
  -- after an error or the end of the stream the loop does not go on
  · obtain ⟨-, heq⟩ := yields_pure_iff.mp h₁
    cases heq
  · obtain ⟨-, heq⟩ := yields_pure_iff.mp h₁
    cases heq
  · obtain ⟨answer, handling, writing, rfl, hh, hwriting⟩ := VpcdClient.yields_respond h₁
    rcases hwriting with ⟨rfl, rfl, -⟩ | ⟨data, tr', sent, rfl, rfl, hw, hsent⟩
    · exact ⟨⟨c, msg, none, c', reading, handling, [], hr, hh, rfl⟩, rfl, rfl, rfl,
        fun data hdata => by cases hdata⟩
    · obtain rfl := hsent.mp rfl
      refine ⟨⟨c, msg, some data, c', reading, handling, ⟨sending data, ()⟩ :: tr', hr, hh,
        ⟨tr', _, rfl, hw⟩⟩, rfl, rfl, rfl, ?_⟩
      intro data' hdata
      cases hdata
      exact ⟨tr', rfl, hw⟩

/-- A round, as far as it has got, is unanswered, or an exchange. -/
theorem unanswered_or_exchange {c : VpcdClient} {tr : List VpcdEvent}
    {q : VpcdProgram (Bool × VpcdClient)} (h : Follows c.messageLoopBody tr q) :
    Unanswered c tr ∨ ∃ x : Exchange, x.client = c ∧ x.trace = tr := by
  unfold VpcdClient.messageLoopBody at h
  -- the round is cut along its sequencing: it stops in one of the parts, or is through it
  rcases follows_bind_iff.mp h with ⟨p, hp, -⟩ | ⟨reading, t₁, result, rfl, hr, h₁⟩
  · exact Or.inl (.reading hp)
  rcases result with e | (_ | msg)
  · obtain ⟨rfl, -⟩ := follows_pure_iff.mp h₁
    rw [List.append_nil]
    exact Or.inl (.reading hr)
  · obtain ⟨rfl, -⟩ := follows_pure_iff.mp h₁
    rw [List.append_nil]
    exact Or.inl (.reading hr)
  rcases follows_perform_bind_iff.mp h₁ with ⟨rfl, -⟩ | ⟨r₂, t₂, rfl, h₂⟩
  · rw [List.append_nil]
    exact Or.inl (.reading hr)
  rcases follows_bind_iff.mp h₂ with ⟨p, hp, -⟩ | ⟨handling, t₃, ⟨answer, c₁⟩, rfl, hh, h₃⟩
  · exact Or.inl (.handling hr hp)
  cases answer with
  | none =>
    obtain ⟨rfl, -⟩ := follows_pure_iff.mp h₃
    rw [List.append_nil]
    exact Or.inl (.handling hr hh)
  | some data =>
    rcases follows_perform_bind_iff.mp h₃ with ⟨rfl, -⟩ | ⟨r₄, t₄, rfl, h₄⟩
    · rw [List.append_nil]
      exact Or.inl (.handling hr hh)
    · have hw : ∃ p, Follows (sendResponse data) t₄ p := by
        rcases follows_bind_iff.mp h₄ with ⟨p, hp, -⟩ | ⟨writing, t₅, sent, rfl, hw, h₅⟩
        · exact ⟨p, hp⟩
        · have hnil : t₅ = [] := by
            rcases sent with e | ⟨⟩
            · exact (follows_pure_iff.mp h₅).1
            · exact (follows_pure_iff.mp h₅).1
          rw [hnil, List.append_nil]
          exact ⟨_, hw⟩
      obtain ⟨p, hp⟩ := hw
      exact Or.inr ⟨⟨c, msg, some data, c₁, reading, handling, ⟨sending data, ()⟩ :: t₄, hr, hh,
        ⟨t₄, p, rfl, hp⟩⟩, rfl, rfl⟩

/-- A chain of exchanges, each with the client the last one left. -/
def Chained (c : VpcdClient) : List Exchange → VpcdClient → Prop
  | [], c' => c = c'
  | x :: xs, c' => x.client = c ∧ Chained x.client' xs c'

/-- One more exchange goes on from where the last has left the client. -/
theorem Chained.snoc {c c' : VpcdClient} {xs : List Exchange} (h : Chained c xs c')
    {x : Exchange} (hx : x.client = c') : Chained c (xs ++ [x]) x.client' := by
  induction xs generalizing c with
  | nil => exact ⟨hx.trans (Eq.symm h), rfl⟩
  | cons y ys ih => exact ⟨h.1, ih h.2⟩

/-- The finished rounds of a connection are a chain of exchanges. -/
theorem exchanges_of_iterates {c c' : VpcdClient} {tr : List VpcdEvent}
    (h : Iterates VpcdClient.messageLoopBody c tr c') :
    ∃ xs : List Exchange, Chained c xs c' ∧ tr = xs.flatMap Exchange.trace ∧
      ∀ x ∈ xs, x.Sent := by
  induction h with
  | nil => exact ⟨[], rfl, rfl, by simp⟩
  | snoc _ hround ih =>
    obtain ⟨xs, hchain, rfl, hsent⟩ := ih
    obtain ⟨x, hx, rfl, rfl, hxs⟩ := exchange_of_yields hround
    refine ⟨xs ++ [x], hchain.snoc hx, by simp, ?_⟩
    simpa [or_imp, forall_and] using ⟨hsent, hxs⟩

/-- The run of the message loop on a connection: exchanges, all but the last with
their responses written, and a round not yet answered. -/
theorem exchanges_of_serves {c c' : VpcdClient} {tr : List VpcdEvent}
    {p : VpcdProgram (Bool × VpcdClient)}
    (h : Serves VpcdClient.messageLoopBody c tr c' p) :
    ∃ xs c'' tail, tr = xs.flatMap Exchange.trace ++ tail ∧ Chained c xs c'' ∧
      Unanswered c'' tail ∧ (∀ x ∈ xs.dropLast, x.Sent) ∧ (tail ≠ [] → ∀ x ∈ xs, x.Sent) := by
  obtain ⟨t₁, t₂, rfl, hit, hf⟩ := h
  obtain ⟨xs, hchain, rfl, hsent⟩ := exchanges_of_iterates hit
  rcases unanswered_or_exchange hf with hun | ⟨x, hx, rfl⟩
  · exact ⟨xs, c', t₂, rfl, hchain, hun, fun x hx => hsent x (List.mem_of_mem_dropLast hx),
      fun _ => hsent⟩
  · exact ⟨xs ++ [x], x.client', [], by simp, hchain.snoc hx, .nil _, by simpa using hsent,
      fun hne => absurd rfl hne⟩

/-! ## The response to a message -/

/-- The command a message makes of itself. -/
def VpcdMessage.command : VpcdMessage → Option Command
  | .control .getAtr => some (.getAtr ⟨⟩)
  | .control _ => none
  | .apdu data => some (.apdu ⟨data⟩)

/-- What is answered to a message when the client responds to its command. -/
def VpcdMessage.answerTo : VpcdMessage → CommandResponse → Bytes
  | .control _, response => (VpcdClient.atrResult response).getD []
  | .apdu _, response => VpcdClient.apduResult response

/-- Waiting for the channel awaits no response. -/
theorem recvResponse_not_mem_wait {c : VpcdClient} {tr : List VpcdEvent} {ready : Bool}
    (h : c.waitForCommandChannel.Yields tr ready) (rx : ℕ)
    (a : Except RecvFailure CommandResponse) : (⟨recvResponse rx, a⟩ : VpcdEvent) ∉ tr :=
  fun hmem => (c.uses_waitForCommandChannel.follows h).1 _ hmem

/-- The runs of `ask`: a failure along the way, or the response to the command
just sent. -/
theorem yields_ask {Alpha : Type} {c : VpcdClient} {sid readerName : String}
    {command : Command} {d out : Alpha} {k : CommandResponse → VpcdProgram Alpha}
    {tr : List VpcdEvent} (h : (c.ask sid readerName command d k).Yields tr out) :
    (out = d ∧ ∀ rx r, (⟨recvResponse rx, .ok r⟩ : VpcdEvent) ∉ tr) ∨
      ∃ t₁ t₂ rx r, c.waitForCommandChannel.Yields t₁ true ∧ (k r).Yields t₂ out ∧
        tr = t₁ ++ ⟨sendCommand sid command readerName, some (.ok rx)⟩ ::
          ⟨recvResponse rx, .ok r⟩ :: t₂ := by
  unfold VpcdClient.ask at h
  obtain ⟨t₁, t₂, ready, rfl, hw, h₂⟩ := yields_bind_iff.mp h
  have hwait := fun rx r => recvResponse_not_mem_wait hw rx (.ok r)
  cases ready with
  | false =>
    obtain ⟨rfl, rfl⟩ := yields_pure_iff.mp h₂
    exact Or.inl ⟨rfl, by simpa using hwait⟩
  | true =>
    obtain ⟨sent, t₃, rfl, h₃⟩ := yields_perform_bind_iff.mp h₂
    rcases sent with _ | _ | rx
    · obtain ⟨rfl, rfl⟩ := yields_pure_iff.mp h₃
      exact Or.inl ⟨rfl, by simpa using hwait⟩
    · obtain ⟨rfl, rfl⟩ := yields_pure_iff.mp h₃
      exact Or.inl ⟨rfl, by simpa using hwait⟩
    · obtain ⟨a, t₄, rfl, h₄⟩ := yields_perform_bind_iff.mp h₃
      rcases a with (_ | _) | r
      · obtain ⟨rfl, rfl⟩ := yields_pure_iff.mp h₄
        exact Or.inl ⟨rfl, by simpa using hwait⟩
      · obtain ⟨rfl, rfl⟩ := yields_pure_iff.mp h₄
        exact Or.inl ⟨rfl, by simpa using hwait⟩
      · exact Or.inr ⟨t₁, t₄, rx, r, hw, h₄, rfl⟩

/-- A response that occurs in a run of `ask` is that to its own command. -/
theorem ask_response {Alpha : Type} {c : VpcdClient} {sid readerName : String}
    {command : Command} {d out : Alpha} {g : CommandResponse → Alpha}
    {k : CommandResponse → VpcdProgram Alpha} (hk : ∀ r, k r = pure (g r)) {tr : List VpcdEvent}
    (h : (c.ask sid readerName command d k).Yields tr out) {rx : ℕ} {r : CommandResponse}
    (hmem : (⟨recvResponse rx, .ok r⟩ : VpcdEvent) ∈ tr) :
    (⟨sendCommand sid command readerName, some (.ok rx)⟩ : VpcdEvent) ∈ tr ∧ out = g r := by
  rcases yields_ask h with ⟨-, hnot⟩ | ⟨t₁, t₂, rx', r', hw, hout, rfl⟩
  · exact absurd hmem (hnot rx r)
  · rw [hk] at hout
    obtain ⟨rfl, rfl⟩ := yields_pure_iff.mp hout
    simp only [List.mem_append, recvResponse_not_mem_wait hw rx (.ok r), List.mem_cons,
      List.not_mem_nil, or_false, false_or] at hmem
    rcases hmem with hmem | hmem
    · cases hmem
    · cases hmem
      exact ⟨by simp, rfl⟩

/-- A response that `forward_apdu` gets is that to its own APDU. -/
theorem forwardApdu_response {c : VpcdClient} {apdu out : Bytes} {tr : List VpcdEvent}
    (h : (c.forwardApdu apdu).Yields tr out) {rx : ℕ} {r : CommandResponse}
    (hmem : (⟨recvResponse rx, .ok r⟩ : VpcdEvent) ∈ tr) :
    ∃ sid readerName, c.sessionId = some sid ∧ c.readerName = some readerName ∧
      (⟨sendCommand sid (.apdu ⟨apdu⟩) readerName, some (.ok rx)⟩ : VpcdEvent) ∈ tr ∧
      out = VpcdClient.apduResult r := by
  rw [VpcdClient.forwardApdu_eq] at h
  split at h
  · rename_i sid readerName hsid hreader
    obtain ⟨hsend, hout⟩ := ask_response (fun _ => rfl) h hmem
    exact ⟨sid, readerName, hsid, hreader, hsend, hout⟩
  · obtain ⟨rfl, -⟩ := yields_pure_iff.mp h
    cases hmem

/-- Without a response `forward_apdu` returns 6F00. -/
theorem forwardApdu_failure {c : VpcdClient} {apdu out : Bytes} {tr : List VpcdEvent}
    (h : (c.forwardApdu apdu).Yields tr out)
    (hnone : ∀ rx r, (⟨recvResponse rx, .ok r⟩ : VpcdEvent) ∉ tr) :
    out = VpcdClient.noPreciseDiagnosis := by
  rw [VpcdClient.forwardApdu_eq] at h
  split at h
  · rcases yields_ask h with ⟨hout, -⟩ | ⟨t₁, t₂, rx, r, -, -, rfl⟩
    · exact hout
    · exact absurd (by simp) (hnone rx r)
  · exact (yields_pure_iff.mp h).2

/-- A response that `get_atr_from_client` gets is that to its own command. -/
theorem getAtrFromClient_response {c c' : VpcdClient} {out : Bytes} {tr : List VpcdEvent}
    (h : c.getAtrFromClient.Yields tr (out, c')) {rx : ℕ} {r : CommandResponse}
    (hmem : (⟨recvResponse rx, .ok r⟩ : VpcdEvent) ∈ tr) :
    ∃ sid readerName, c.sessionId = some sid ∧ c.readerName = some readerName ∧
      (⟨sendCommand sid (.getAtr ⟨⟩) readerName, some (.ok rx)⟩ : VpcdEvent) ∈ tr ∧
      out = (VpcdClient.atrResult r).getD [] := by
  rw [VpcdClient.getAtrFromClient_eq] at h
  split at h
  · rename_i sid readerName hsid hreader
    obtain ⟨session, t₁, rfl, h₁⟩ := yields_perform_bind_iff.mp h
    rw [List.mem_cons] at hmem
    rcases hmem with hmem | hmem
    · cases hmem
    -- a stored ATR is answered without a command
    split at h₁
    · obtain ⟨rfl, -⟩ := yields_pure_iff.mp h₁
      cases hmem
    · obtain ⟨hsend, hout⟩ := ask_response (g := fun r => match VpcdClient.atrResult r with
        | some atr => (atr, { c with atr := atr })
        | none => ([], c)) (fun r => by split <;> rfl) h₁ hmem
      refine ⟨sid, readerName, hsid, hreader, List.mem_cons_of_mem _ hsend, ?_⟩
      cases hatr : VpcdClient.atrResult r with
      | none =>
        rw [hatr] at hout
        exact congrArg Prod.fst hout
      | some atr =>
        rw [hatr] at hout
        exact congrArg Prod.fst hout
  · obtain ⟨rfl, -⟩ := yields_pure_iff.mp h
    cases hmem

/-- **The response that an exchange uses** is that to the command of its own
message, sent in the same exchange, and it determines the answer. -/
theorem Exchange.response {x : Exchange} {rx : ℕ} {r : CommandResponse}
    (hmem : (⟨recvResponse rx, .ok r⟩ : VpcdEvent) ∈ x.handling) :
    ∃ sid readerName command, x.client.sessionId = some sid ∧
      x.client.readerName = some readerName ∧ x.msg.command = some command ∧
      (⟨sendCommand sid command readerName, some (.ok rx)⟩ : VpcdEvent) ∈ x.handling ∧
      x.answer = some (x.msg.answerTo r) := by
  have hh := x.handles
  cases hmsg : x.msg with
  | control cmd =>
    rw [hmsg] at hh
    cases cmd with
    | powerOff | powerOn | reset =>
      rw [(yields_pure_iff.mp hh).1] at hmem
      cases hmem
    | getAtr =>
      obtain ⟨t₁, t₂, ⟨out, c₁⟩, htr, h₁, h₂⟩ := yields_bind_iff.mp hh
      obtain ⟨rfl, heq⟩ := yields_pure_iff.mp h₂
      rw [List.append_nil] at htr
      rw [htr] at hmem ⊢
      obtain ⟨sid, readerName, hsid, hreader, hsend, rfl⟩ := getAtrFromClient_response h₁ hmem
      exact ⟨sid, readerName, _, hsid, hreader, rfl, hsend, congrArg Prod.fst heq⟩
  | apdu data =>
    rw [hmsg] at hh
    obtain ⟨t₁, t₂, out, htr, h₁, h₂⟩ := yields_bind_iff.mp hh
    obtain ⟨rfl, heq⟩ := yields_pure_iff.mp h₂
    rw [List.append_nil] at htr
    rw [htr] at hmem ⊢
    obtain ⟨sid, readerName, hsid, hreader, hsend, rfl⟩ := forwardApdu_response h₁ hmem
    exact ⟨sid, readerName, _, hsid, hreader, rfl, hsend, congrArg Prod.fst heq⟩

end RemoteSmartcard
