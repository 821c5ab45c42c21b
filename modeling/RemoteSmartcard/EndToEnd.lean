/-
# An APDU from vpcd to the card and back

Client and server composed.  The request that `forward_apdu` queues for a
client carries the APDU and the reader unchanged; a client that carries it out
transmits exactly this APDU on this reader; and its response, when it is handled
while the command is still pending, makes `forward_apdu` return the card's
answer, or 6F00 when there is none of at least two bytes.

* `apduResult_apduOutcome` — splitting into data, SW1 and SW2 as `uint32`, and
  joining, is the identity;
* `Queued` — the queues hold requests of waiters only;
* `forwardApdu_transparent` — the theorem on the composition, over any run.
-/
import RemoteSmartcard.GrpcClient
import RemoteSmartcard.Receivers

namespace RemoteSmartcard

open VpcdOp
open Program hiding pure

/-! ## The two ends of the answer -/

/-- What `forward_apdu` is to return for an outcome of `transmit_apdu`: the
response of the card if it has its two status bytes, else 6F00. -/
def forwardResult : Except ClientError Bytes → Bytes
  | .ok response => if 2 ≤ response.length then response else VpcdClient.noPreciseDiagnosis
  | .error _ => VpcdClient.noPreciseDiagnosis

/-- A list of at least two elements is what comes before the last two, and these. -/
theorem take_append_last_two {Alpha : Type*} {l : List Alpha} (h : 2 ≤ l.length) :
    l.take (l.length - 2) ++
      [l.get ⟨l.length - 2, by omega⟩, l.get ⟨l.length - 1, by omega⟩] = l := by
  have hdrop : l.drop (l.length - 2) =
      [l.get ⟨l.length - 2, by omega⟩, l.get ⟨l.length - 1, by omega⟩] := by
    rw [List.drop_eq_getElem_cons (by omega), List.drop_eq_getElem_cons (by omega),
      List.drop_of_length_le (by omega)]
    simp only [List.get_eq_getElem]
    congr 3
    omega
  rw [← hdrop, List.take_append_drop]

/-- **The split and the join.**  The response the client makes of an outcome is
read back by the server as the result for that outcome. -/
theorem apduResult_apduOutcome (sessionId : String) (request : CommandRequest)
    (outcome : Except ClientError Bytes) :
    VpcdClient.apduResult
        (GrpcClient.responseTo sessionId request (GrpcClient.apduOutcome outcome)) =
      forwardResult outcome := by
  match outcome with
  | .error e => rfl
  | .ok response =>
    unfold GrpcClient.apduOutcome forwardResult
    dsimp only
    by_cases h : 2 ≤ response.length
    · rw [dif_pos h, if_pos h]
      show response.take _ ++ [UInt32.toUInt8 (UInt8.toUInt32 _), UInt32.toUInt8 (UInt8.toUInt32 _)]
        = response
      rw [UInt8.toUInt8_toUInt32, UInt8.toUInt8_toUInt32, take_append_last_two h]
    · rw [dif_neg h, if_neg h]
      rfl

/-! ## The stages of the call -/

/-- `forward_apdu` from the wait for the response on. -/
def awaitApdu (rx : ℕ) : VpcdProgram Bytes := do
  match ← doRecvResponse rx with
  | .ok response => pure (VpcdClient.apduResult response)
  | .error .closed => pure VpcdClient.noPreciseDiagnosis
  | .error .elapsed => pure VpcdClient.noPreciseDiagnosis

/-- `forward_apdu` from the sending of the command on. -/
def sendApdu (sid readerName : String) (apdu : Bytes) : VpcdProgram Bytes := do
  match ← doSendCommand sid (.apdu ⟨apdu⟩) readerName with
  | none => pure VpcdClient.noPreciseDiagnosis
  | some (.error _) => pure VpcdClient.noPreciseDiagnosis
  | some (.ok rx) => awaitApdu rx

/-- With a target `forward_apdu` waits for the command channel and sends the APDU. -/
theorem forwardApdu_eq_sendApdu {c : VpcdClient} {sid readerName : String}
    (hsid : c.sessionId = some sid) (hreader : c.readerName = some readerName) (apdu : Bytes) :
    c.forwardApdu apdu = c.waitForCommandChannel.bind fun ready =>
      if !ready then pure VpcdClient.noPreciseDiagnosis else sendApdu sid readerName apdu := by
  simp only [VpcdClient.forwardApdu, hsid, hreader]
  rfl

/-- What comes after `handle_message` in the message loop: a response is handed to
`send_response`. -/
def handOver (handled : Option Bytes × VpcdClient) : VpcdProgram (Bool × VpcdClient) :=
  match handled.1 with
  | some response => do
    doSending response
    match ← sendResponse response with
    | .error _ => pure (false, handled.2)
    | .ok () => pure (true, handled.2)
  | none => pure (true, handled.2)

/-- What comes after `forward_apdu` in the message loop. -/
def afterApdu (c : VpcdClient) (response : Bytes) : VpcdProgram (Bool × VpcdClient) :=
  handOver (some response, c)

namespace Server

/-- The vpcd task `i` has `p` before it on its connection. -/
def At (s : Server) (i : ℕ) (p : VpcdProgram (Bool × VpcdClient)) : Prop :=
  ∃ t stream, s.tasks[i]? = some t ∧ t.phase = .connected stream p

/-- The vpcd task `i` is in a call of `forward_apdu` with this APDU for this
session and reader, and is about to send the command; `k` is what comes after
the call. -/
def Sending (s : Server) (i : ℕ) (sid readerName : String) (apdu : Bytes)
    (k : Bytes → VpcdProgram (Bool × VpcdClient)) : Prop :=
  s.At i ((sendApdu sid readerName apdu).bind k)

/-- The same call, when the command has been sent and its response is awaited
from the receiver `rx`. -/
def Forwarding (s : Server) (i : ℕ) (sid readerName : String) (apdu : Bytes)
    (k : Bytes → VpcdProgram (Bool × VpcdClient)) (rx : ℕ) : Prop :=
  ∃ t stream, s.tasks[i]? = some t ∧ t.phase = .connected stream ((awaitApdu rx).bind k) ∧
    ⟨i, t.connections, ⟨.sendCommand sid (.apdu ⟨apdu⟩) readerName, some (.ok rx)⟩⟩ ∈ s.log

/-- The actions of a run that are not steps of the vpcd task `i`. -/
def Rests (i : ℕ) (as : List Action) : Prop := ∀ a ∈ as, ∀ outcome, a ≠ .taskRun i outcome

/-- Only its own steps move a task on its connection. -/
theorem Effect.task_of_ne {s s' : Server} {a : Action} (h : Effect s a s') {i : ℕ}
    {t : VpcdTask} {stream : TcpStream} {p : VpcdProgram (Bool × VpcdClient)}
    (ht : s.tasks[i]? = some t) (hp : t.phase = .connected stream p)
    (ha : ∀ outcome, a ≠ .taskRun i outcome) : s'.tasks[i]? = some t := by
  -- a task that is not on a connection is another one
  have hset : ∀ {j : ℕ} {t' t'' : VpcdTask}, s.tasks[j]? = some t' →
      (∀ stream p, t'.phase ≠ .connected stream p) →
      (s.tasks.set j t'')[i]? = some t := by
    intro j t' t'' hj hphase
    have hne : j ≠ i := by
      rintro rfl
      obtain rfl : t = t' := Option.some.inj (ht.symm.trans hj)
      exact hphase stream p hp
    rw [List.getElem?_set_ne hne, ht]
  have hrun : ∀ {j : ℕ} {outcome : Outcome} (t'' : VpcdTask), a = .taskRun j outcome →
      (s.tasks.set j t'')[i]? = some t := by
    intro j outcome t'' haj
    have hne : j ≠ i := by
      rintro rfl
      exact ha outcome haj
    rw [List.getElem?_set_ne hne, ht]
  cases h with
  | spawn _ =>
    show (s.tasks ++ _)[i]? = some t
    rw [List.getElem?_append_left (List.getElem?_eq_some_iff.mp ht).1, ht]
  | connected hj hphase => exact hset hj (by simp [hphase])
  | refused hj hphase => exact hset hj (by simp [hphase])
  | wake hj hphase => exact hset hj (by simp [hphase])
  | turn _ _ => exact hrun _ rfl
  | disconnected _ _ => exact hrun _ rfl
  | suspend _ _ hperform =>
    obtain ⟨shared, streams, lock, rfl, -, -⟩ := perform_frame hperform
    exact ht
  | answer _ _ hperform =>
    obtain ⟨shared, streams, lock, rfl, -, -⟩ := perform_frame hperform
    exact hrun _ rfl
  | _ => exact ht

/-- Along a run without steps of the task it stays where it is. -/
theorem task_of_rests {svc : SmartcardService} {s s' : Server} {as : List Action}
    (h : StepRun.run (step svc) s as = some s') {i : ℕ} {t : VpcdTask} {stream : TcpStream}
    {p : VpcdProgram (Bool × VpcdClient)} (ht : s.tasks[i]? = some t)
    (hp : t.phase = .connected stream p) (hrests : Rests i as) : s'.tasks[i]? = some t := by
  induction as generalizing s with
  | nil =>
    obtain rfl := Option.some.inj h
    exact ht
  | cons a as ih =>
    rw [StepRun.run_cons, Option.bind_eq_some_iff] at h
    obtain ⟨s₁, hstep, h⟩ := h
    have ha : ∀ outcome, a ≠ .taskRun i outcome := hrests a (List.mem_cons_self ..)
    exact ih h ((step_effect hstep).task_of_ne ht hp ha)
      fun b hb => hrests b (List.mem_cons_of_mem _ hb)

/-! ## The queues towards the clients -/

/-- `request` is the request of a waiter whose command went to the stream `j`. -/
def Issues (t : Shared) (j : ℕ) (request : CommandRequest) : Prop :=
  ∃ (rx : ℕ) (w : Waiter), t.waiters[rx]? = some w ∧ w.request = request ∧ w.stream = j

/-- The queues hold requests of waiters only. -/
def Queued (s : Server) : Prop :=
  ∀ j st request, s.streams[j]? = some st → request ∈ st.queue.queue →
    Issues s.shared j request

/-- A request stays the one of the waiter it was issued for. -/
theorem Issues.later {t t' : Shared} (hl : t.Later t') {j : ℕ} {request : CommandRequest}
    (h : Issues t j request) : Issues t' j request := by
  obtain ⟨rx, w, hw, hrequest, hstream⟩ := h
  obtain ⟨w', hw', hlater⟩ := hl.waiters rx w hw
  exact ⟨rx, w', hw', hlater.request.trans hrequest, hlater.stream.trans hstream⟩

/-- The queues after a change of one stream whose queue has got no longer. -/
theorem queued_set {s : Server} (h : s.Queued) {t' : Shared} (hl : s.shared.Later t') {i : ℕ}
    {st st' : CommandStream} (hi : s.streams[i]? = some st)
    (hsub : ∀ r ∈ st'.queue.queue, r ∈ st.queue.queue) {j : ℕ} {stj : CommandStream}
    {request : CommandRequest} (hj : (s.streams.set i st')[j]? = some stj)
    (hr : request ∈ stj.queue.queue) : Issues t' j request := by
  rw [List.getElem?_set] at hj
  split_ifs at hj with hij hlt
  · subst hij
    obtain rfl := Option.some.inj hj
    exact (h i st request hi (hsub request hr)).later hl
  · exact (h j stj request hj hr).later hl

/-- Handing over the request of a waiter keeps the queues in order. -/
theorem Handed.queued {s s' : Server} (h : s.Queued) (hc : s.shared.Consistent)
    {b : BlockedSend} (hb : Issues s.shared b.stream b.request)
    {answer : Option (Option (Except String ℕ))} (hhanded : Handed s b answer s') :
    s'.Queued := by
  cases hhanded with
  | closed hst hclosed =>
    intro j stj request hj hr
    exact (h j stj request hj hr).later ((Shared.Traffic.dropReceiver s.shared b.rx).later hc)
  | full hst halive hfull => exact h
  | sent hst hsend =>
    intro j stj request hj hr
    rw [List.getElem?_set] at hj
    split_ifs at hj with hij hlt
    · subst hij
      obtain rfl := Option.some.inj hj
      obtain ⟨-, hqueue, -, -⟩ := Mpsc.send_eq_sent hsend
      rw [hqueue, List.mem_append, List.mem_singleton] at hr
      rcases hr with hr | rfl
      · exact h _ _ request hst hr
      · exact hb
    · exact h j stj request hj hr

/-- The request a task hands over, newly issued or left over from its
suspension, is that of a waiter. -/
theorem perform_queued {s s' : Server} (h : s.Queued) (hs : s.Sound) {i : ℕ}
    {stream stream' : TcpStream} {outcome : Outcome} {o : VpcdOp} {answer : Option (VpcdRet o)}
    (hperform : s.perform i stream outcome o = some (answer, stream', s')) : s'.Queued := by
  cases perform_performed hperform with
  | response | released | elapsed =>
    intro j st request hj hr
    exact (h j st request hj hr).later
      ((Shared.Traffic.dropReceiver s.shared _).later hs.consistent)
  | @resumed _ _ _ b _ _ hlock htask hhanded =>
    -- the request the task was suspended with
    obtain ⟨t, _, _, _, _, _, -, -, w, hw, -, hrequest, hstream, -⟩ := hs.lock b hlock
    exact hhanded.queued h hs.consistent ⟨b.rx, w, hw, hrequest, hstream⟩
  | @issued _ _ _ issued _ _ hlock hissue hhanded =>
    have htraffic := Shared.Traffic.issue hissue
    obtain ⟨w, hw, -, hrequest, hstream, -⟩ := Shared.prepared_issue hissue i
    have hissued : ({ s with shared := issued.shared } : Server).Queued :=
      fun j st request hj hr => (h j st request hj hr).later (htraffic.later hs.consistent)
    exact hhanded.queued hissued (htraffic.consistent hs.consistent)
      ⟨issued.rx, w, hw, hrequest, hstream⟩
  | _ => exact h

/-- **Each step** keeps the requests in the queues with their waiters. -/
theorem Effect.queued {s s' : Server} {a : Action} (h : Effect s a s') (hs : s.Sound)
    (hq : s.Queued) : s'.Queued := by
  have hl := (h.consistent hs).2
  cases h with
  | service _ _ => exact fun j st request hj hr => (hq j st request hj hr).later hl
  | establish _ => exact fun j st request hj hr => (hq j st request hj hr).later hl
  | remove => exact fun j st request hj hr => (hq j st request hj hr).later hl
  | newStream =>
    intro j st request hj hr
    change (s.streams ++ [_])[j]? = some st at hj
    rw [StepRun.getElem?_concat] at hj
    split_ifs at hj
    · -- nothing is queued on a new stream
      cases hj
      simp [Mpsc.new] at hr
    · exact (hq j st request hj hr).later hl
  | @item i st item hi _ =>
    have hqueue : (streamNext st item).queue = st.queue := by
      unfold streamNext
      split
      · split <;> rfl
      · rfl
      · rfl
    exact fun j stj request hj hr => queued_set hq hl hi (by simp [hqueue]) hj hr
  | @take i st request queue hi hrecv =>
    have hsub : ∀ r ∈ queue.queue, r ∈ st.queue.queue := by
      rw [(Mpsc.recv_eq_some hrecv).1]
      exact fun r hr => List.mem_cons_of_mem _ hr
    exact fun j stj request' hj hr => queued_set hq hl hi hsub hj hr
  | close hi => exact fun j stj request hj hr => queued_set hq hl hi (by simp [Mpsc.close]) hj hr
  | register hi _ _ => exact fun j stj request hj hr => queued_set hq hl hi (by simp) hj hr
  | unknown hi _ _ => exact fun j stj request hj hr => queued_set hq hl hi (by simp) hj hr
  | respond hi _ _ => exact fun j stj request hj hr => queued_set hq hl hi (by simp) hj hr
  | cleanup hi _ _ _ => exact fun j stj request hj hr => queued_set hq hl hi (by simp) hj hr
  | unbound hi _ _ => exact fun j stj request hj hr => queued_set hq hl hi (by simp) hj hr
  | suspend _ _ hperform => exact perform_queued hq hs hperform
  | answer _ _ hperform =>
    have hqueued := perform_queued hq hs hperform
    exact fun j st request hj hr => hqueued j st request hj hr
  | spawn _ | connected _ _ | refused _ _ | wake _ _ | turn _ _ | disconnected _ _ => exact hq

/-- In every reachable state a request in a queue is that of a waiter. -/
theorem Reachable.queued {svc : SmartcardService} {s : Server} (h : s.Reachable svc) :
    s.Queued := by
  have hinit : init.Sound ∧ init.Queued :=
    ⟨sound_init, fun j st request hj _ => by simp [init] at hj⟩
  exact (StepRun.invariant_reaches (P := fun s => s.Sound ∧ s.Queued)
    (fun _ _ _ hP hstep =>
      ⟨(step_effect hstep).sound hP.1, (step_effect hstep).queued hP.1 hP.2⟩) hinit h).2

/-! ## The response on its way back -/

/-- The server handles the response for the session `sid`: it came in by
`send_command_response`, or on a stream bound to the session. -/
inductive Handles (svc : SmartcardService) (s : Server) (sid : String)
    (response : CommandResponse) (s' : Server) : Prop
  | rpc (hid : response.commandId ≠ 0) (hsid : response.sessionId = sid)
      (h : step svc s (.sendCommandResponse response) = some s')
  | stream {j : ℕ} {st : CommandStream} (hj : s.streams[j]? = some st)
      (hp : st.phase = .responding response) (hsid : st.sessionId = some sid)
      (h : step svc s (.streamTurn j) = some s')

/-- A response that is handled goes to its session, and the tasks stay. -/
theorem Handles.shared {svc : SmartcardService} {s s' : Server} {sid : String}
    {response : CommandResponse} (h : Handles svc s sid response s') :
    s'.shared = (s.shared.handleResponse sid response).2 ∧ s'.tasks = s.tasks := by
  cases h with
  | rpc hid hsid h =>
    simp only [step, hid, if_false] at h
    obtain ⟨-, rfl⟩ := locked_eq_some h
    rw [sendCommandResponse_snd s hid, hsid]
    exact ⟨rfl, rfl⟩
  | stream hj hp hsid h =>
    simp only [step, hj, streamTurn, hp, hsid] at h
    split at h
    · cases h
    · obtain rfl := Option.some.inj h
      exact ⟨rfl, rfl⟩

/-- Handling it is a step of the server. -/
theorem Handles.step {svc : SmartcardService} {s s' : Server} {sid : String}
    {response : CommandResponse} (h : Handles svc s sid response s') :
    ∃ a, Server.step svc s a = some s' := by
  cases h with
  | rpc _ _ h => exact ⟨_, h⟩
  | stream _ _ _ h => exact ⟨_, h⟩

/-- A response to a command that is still pending gets to the waiter. -/
theorem sent_of_handleResponse {t : Shared} (hc : t.Consistent) {rx : ℕ} {w : Waiter}
    (hw : t.waiters[rx]? = some w) (hheld : w.oneshot.sender = .held)
    (halive : w.oneshot.receiverAlive = true) {response : CommandResponse}
    (hid : response.commandId = w.request.commandId) :
    ∃ w', (t.handleResponse w.sessionId response).2.waiters[rx]? = some w' ∧
      w'.oneshot.sender = .sent response := by
  obtain ⟨session, channel, hs, hch, hst, hlookup⟩ := hc.stored rx w hw hheld
  rw [← hid] at hlookup
  refine ⟨w.mapOneshot fun o => (o.send response).2, ?_, ?_⟩
  · have heq : t.handleResponse w.sessionId response = (some (.ok ()),
        ⟨t.sessions.putSession w.sessionId { session with commandChannel := some { channel with
            pending := channel.pending.erase response.commandId } },
          t.commandIdCounter,
          t.waiters.modify rx (Waiter.mapOneshot fun o => (o.send response).2),
          (w.sessionId, response) :: t.handled⟩) := by
      unfold Shared.handleResponse Session.handleResponse
      simp only [hs, hch, hlookup]
    rw [heq]
    show (t.waiters.modify rx _)[rx]? = _
    rw [getElem?_modifyOneshot, hw, if_pos rfl]
    rfl
  · show (w.oneshot.send response).2.sender = .sent response
    unfold Oneshot.send
    rw [if_pos halive]

/-- A task that awaits a receiver in which there is a response can take its next step, and
goes on with it. -/
theorem step_recvResponse (svc : SmartcardService) {s : Server} {i : ℕ} {t : VpcdTask}
    {stream : TcpStream} {rx : ℕ} {w : Waiter} {response : CommandResponse}
    {k : VpcdRet (.recvResponse rx) → VpcdProgram (Bool × VpcdClient)}
    (ht : s.tasks[i]? = some t) (hp : t.phase = .connected stream (.op (.recvResponse rx) k))
    (hw : s.shared.waiters[rx]? = some w) (halive : w.oneshot.receiverAlive = true)
    (hsent : w.oneshot.sender = .sent response) :
    (∃ s', step svc s (.taskRun i .proceed) = some s') ∧
      ∀ outcome s', step svc s (.taskRun i outcome) = some s' → s'.At i (k (.ok response)) := by
  have hpoll : w.oneshot.poll = some (.ok response) := by
    unfold Oneshot.poll
    rw [hsent]
  constructor
  · simp only [step, ht, taskRun, hp, perform, recvResponse, hw, hpoll, halive, if_true,
      Option.map_some, Option.some.injEq, exists_eq']
  · intro outcome s' h
    simp only [step, ht, taskRun, hp, perform, recvResponse, hw, hpoll, halive, if_true] at h
    cases outcome with
    | fail text => simp at h
    | proceed =>
      simp only [Option.map_some, Option.some.injEq] at h
      subst h
      refine ⟨{ t with phase := .connected stream (k (.ok response)) }, stream, ?_, rfl⟩
      exact List.getElem?_set_self (List.getElem?_eq_some_iff.mp ht).1

/-- The receiver that a task awaits is there. -/
theorem Reachable.alive_of_awaited {svc : SmartcardService} {s : Server} (hs : s.Reachable svc)
    {i : ℕ} {t : VpcdTask} {stream : TcpStream} {rx : ℕ}
    {k : VpcdRet (.recvResponse rx) → VpcdProgram (Bool × VpcdClient)}
    (ht : s.tasks[i]? = some t) (hp : t.phase = .connected stream (.op (.recvResponse rx) k))
    {w : Waiter} (hw : s.shared.waiters[rx]? = some w) : w.oneshot.receiverAlive = true := by
  have hawaiting : t.awaiting = some rx := by
    rw [VpcdTask.awaiting_connected hp]
    rfl
  have hmem : rx ∈ s.waiting := List.mem_append_left _
    (List.mem_filterMap.mpr ⟨t, List.mem_of_getElem? ht, hawaiting⟩)
  obtain ⟨w', hw', halive⟩ := (hs.attended.alive rx).mp hmem
  rwa [Option.some.inj (hw.symm.trans hw')]

/-- **The response on its way back.**  The response to a pending command, when it is handled,
is there for the call of `forward_apdu`, which can take its next step whatever has happened
until then, and with this step has returned it. -/
theorem returns_of_handles {svc : SmartcardService} {s s₁ s₂ : Server}
    (hs : s.Reachable svc) {i rx : ℕ} {t : VpcdTask} {stream : TcpStream} {w : Waiter}
    {k : Bytes → VpcdProgram (Bool × VpcdClient)} {outcome : Except ClientError Bytes}
    {as : List Action} (ht : s.tasks[i]? = some t)
    (hp : t.phase = .connected stream ((awaitApdu rx).bind k))
    (hw : s.shared.waiters[rx]? = some w) (hheld : w.oneshot.sender = .held)
    (hhandles : Handles svc s w.sessionId (GrpcClient.responseTo w.sessionId w.request
      (GrpcClient.apduOutcome outcome)) s₁)
    (hrun : StepRun.run (step svc) s₁ as = some s₂) (hrests : Rests i as) :
    (∃ s₃, step svc s₂ (.taskRun i .proceed) = some s₃) ∧
      ∀ a s₃, step svc s₂ (.taskRun i a) = some s₃ → s₃.At i (k (forwardResult outcome)) := by
  obtain ⟨hshared, htasks⟩ := hhandles.shared
  obtain ⟨b, hb⟩ := hhandles.step
  have hs₁ : s₁.Reachable svc := hs.snoc hb
  have hs₂ : s₂.Reachable svc := hs₁.trans ⟨as, hrun⟩
  have hlater : s₁.shared.Later s₂.shared := hs₁.sound.later_of_reaches ⟨as, hrun⟩
  have ht₂ : s₂.tasks[i]? = some t := task_of_rests hrun (by rw [htasks, ht]) hp hrests
  unfold awaitApdu at hp
  rw [monad_bind, perform_bind, op_bind] at hp
  have hid : (GrpcClient.responseTo w.sessionId w.request
      (GrpcClient.apduOutcome outcome)).commandId = w.request.commandId := rfl
  obtain ⟨w₁, hw₁, hsent⟩ :=
    sent_of_handleResponse hs.sound.consistent hw hheld (hs.alive_of_awaited ht hp hw) hid
  rw [← hshared] at hw₁
  obtain ⟨w₂, hw₂, hl⟩ := hlater.waiters rx w₁ hw₁
  have hsent₂ : w₂.oneshot.sender = .sent (GrpcClient.responseTo w.sessionId w.request
      (GrpcClient.apduOutcome outcome)) := (hl.sender (by simp [hsent])).trans hsent
  have hstep := step_recvResponse svc ht₂ hp hw₂ (hs₂.alive_of_awaited ht₂ hp hw₂) hsent₂
  rw [← apduResult_apduOutcome w.sessionId w.request]
  exact hstep

/-! ## The call up to the wait -/

/-- With a command channel the wait is over at the first look. -/
theorem poll_of_connected (sid : String) (n : ℕ) {session : Session}
    (h : session.commandChannel.isSome) :
    ∃ look : VpcdRet (.getSession sid) → VpcdProgram Bool,
      VpcdClient.pollCommandChannel sid (n + 1) = .op (.getSession sid) look ∧
      look (some session) = Program.pure true :=
  ⟨_, rfl, by simp [h]⟩

/-- With the command channel connected, the first look at the session is enough. -/
theorem sending_of_connected {svc : SmartcardService} {s s' : Server} {i : ℕ} {c : VpcdClient}
    {apdu : Bytes} {sid readerName : String} {k : Bytes → VpcdProgram (Bool × VpcdClient)}
    {outcome : Outcome} (hsid : c.sessionId = some sid) (hreader : c.readerName = some readerName)
    (hcall : s.At i ((c.forwardApdu apdu).bind k)) (hconnected : (s.shared.channelOf sid).isSome)
    (h : step svc s (.taskRun i outcome) = some s') : s'.Sending i sid readerName apdu k := by
  obtain ⟨t, stream, ht, hp⟩ := hcall
  obtain ⟨session, hsession, hchannel⟩ : ∃ session,
      s.shared.getSession sid = some session ∧ session.commandChannel.isSome := by
    obtain ⟨j, hj⟩ := Option.isSome_iff_exists.mp hconnected
    obtain ⟨session, hs, hmap⟩ := Option.bind_eq_some_iff.mp hj
    exact ⟨session, hs, by simpa using Option.isSome_iff_exists.mpr ⟨j, hmap⟩⟩
  obtain ⟨look, hlook, hready⟩ := poll_of_connected sid 299 hchannel
  have hwait : c.waitForCommandChannel = .op (.getSession sid) look := by
    rw [← hlook]
    simp only [VpcdClient.waitForCommandChannel, hsid, hreader]
  rw [forwardApdu_eq_sendApdu hsid hreader, hwait, op_bind, op_bind] at hp
  simp only [step, ht, taskRun, hp, perform] at h
  split_ifs at h
  simp only [Option.some.injEq] at h
  subst h
  refine ⟨_, stream, List.getElem?_set_self (List.getElem?_eq_some_iff.mp ht).1, ?_⟩
  rw [hsession, hready]
  rfl

/-- A request that has been handed over is in the queue. -/
theorem Handed.mem_queue {s s' : Server} {b : BlockedSend} {rx : ℕ}
    (h : Handed s b (some (some (.ok rx))) s') :
    rx = b.rx ∧ s'.shared = s.shared ∧
      ∃ st, s'.streams[b.stream]? = some st ∧ b.request ∈ st.queue.queue := by
  cases h with
  | @sent st queue hst hsend =>
    refine ⟨rfl, rfl, { st with queue := queue }, ?_, ?_⟩
    · exact List.getElem?_set_self (List.getElem?_eq_some_iff.mp hst).1
    · show b.request ∈ queue.queue
      rw [(Mpsc.send_eq_sent hsend).2.1]
      simp

/-- The request of a command that has been sent is in a queue: the task had just
prepared it, or had been suspended with it. -/
theorem queued_of_perform {s s' : Server} (hs : s.Sound) {i : ℕ} {t : VpcdTask}
    {stream stream₀ stream' : TcpStream} {outcome : Outcome} {sid readerName : String}
    {command : Command} {k : VpcdRet (.sendCommand sid command readerName) →
      VpcdProgram (Bool × VpcdClient)} {rx : ℕ} (ht : s.tasks[i]? = some t)
    (hp : t.phase = .connected stream₀ (.op (.sendCommand sid command readerName) k))
    (h : s.perform i stream outcome (.sendCommand sid command readerName) =
      some (some (some (.ok rx)), stream', s')) :
    ∃ (w : Waiter) (st : CommandStream), s'.shared.waiters[rx]? = some w ∧
      s'.streams[w.stream]? = some st ∧ w.request ∈ st.queue.queue := by
  have hwaiter : ∀ (s₀ : Server) (b : BlockedSend),
      Handed s₀ b (some (some (.ok rx))) s' →
      s₀.shared.Prepared b sid command readerName → ∃ (w : Waiter) (st : CommandStream),
        s'.shared.waiters[rx]? = some w ∧ s'.streams[w.stream]? = some st ∧
          w.request ∈ st.queue.queue := by
    rintro s₀ b hhanded ⟨w, hw, -, hrequest, hstream, -⟩
    obtain ⟨rfl, hshared, st, hst, hmem⟩ := hhanded.mem_queue
    refine ⟨w, st, ?_, ?_, ?_⟩
    · rw [hshared, hw]
    · rw [hstream, hst]
    · rw [hrequest]
      exact hmem
  cases perform_performed h with
  | @resumed _ _ _ b _ _ hlock hbi hhanded =>
    -- resumed: the invariant of the lock says what the task was sending
    obtain ⟨t', stream₁, sid', command', readerName', k', ht', hphase, hprep⟩ := hs.lock b hlock
    rw [hbi, ht] at ht'
    obtain rfl := Option.some.inj ht'
    rw [hp] at hphase
    cases hphase
    exact hwaiter s b hhanded hprep
  | issued hlock hissue hhanded => exact hwaiter _ _ hhanded (Shared.prepared_issue hissue i)
  | onConnection ho => exact absurd ho id

/-- The step that sends the command: suspended on a full queue, or refused, which
ends the call with 6F00, or the request is in the queue and its response is
awaited. -/
theorem forwarding_of_sending {svc : SmartcardService} {s s' : Server} {i : ℕ} {apdu : Bytes}
    {sid readerName : String} {k : Bytes → VpcdProgram (Bool × VpcdClient)} {outcome : Outcome}
    (hs : s.Sound) (hsending : s.Sending i sid readerName apdu k)
    (h : step svc s (.taskRun i outcome) = some s') :
    s'.Sending i sid readerName apdu k ∨ s'.At i (k VpcdClient.noPreciseDiagnosis) ∨
      ∃ (rx : ℕ) (w : Waiter) (st : CommandStream), s'.Forwarding i sid readerName apdu k rx ∧
        s'.shared.waiters[rx]? = some w ∧ s'.streams[w.stream]? = some st ∧
        w.request ∈ st.queue.queue := by
  obtain ⟨t, stream, ht, hp⟩ := hsending
  have hset : ∀ (s₁ : Server) (t' : VpcdTask), s₁.tasks = s.tasks →
      (s₁.setTask i t').tasks[i]? = some t' := by
    intro s₁ t' htasks
    show (s₁.tasks.set i t')[i]? = some t'
    rw [htasks]
    exact List.getElem?_set_self (List.getElem?_eq_some_iff.mp ht).1
  have hp' := hp
  unfold sendApdu at hp
  rw [monad_bind, perform_bind, op_bind] at hp
  simp only [step, ht, taskRun, hp] at h
  split at h
  · cases h
  · -- the queue is full
    rename_i s₁ hperform
    obtain rfl := Option.some.inj h
    obtain ⟨shared, streams, lock, rfl, -, -⟩ := perform_frame hperform
    exact Or.inl ⟨t, stream, ht, hp'⟩
  · rename_i answer stream' s₁ hperform
    obtain rfl := Option.some.inj h
    have htasks : s₁.tasks = s.tasks := by
      obtain ⟨shared, streams, lock, rfl, -, -⟩ := perform_frame hperform
      rfl
    rcases answer with _ | _ | rx
    · exact Or.inr (Or.inl ⟨_, stream', hset s₁ _ htasks, rfl⟩)
    · exact Or.inr (Or.inl ⟨_, stream', hset s₁ _ htasks, rfl⟩)
    · obtain ⟨w, st, hw, hst, hmem⟩ := queued_of_perform hs ht hp hperform
      refine Or.inr (Or.inr ⟨rx, w, st, ?_, hw, hst, hmem⟩)
      refine ⟨_, stream', hset s₁ _ htasks, rfl, ?_⟩
      exact List.mem_append_right _ (List.mem_singleton_self _)

/-- **From vpcd to the card and back.**  Let a client of vpcd be targeted at
`readerName` in the session `sid`, and `forward_apdu(apdu)` be called on it.

With the command channel connected the call goes on to send a command.  The step
that sends it is suspended, or refused, or puts into the client's queue the
request of the waiter whose response is then awaited.

In every reachable state in which the call awaits its response, this request
carries the APDU and the reader unchanged, and is the only one in the queues
with its command id.  A client that processes it calls `transmit_apdu` with this
reader and this APDU; and when its response is handled while the command is
pending, then, whatever happens until the task takes its next step, it can take this
step, and with it `forward_apdu` has returned the result for the outcome of that call. -/
theorem forwardApdu_transparent {svc : SmartcardService} {i : ℕ} {c : VpcdClient} {apdu : Bytes}
    {sid readerName : String} {k : Bytes → VpcdProgram (Bool × VpcdClient)}
    (hsid : c.sessionId = some sid) (hreader : c.readerName = some readerName) :
    (∀ s a s', s.At i ((c.forwardApdu apdu).bind k) → (s.shared.channelOf sid).isSome →
      step svc s (.taskRun i a) = some s' → s'.Sending i sid readerName apdu k) ∧
    (∀ s a s', s.Reachable svc → s.Sending i sid readerName apdu k →
      step svc s (.taskRun i a) = some s' →
        s'.Sending i sid readerName apdu k ∨ s'.At i (k VpcdClient.noPreciseDiagnosis) ∨
          ∃ (rx : ℕ) (w : Waiter) (st : CommandStream), s'.Forwarding i sid readerName apdu k rx ∧
            s'.shared.waiters[rx]? = some w ∧ s'.streams[w.stream]? = some st ∧
            w.request ∈ st.queue.queue) ∧
    ∀ s rx, s.Reachable svc → s.Forwarding i sid readerName apdu k rx →
      ∃ w, s.shared.waiters[rx]? = some w ∧ w.sessionId = sid ∧
        w.request = ⟨w.request.commandId, some (.apdu ⟨apdu⟩), readerName⟩ ∧
        (s.shared.waiters.length < 2 ^ 64 →
          ∀ (j : ℕ) (st : CommandStream) (r : CommandRequest), s.streams[j]? = some st →
            r ∈ st.queue.queue → r.commandId = w.request.commandId → r = w.request) ∧
        ∀ (g g' : CardConnections) (tr : List PcscEvent) (response : CommandResponse),
          Yields (GrpcClient.processCommand g sid w.request) tr (response, g') →
            ∃ outcome, Yields (g.transmitApdu readerName apdu) tr (outcome, g') ∧
              (w.oneshot.sender = .held →
                ∀ s₁ as s₂, Handles svc s sid response s₁ →
                  StepRun.run (step svc) s₁ as = some s₂ → Rests i as →
                  (∃ s₃, step svc s₂ (.taskRun i .proceed) = some s₃) ∧
                    ∀ a s₃, step svc s₂ (.taskRun i a) = some s₃ →
                      s₃.At i (k (forwardResult outcome))) := by
  refine ⟨fun s a s' hcall hconnected hstep =>
      sending_of_connected hsid hreader hcall hconnected hstep,
    fun s a s' hs hsending hstep => forwarding_of_sending hs.sound hsending hstep,
    fun s rx hs hcall => ?_⟩
  obtain ⟨t, stream, ht, hp, hlog⟩ := hcall
  obtain ⟨w, hw, rfl, hcommand, hname⟩ := hs.sound.asked _ hlog _ _ _ rx rfl
  refine ⟨w, hw, rfl, ?_, fun hbound j st r hj hr hid => ?_, fun g g' tr response hprocess => ?_⟩
  · rw [← hcommand, ← hname]
  · obtain ⟨rx', w', hw', rfl, -⟩ := hs.queued j st r hj hr
    obtain rfl := hs.sound.commandId_injective hbound hw hw' hid
    rw [Option.some.inj (hw'.symm.trans hw)]
  · obtain ⟨outcome, htransmit, rfl⟩ := GrpcClient.yields_processCommand_apdu hcommand hprocess
    rw [hname] at htransmit
    exact ⟨outcome, htransmit, fun hheld s₁ as s₂ hhandles hrun hrests =>
      returns_of_handles hs ht hp hw hheld hhandles hrun hrests⟩

/-- The server in `exchangeRun` when the task awaits the response to its command. -/
def awaitingState : Server :=
  (StepRun.run (step ⟨"127.0.0.1", 35963, true⟩) init (exchangeRun.take 12)).getD init

theorem reachable_awaitingState : awaitingState.Reachable ⟨"127.0.0.1", 35963, true⟩ := by
  refine ⟨exchangeRun.take 12, ?_⟩
  have h : (StepRun.run (step ⟨"127.0.0.1", 35963, true⟩) init (exchangeRun.take 12)).isSome := by
    decide
  obtain ⟨s, hs⟩ := Option.isSome_iff_exists.mp h
  rw [awaitingState, hs]
  rfl

theorem forwarding_awaitingState :
    awaitingState.Forwarding 0 "s" "r" [0x00, 0xA4] (afterApdu ⟨some "s", some "r", [], true⟩)
      0 := by
  have htask : awaitingState.tasks[0]?.map (fun t => (t.phase, t.connections)) =
      some (.connected ⟨[], .unexpectedEof⟩ (((awaitApdu 0).bind fun response =>
        Program.pure (some response, ⟨some "s", some "r", [], true⟩)).bind handOver), 1) := rfl
  obtain ⟨t, ht, heq⟩ := Option.map_eq_some_iff.mp htask
  obtain ⟨hp, hconnection⟩ := Prod.mk.inj heq
  refine ⟨t, ⟨[], .unexpectedEof⟩, ht, ?_, ?_⟩
  · rw [hp, bind_assoc]
    rfl
  · rw [hconnection]
    exact List.mem_of_getElem? (i := 4) rfl

/-- The APDU of the exchange, answered by the card with its status word. -/
theorem forwardApdu_transparent_exchange :
    ∃ s₁ s₃, step ⟨"127.0.0.1", 35963, true⟩ awaitingState
        (.sendCommandResponse ⟨1, "s", true, "", some (.apdu ⟨[], 0x90, 0x00⟩)⟩) = some s₁ ∧
      step ⟨"127.0.0.1", 35963, true⟩ s₁ (.taskRun 0 .proceed) = some s₃ ∧
      s₃.At 0 (afterApdu ⟨some "s", some "r", [], true⟩ [0x90, 0x00]) := by
  obtain ⟨w, hw, -, -, -, hprocess⟩ :=
    (forwardApdu_transparent (c := ⟨some "s", some "r", [], true⟩) rfl rfl).2.2 awaitingState 0
      reachable_awaitingState forwarding_awaitingState
  have hrequest : awaitingState.shared.waiters[0]? =
      some ⟨"s", ⟨1, some (.apdu ⟨[0x00, 0xA4]⟩), "r"⟩, 0, Oneshot.new⟩ := rfl
  obtain rfl := Option.some.inj (hw.symm.trans hrequest)
  have htransmit := yields_exec (flakyCard 5 false)
    (CardConnections.transmitApdu none "r" [0x00, 0xA4]) 0
  obtain ⟨outcome, houtcome, hreturn⟩ := hprocess none _ _ _ (yields_exec (flakyCard 5 false)
    (GrpcClient.processCommand none "s" ⟨1, some (.apdu ⟨[0x00, 0xA4]⟩), "r"⟩) 0)
  obtain rfl : outcome = .ok [0x90, 0x00] := congrArg Prod.fst (yields_unique houtcome htransmit)
  obtain ⟨s₁, hs₁⟩ := Option.isSome_iff_exists.mp (show (step ⟨"127.0.0.1", 35963, true⟩
    awaitingState (.sendCommandResponse ⟨1, "s", true, "", some (.apdu ⟨[], 0x90, 0x00⟩)⟩)).isSome
      from by decide)
  obtain ⟨⟨s₃, hs₃⟩, hat⟩ :=
    hreturn rfl s₁ [] s₁ (.rpc (by decide) rfl hs₁) rfl (by simp [Rests])
  exact ⟨s₁, s₃, hs₁, hs₃, hat .proceed s₃ hs₃⟩

end Server

end RemoteSmartcard
