/-
# Where the commands come from

A vpcd task sends a command only for the message it has just read, and one at most for
each message (`requestProtocol`); the command goes to the session and the reader the task
was started for.  A command that the client carries out has come over a stream bound to
the session of the task of the client, so it was sent for that session.  Together: the
client puts nothing to its card that vpcd has not asked for (`executed_askedFor`).
-/
import RemoteSmartcard.ClosedSession
import RemoteSmartcard.CommandDelivery
import RemoteSmartcard.ProtocolTrace
import RemoteSmartcard.RequestDiscipline

namespace RemoteSmartcard

open VpcdOp
open Program hiding pure

/-! ## A command for each message -/

/-- The operation reads a message or sends a command. -/
def VpcdOp.IsRequest : VpcdOp → Prop
  | received _ => True
  | sendCommand _ _ _ => True
  | _ => False

/-- A command is sent for the message `msg` that has been read, and for no other. -/
def requestAllowed : Option VpcdMessage → VpcdOp → Prop
  | some msg, sendCommand _ command _ => msg.command = some command
  | none, sendCommand _ _ _ => False
  | _, _ => True

/-- The message for which a command may be sent after an operation. -/
def requestNext (pending : Option VpcdMessage) : (o : VpcdOp) → VpcdRet o → Option VpcdMessage
  | received msg, _ => some msg
  | sendCommand _ _ _, _ => none
  | _, _ => pending

/-- The protocol of messages and commands. -/
def requestProtocol : Protocol VpcdOp VpcdRet (Option VpcdMessage) :=
  ⟨requestAllowed, requestNext⟩

/-- Operations that neither read a message nor send a command are always allowed, and
leave the protocol where it is. -/
theorem requestProtocol_of_not {o : VpcdOp} (ho : ¬ o.IsRequest) (pending : Option VpcdMessage) :
    requestProtocol.allowed pending o ∧ ∀ r, requestProtocol.next pending o r = pending := by
  cases o with
  | received _ | sendCommand _ _ _ => exact absurd trivial ho
  | _ => cases pending <;> exact ⟨trivial, fun _ => rfl⟩

theorem not_isRequest_of_reading {o : VpcdOp} (ho : o.part = .reading) : ¬ o.IsRequest := by
  cases o with
  | received _ | sendCommand _ _ _ => cases ho
  | _ => exact id

theorem not_isRequest_of_writing {o : VpcdOp} (ho : o.part = .writing) : ¬ o.IsRequest := by
  cases o with
  | received _ | sendCommand _ _ _ => cases ho
  | _ => exact id

theorem VpcdOp.IsPolling.not_isRequest {o : VpcdOp} (ho : o.IsPolling) : ¬ o.IsRequest := by
  cases o with
  | received _ | sendCommand _ _ _ => exact absurd ho id
  | _ => exact id

/-- The call `ask` sends the command of the message. -/
theorem obeysRequest_ask {Alpha : Type} {c : VpcdClient} {sid readerName : String}
    {msg : VpcdMessage} {command : Command} (hcommand : msg.command = some command) (d : Alpha)
    {k : CommandResponse → VpcdProgram Alpha}
    (hk : ∀ r, Obeys requestProtocol (fun _ _ => True) (k r) none) :
    Obeys requestProtocol (fun _ _ => True) (c.ask sid readerName command d k) (some msg) := by
  have hwait : Obeys requestProtocol (fun _ t => t = some msg) c.waitForCommandChannel
      (some msg) :=
    c.uses_waitForCommandChannel.obeys_fixed fun _ ho => requestProtocol_of_not ho.not_isRequest _
  refine hwait.bind fun ready pending hpending => ?_
  subst hpending
  split
  · trivial
  · refine .perform_bind hcommand fun sent => ?_
    rcases sent with _ | _ | rx
    · trivial
    · trivial
    · refine .perform_bind trivial fun answer => ?_
      rcases answer with (_ | _) | r
      · trivial
      · trivial
      · exact hk r

/-- `handle_message` sends the command of its own message, if any. -/
theorem obeysRequest_handleMessage (c : VpcdClient) (msg : VpcdMessage) :
    Obeys requestProtocol (fun _ _ => True) (c.handleMessage msg) (some msg) := by
  rcases msg with cmd | data
  · cases cmd with
    | powerOff | powerOn | reset => trivial
    | getAtr =>
      have hatr : Obeys requestProtocol (fun _ _ => True) c.getAtrFromClient
          (some (.control .getAtr)) := by
        rw [VpcdClient.getAtrFromClient_eq]
        split
        · refine .perform_bind trivial fun session => ?_
          split
          · trivial
          · refine obeysRequest_ask rfl _ fun r => ?_
            split <;> trivial
        · trivial
      exact hatr.bind fun _ _ _ => trivial
  · have hforward : Obeys requestProtocol (fun _ _ => True) (c.forwardApdu data)
        (some (.apdu data)) := by
      rw [VpcdClient.forwardApdu_eq]
      split
      · exact obeysRequest_ask rfl _ fun _ => trivial
      · trivial
    exact hforward.bind fun _ _ _ => trivial

/-- **A turn of the message loop sends one command at most**, for the message it reads. -/
theorem obeysRequest_messageLoopBody (c : VpcdClient) (pending : Option VpcdMessage) :
    Obeys requestProtocol (fun _ _ => True) c.messageLoopBody pending := by
  have hreading : Obeys requestProtocol (fun _ t => t = pending) receiveMessage pending :=
    uses_receiveMessage.obeys_fixed fun _ ho =>
      requestProtocol_of_not (not_isRequest_of_reading ho) _
  refine hreading.bind fun result t ht => ?_
  rcases result with e | (_ | msg)
  · trivial
  · trivial
  · refine .perform_bind (by cases t <;> trivial) fun _ => ?_
    refine (obeysRequest_handleMessage c msg).bind fun handled t _ => ?_
    obtain ⟨answer, c'⟩ := handled
    cases answer with
    | none => trivial
    | some data =>
      refine .perform_bind (by cases t <;> trivial) fun _ => ?_
      have hwriting : ∀ t, Obeys requestProtocol (fun _ _ => True) (sendResponse data) t :=
        (uses_sendResponse data).obeys fun t _ ho =>
          (requestProtocol_of_not (not_isRequest_of_writing ho) t).1
      refine (hwriting _).bind fun sent _ _ => ?_
      rcases sent with e | ⟨⟩ <;> trivial

/-- A message for which a command may be sent was read last, and nothing was sent since. -/
theorem pending_read {tr : List VpcdEvent} {msg : VpcdMessage}
    (h : requestProtocol.after none tr = some msg) :
    ∃ before between, tr = before ++ ⟨received msg, ()⟩ :: between ∧
      ∀ e ∈ between, ¬ e.op.IsRequest := by
  induction tr using List.reverseRecOn with
  | nil => cases h
  | append_singleton tr e ih =>
    rw [after_append] at h
    obtain ⟨o, r⟩ := e
    by_cases ho : o.IsRequest
    · cases o with
      | received msg' =>
        obtain rfl : msg' = msg := Option.some.inj h
        exact ⟨tr, [], rfl, by simp⟩
      | sendCommand _ _ _ => cases h
      | _ => exact absurd ho id
    · have hsame : requestProtocol.after none tr = some msg :=
        ((requestProtocol_of_not ho _).2 r).symm.trans h
      obtain ⟨before, between, rfl, hbetween⟩ := ih hsame
      refine ⟨before, between ++ [⟨o, r⟩], by simp, fun e he => ?_⟩
      rcases List.mem_append.mp he with he | he
      · exact hbetween e he
      · rw [List.mem_singleton.mp he]
        exact ho

/-- A command that a loop of the messages sends is that of the message read last, and no
other command was sent for it. -/
theorem command_read {c c' : VpcdClient} {tr before after : List VpcdEvent}
    {p : VpcdProgram (Bool × VpcdClient)} {sid readerName : String} {command : Command}
    {r : VpcdRet (.sendCommand sid command readerName)}
    (h : Serves VpcdClient.messageLoopBody c tr c' p)
    (htr : tr = before ++ ⟨.sendCommand sid command readerName, r⟩ :: after) :
    ∃ msg front between, before = front ++ ⟨received msg, ()⟩ :: between ∧
      (∀ e ∈ between, ¬ e.op.IsRequest) ∧ msg.command = some command := by
  have hpermits : requestProtocol.Permits none tr := by
    refine Obeys.serves (I := fun _ _ => True) (fun c pending _ => ?_) trivial h
    refine (obeysRequest_messageLoopBody c pending).weaken fun r s _ hgoes => ?_
    trivial
  rw [htr] at hpermits
  have hallowed := hpermits.allowed
  cases hpending : requestProtocol.after none before with
  | none =>
    rw [hpending] at hallowed
    exact absurd hallowed id
  | some msg =>
    rw [hpending] at hallowed
    obtain ⟨front, between, hbefore, hbetween⟩ := pending_read hpending
    exact ⟨msg, front, between, hbefore, hbetween, hallowed⟩

namespace Server

/-! ## The target of the commands -/

/-- A task sends its commands for the session and the reader it was started for. -/
def OnTarget (s : Server) : Prop :=
  ∀ e ∈ s.log, ∃ t, s.tasks[e.task]? = some t ∧ ∀ sid command readerName r,
    e.event = ⟨.sendCommand sid command readerName, r⟩ →
      t.client.target = (some sid, some readerName)

theorem onTarget_init : init.OnTarget := by
  intro e he
  cases he

/-- The tasks there are stay, with their targets. -/
theorem Transition.task_kept {svc : SmartcardService} {s s' : Server} {a : Action}
    (h : Transition svc s a s') (hr : s.Rounds) {i : ℕ} {t : VpcdTask}
    (ht : s.tasks[i]? = some t) :
    ∃ t', s'.tasks[i]? = some t' ∧ t'.client.target = t.client.target := by
  have hlength : s.tasks.length ≤ s'.tasks.length := by
    have hjobs := congrArg List.length (h.taskJobs hr)
    simp only [Server.taskJobs, List.length_append, List.length_map] at hjobs
    omega
  have hlt := (List.getElem?_eq_some_iff.mp ht).1
  have ht' : s'.tasks[i]? = some s'.tasks[i] := List.getElem?_eq_getElem (by omega)
  exact ⟨_, ht', h.target hr ht ht'⟩

/-- **Each step** keeps the commands on the targets of their tasks. -/
theorem Transition.onTarget {svc : SmartcardService} {s s' : Server} {a : Action}
    (h : Transition svc s a s') (hr : s.Rounds) (ho : s.OnTarget) : s'.OnTarget := by
  intro e he
  rcases h.effect.log with hlog | ⟨i, _, t, stream, _, o, k, r, _, ht, hp, -, -, hlog⟩
  · obtain ⟨t, ht, htarget⟩ := ho e (hlog ▸ he)
    obtain ⟨t', ht', hsame⟩ := h.task_kept hr ht
    exact ⟨t', ht', fun sid command readerName r hev =>
      hsame.trans (htarget sid command readerName r hev)⟩
  · rw [hlog, List.mem_append, List.mem_singleton] at he
    rcases he with he | rfl
    · obtain ⟨t, ht, htarget⟩ := ho e he
      obtain ⟨t', ht', hsame⟩ := h.task_kept hr ht
      exact ⟨t', ht', fun sid command readerName r hev =>
        hsame.trans (htarget sid command readerName r hev)⟩
    · -- the operation just performed is one that the protocol of the round allows
      obtain ⟨t', ht', hsame⟩ := h.task_kept hr ht
      refine ⟨t', ht', fun sid command readerName r' hev => hsame.trans ?_⟩
      cases hev
      have hround : Obeys _ _ (Program.op _ k) t.awaiting := hr i t stream _ ht hp
      have hallowed : roundAllowed t.client.target t.awaiting _ := hround.1
      cases hrx : t.awaiting with
      | some rx =>
        rw [hrx] at hallowed
        cases hallowed
      | none =>
        rw [hrx] at hallowed
        exact hallowed

/-- In every reachable state a task sends commands for its own session and reader. -/
theorem Reachable.onTarget {svc : SmartcardService} {s : Server} (h : s.Reachable svc) :
    s.OnTarget :=
  (StepRun.invariant_reaches (P := fun s => s.Rounds ∧ s.OnTarget)
    (fun _ _ _ hP hstep => ⟨(step_transition hstep).rounds hP.1,
      (step_transition hstep).onTarget hP.1 hP.2⟩) ⟨rounds_init, onTarget_init⟩ h).2

/-! ## The commands vpcd has asked for -/

/-- vpcd has asked for the command: a task for the session and the reader read a message
from vpcd, and next it sent the command of that message, which the request carries; no
other message was read and no other command sent in between. -/
def AskedFor (s : Server) (sid : String) (request : CommandRequest) : Prop :=
  ∃ (i n rx : ℕ) (t : VpcdTask) (msg : VpcdMessage) (command : Command)
    (before between after : List VpcdEvent),
    s.tasks[i]? = some t ∧ t.client.target = (some sid, some request.readerName) ∧
      s.traceOf i n = before ++ ⟨received msg, ()⟩ :: (between ++
        ⟨.sendCommand sid command request.readerName, some (.ok rx)⟩ :: after) ∧
      (∀ e ∈ between, ¬ e.op.IsRequest) ∧ msg.command = some command ∧
      request.command = some command ∧ s.shared.waiters[rx]?.map (·.request) = some request

/-- **Every accepted command was asked for.** -/
theorem Reachable.askedFor {svc : SmartcardService} {s : Server} (h : s.Reachable svc) {rx : ℕ}
    (hrx : rx ∈ s.accepted) {w : Waiter} (hw : s.shared.waiters[rx]? = some w) :
    s.AskedFor w.sessionId w.request := by
  obtain ⟨⟨i, n, ⟨o, r⟩⟩, he, haccepted⟩ := List.mem_filterMap.mp hrx
  cases o with
  | sendCommand sid command readerName =>
    obtain rfl : r = some (.ok rx) := by
      rcases r with _ | _ | rx'
      · cases haccepted
      · cases haccepted
      · rw [← Option.some.inj haccepted]
    obtain ⟨w', hw', hsid, hcommand, hreader⟩ := h.sound.asked _ he _ _ _ _ rfl
    obtain rfl := Option.some.inj (hw.symm.trans hw')
    obtain ⟨t, ht, htarget⟩ := h.onTarget _ he
    have hmem : (⟨.sendCommand sid command readerName, some (.ok rx)⟩ : VpcdEvent) ∈
        s.traceOf i n :=
      List.mem_map.mpr ⟨_, List.mem_filter.mpr ⟨he, by simp⟩, rfl⟩
    obtain ⟨front, after, htrace⟩ := List.append_of_mem hmem
    obtain ⟨c, c', p, hserves⟩ := h.traced.past i n
    obtain ⟨msg, before, between, rfl, hbetween, hmsg⟩ := command_read hserves htrace
    subst hsid
    subst hreader
    refine ⟨i, n, rx, t, msg, command, before, between, after, ht, htarget _ _ _ _ rfl, ?_,
      hbetween, hmsg, hcommand, by rw [hw]; rfl⟩
    rw [htrace, List.append_assoc, List.cons_append]
  | _ => cases haccepted

/-- The commands placed on a stream are for the session it is bound to. -/
theorem Reachable.askedFor_of_placed {svc : SmartcardService} {s : Server}
    (h : s.Reachable svc) {j : ℕ} {request : CommandRequest} (hplaced : request ∈ s.placed j)
    {x : Option String} (hx : s.sessionOf j = some x) :
    ∃ sid, x = some sid ∧ s.AskedFor sid request := by
  obtain ⟨rx, hrx, hrequest⟩ := List.mem_filterMap.mp hplaced
  obtain ⟨w, hw, hstream⟩ := Option.bind_eq_some_iff.mp hrequest
  split_ifs at hstream with hj
  subst hj
  obtain rfl := Option.some.inj hstream
  obtain ⟨p, hbinding, -⟩ := h.history.issued rx w hw
  rw [sessionOf_eq_map_bindingOf, hbinding] at hx
  exact ⟨w.sessionId, (Option.some.inj hx).symm, h.askedFor hrx hw⟩

end Server

namespace System

variable {Sigma : Type} {svc : SmartcardService} {h : (o : PcscOp) → Sigma → PcscRet o × Sigma}

/-- A command that a task of the client has carried out was placed on the stream of the
task, which is bound to its session. -/
theorem Reachable.placed_of_executed {y : System Sigma} (hy : y.Reachable svc h) {k : ℕ}
    {request : CommandRequest} (he : (k, request) ∈ y.client.executed) :
    ∃ l ∈ y.links, ∃ t, y.client.tasks[k]? = some t ∧ request ∈ y.server.placed l.stream ∧
      y.server.sessionOf l.stream = some (if l.greeted then some t.sessionId else none) := by
  have hL := hy.linked
  have hmem : request ∈ y.client.receivedBy k :=
    List.mem_append_left _ (mem_executedBy he)
  obtain ⟨l, hl, rfl⟩ := hL.received k (List.ne_nil_of_mem hmem)
  obtain ⟨i, hi⟩ := List.mem_iff_getElem?.mp hl
  obtain ⟨t, ht, -, hsession⟩ := (hL.carried i l hi).task
  exact ⟨l, hl, t, ht, (hL.received_prefix hl).subset hmem, hsession⟩

/-- **The client carries out only what vpcd has asked for.**  In every reachable state of
server and client together, whatever the other clients, their streams and the connections
do: each command that a task of the client has carried out was sent by a vpcd task for the
session of this very task and the reader of the command, as the command of a message that
the vpcd task had just read; in particular no message leads to two commands. -/
theorem Reachable.executed_askedFor {y : System Sigma} (hy : y.Reachable svc h) {k : ℕ}
    {request : CommandRequest} (he : (k, request) ∈ y.client.executed) :
    ∃ t, y.client.tasks[k]? = some t ∧ y.server.AskedFor t.sessionId request := by
  obtain ⟨l, -, t, ht, hplaced, hsession⟩ := hy.placed_of_executed he
  obtain ⟨sid, hsid, hasked⟩ := hy.server.askedFor_of_placed hplaced hsession
  split_ifs at hsid
  exact ⟨t, ht, Option.some.inj hsid ▸ hasked⟩

/-- The command of `relayRun` was asked for. -/
theorem executed_askedFor_relayRun :
    ∃ y, StepRun.run (step ⟨"127.0.0.1", 35963, true⟩ (flakyCard 9 false))
        (start (.fromSecs 1) (.fromSecs 60) true 0) relayRun = some y ∧
      ∃ t, y.client.tasks[0]? = some t ∧
        y.server.AskedFor t.sessionId ⟨1, some (.apdu ⟨[0x00, 0xA4]⟩), "r"⟩ := by
  have hrun : (StepRun.run (step ⟨"127.0.0.1", 35963, true⟩ (flakyCard 9 false))
      (start (.fromSecs 1) (.fromSecs 60) true 0) relayRun).map (·.client.executed) =
      some [(0, ⟨1, some (.apdu ⟨[0x00, 0xA4]⟩), "r"⟩)] := by
    decide
  obtain ⟨y, hy, hexecuted⟩ := Option.map_eq_some_iff.mp hrun
  have hreach : y.Reachable ⟨"127.0.0.1", 35963, true⟩ (flakyCard 9 false) :=
    ⟨_, _, _, _, relayRun, hy⟩
  exact ⟨y, hy, hreach.executed_askedFor (by rw [hexecuted]; exact List.mem_singleton_self _)⟩

end System

end RemoteSmartcard
