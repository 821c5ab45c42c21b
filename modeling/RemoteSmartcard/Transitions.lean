/-
# The transitions of the server

`Transition svc s a s'` says exactly what each action can do, with one
constructor for each way: the guards it was taken under, the lock included, and
the state afterwards.  `Performed` does the same for the operations of the vpcd
tasks, and `Handed` for the handing over of a request to the queue of a client.
`step_transition` shows that this is the step function.
-/
import RemoteSmartcard.Server

namespace RemoteSmartcard

/-- The operations of a vpcd task that concern its own connection only. -/
def VpcdOp.IsLocal : VpcdOp → Prop
  | .readExact _ => True
  | .writeAll _ => True
  | .flush => True
  | .received _ => True
  | .sending _ => True
  | .sleep _ => True
  | _ => False

namespace Server

/-! ## Handing over a request -/

/-- What handing the request of `b` to its queue can do: fail on a queue without
receiver, suspend the task on a full one, or put the request at the end. -/
inductive Handed (s : Server) (b : BlockedSend) :
    Option (Option (Except String ℕ)) → Server → Prop
  | closed {st : CommandStream} (hst : s.streams[b.stream]? = some st)
      (hclosed : st.queue.receiverAlive = false) :
      Handed s b (some (some (.error "Failed to send command: channel closed")))
        { s with shared := s.shared.dropReceiver b.rx, lock := none }
  | full {st : CommandStream} (hst : s.streams[b.stream]? = some st)
      (halive : st.queue.receiverAlive = true)
      (hfull : st.queue.capacity ≤ st.queue.queue.length) :
      Handed s b none { s with lock := some b }
  | sent {st : CommandStream} {queue : Mpsc CommandRequest}
      (hst : s.streams[b.stream]? = some st) (hq : st.queue.send b.request = .sent queue) :
      Handed s b (some (some (.ok b.rx)))
        { s with streams := s.streams.set b.stream { st with queue := queue }, lock := none }

/-- `enqueue` hands a request over as `Handed` says. -/
theorem enqueue_handed {s s' : Server} {b : BlockedSend}
    {answer : Option (Option (Except String ℕ))} (h : s.enqueue b = some (answer, s')) :
    Handed s b answer s' := by
  unfold enqueue at h
  split at h
  · cases h
  · rename_i st hst
    split at h
    · rename_i hq
      simp only [Option.some.injEq, Prod.mk.injEq] at h
      obtain ⟨rfl, rfl⟩ := h
      exact .closed hst (Mpsc.receiverAlive_of_send_eq_closed hq)
    · rename_i hq
      simp only [Option.some.injEq, Prod.mk.injEq] at h
      obtain ⟨rfl, rfl⟩ := h
      obtain ⟨halive, hfull⟩ := Mpsc.send_eq_full_iff.mp hq
      exact .full hst halive hfull
    · rename_i queue hq
      simp only [Option.some.injEq, Prod.mk.injEq] at h
      obtain ⟨rfl, rfl⟩ := h
      exact .sent hst hq

/-! ## The operations of the vpcd tasks -/

/-- What an operation of the vpcd task `i` can do; `none` leaves the task
suspended in it. -/
inductive Performed (s : Server) (i : ℕ) (outcome : Outcome) :
    (o : VpcdOp) → Option (VpcdRet o) → Server → Prop
  | onConnection {o : VpcdOp} {answer : VpcdRet o} (ho : o.IsLocal) :
      Performed s i outcome o (some answer) s
  | looked {sid : String} (hlock : s.lock = none) :
      Performed s i outcome (.getSession sid) (some (s.shared.getSession sid)) s
  | notFound {sid : String} {command : Command} {readerName : String} (hlock : s.lock = none)
      (hs : s.shared.issue sid command readerName = none) :
      Performed s i outcome (.sendCommand sid command readerName) (some none) s
  | notConnected {sid : String} {command : Command} {readerName e : String}
      (hlock : s.lock = none) (hs : s.shared.issue sid command readerName = some (.error e)) :
      Performed s i outcome (.sendCommand sid command readerName) (some (some (.error e))) s
  | issued {sid : String} {command : Command} {readerName : String} {issued : Issued}
      {answer : Option (Option (Except String ℕ))} {s' : Server} (hlock : s.lock = none)
      (hissue : s.shared.issue sid command readerName = some (.ok issued))
      (h : Handed { s with shared := issued.shared }
        ⟨i, issued.request, issued.stream, issued.rx⟩ answer s') :
      Performed s i outcome (.sendCommand sid command readerName) answer s'
  | resumed {sid : String} {command : Command} {readerName : String} {b : BlockedSend}
      {answer : Option (Option (Except String ℕ))} {s' : Server} (hlock : s.lock = some b)
      (htask : b.task = i) (h : Handed s b answer s') :
      Performed s i outcome (.sendCommand sid command readerName) answer s'
  | response {rx : ℕ} {w : Waiter} {r : CommandResponse} (hw : s.shared.waiters[rx]? = some w)
      (halive : w.oneshot.receiverAlive = true) (hsent : w.oneshot.sender = .sent r) :
      Performed s i outcome (.recvResponse rx) (some (.ok r))
        { s with shared := s.shared.dropReceiver rx }
  | released {rx : ℕ} {w : Waiter} (hw : s.shared.waiters[rx]? = some w)
      (halive : w.oneshot.receiverAlive = true) (hdropped : w.oneshot.sender = .dropped) :
      Performed s i outcome (.recvResponse rx) (some (.error .closed))
        { s with shared := s.shared.dropReceiver rx }
  | elapsed {rx : ℕ} {w : Waiter} {text : String} (hw : s.shared.waiters[rx]? = some w)
      (halive : w.oneshot.receiverAlive = true) (hheld : w.oneshot.sender = .held)
      (houtcome : outcome = .fail text) :
      Performed s i outcome (.recvResponse rx) (some (.error .elapsed))
        { s with shared := s.shared.dropReceiver rx }

/-- `send_command_async` issues its command under the lock, or goes on with the suspended
one. -/
theorem sendCommand_performed {s s' : Server} {i : ℕ} {outcome : Outcome} {sid : String}
    {command : Command} {readerName : String} {answer : Option (Option (Except String ℕ))}
    (h : s.sendCommand i sid command readerName = some (answer, s')) :
    Performed s i outcome (.sendCommand sid command readerName) answer s' := by
  unfold sendCommand at h
  split at h
  · rename_i b hb
    split at h
    · rename_i hi
      exact .resumed hb hi (enqueue_handed h)
    · cases h
  · rename_i hlock
    split at h
    · rename_i hissue
      simp only [Option.some.injEq, Prod.mk.injEq] at h
      obtain ⟨rfl, rfl⟩ := h
      exact .notFound hlock hissue
    · rename_i e hissue
      simp only [Option.some.injEq, Prod.mk.injEq] at h
      obtain ⟨rfl, rfl⟩ := h
      exact .notConnected hlock hissue
    · rename_i issued hissue
      exact .issued hlock hissue (enqueue_handed h)

/-- Awaiting a receiver gives the response, or the failure, and drops the receiver. -/
theorem recvResponse_performed {s s' : Server} {i rx : ℕ} {outcome : Outcome}
    {answer : Except RecvFailure CommandResponse}
    (h : s.recvResponse rx outcome = some (answer, s')) :
    Performed s i outcome (.recvResponse rx) (some answer) s' := by
  unfold recvResponse at h
  split at h
  · cases h
  · rename_i w hw
    split at h
    · rename_i halive
      split at h
      · rename_i response hpoll
        simp only [Option.some.injEq, Prod.mk.injEq] at h
        obtain ⟨rfl, rfl⟩ := h
        exact .response hw halive (Oneshot.sender_eq_sent_of_poll hpoll)
      · rename_i hpoll
        simp only [Option.some.injEq, Prod.mk.injEq] at h
        obtain ⟨rfl, rfl⟩ := h
        exact .released hw halive (Oneshot.sender_eq_dropped_of_poll hpoll)
      · rename_i hpoll
        simp only [Option.some.injEq, Prod.mk.injEq] at h
        obtain ⟨rfl, rfl⟩ := h
        exact .elapsed hw halive (Oneshot.sender_eq_held_of_poll hpoll) rfl
      · cases h
    · cases h

/-- **The inversion of an operation.** -/
theorem perform_performed {s s' : Server} {i : ℕ} {stream stream' : TcpStream}
    {outcome : Outcome} {o : VpcdOp} {answer : Option (VpcdRet o)}
    (h : s.perform i stream outcome o = some (answer, stream', s')) :
    Performed s i outcome o answer s' := by
  cases o with
  | readExact n | writeAll data | flush | received msg | sending response | sleep millis =>
    simp only [perform, Option.some.injEq, Prod.mk.injEq] at h
    obtain ⟨rfl, -, rfl⟩ := h
    exact .onConnection trivial
  | getSession sid =>
    simp only [perform] at h
    split at h
    · cases h
    · rename_i hlock
      simp only [Option.some.injEq, Prod.mk.injEq] at h
      obtain ⟨rfl, -, rfl⟩ := h
      exact .looked (by simpa using hlock)
  | sendCommand sid command readerName =>
    simp only [perform, Option.map_eq_some_iff, Prod.mk.injEq, Prod.exists] at h
    obtain ⟨a, s₁, hsend, rfl, -, rfl⟩ := h
    exact sendCommand_performed hsend
  | recvResponse rx =>
    simp only [perform, Option.map_eq_some_iff, Prod.mk.injEq, Prod.exists] at h
    obtain ⟨a, s₁, hrecv, rfl, -, rfl⟩ := h
    exact recvResponse_performed hrecv

/-- An operation acts on the shared state, the queues and the lock only. -/
theorem Performed.eq_frame {s s' : Server} {i : ℕ} {outcome : Outcome} {o : VpcdOp}
    {answer : Option (VpcdRet o)} (h : Performed s i outcome o answer s') :
    s' = { s with shared := s'.shared, streams := s'.streams, lock := s'.lock } := by
  cases h with
  | issued _ _ h => cases h <;> rfl
  | resumed _ _ h => cases h <;> rfl
  | _ => rfl

/-! ## The steps -/

/-- The calls of `start_client` that a report of a reader leads to. -/
def startsFor (svc : SmartcardService) (session : Session) (req : UpdateReaderInfoRequest) :
    List StartClient :=
  if decide (req.readerName ∉ session.readers) && svc.autoVpcd && req.cardPresent then
    [⟨req.sessionId, req.readerName, svc.vpcdHost, some svc.vpcdPort⟩]
  else []

/-- What each action can do. -/
inductive Transition (svc : SmartcardService) (s : Server) : Action → Server → Prop
  | tick {nanos : ℕ} : Transition svc s (.tick nanos) { s with now := s.now + nanos }
  | establish {id : String} {req : ConnectRequest} (hlock : s.lock = none)
      (hfresh : s.FreshId id) :
      Transition svc s (.establishSession id req) (s.establishSession id req)
  | unknownReport {req : UpdateReaderInfoRequest} (hlock : s.lock = none)
      (hs : s.shared.getSession req.sessionId = none) :
      Transition svc s (.updateReaderInfo req) s
  | report {req : UpdateReaderInfoRequest} {session : Session} (hlock : s.lock = none)
      (hs : s.shared.getSession req.sessionId = some session) :
      Transition svc s (.updateReaderInfo req) { s with
        shared := s.shared.updateSession req.sessionId fun session =>
          session.updateReader req.readerName req.atr req.cardPresent
        starting := s.starting ++ startsFor svc session req }
  | heartbeat {sid : String} (hlock : s.lock = none) :
      Transition svc s (.heartbeat sid)
        { s with shared := s.shared.updateSession sid fun session => session.touch s.now }
  | remove {sid : String} (hlock : s.lock = none) :
      Transition svc s (.removeSession sid) { s with shared := s.shared.removeSession sid }
  | acknowledge {response : CommandResponse} (hid : response.commandId = 0) :
      Transition svc s (.sendCommandResponse response) s
  | handle {response : CommandResponse} (hlock : s.lock = none) (hid : response.commandId ≠ 0) :
      Transition svc s (.sendCommandResponse response)
        { s with shared := (s.shared.handleResponse response.sessionId response).2 }
  | newStream : Transition svc s .commandChannel s.commandChannel
  | item {i : ℕ} {st : CommandStream} {item : Option (Except String CommandResponse)}
      (hi : s.streams[i]? = some st) (hp : st.phase = .waiting) :
      Transition svc s (.streamNext i item) (s.setStream i (streamNext st item))
  | take {i : ℕ} {st : CommandStream} {request : CommandRequest} {queue : Mpsc CommandRequest}
      (hi : s.streams[i]? = some st) (hr : st.queue.recv = some (request, queue)) :
      Transition svc s (.takeCommand i) (s.setStream i { st with queue := queue })
  | close {i : ℕ} {st : CommandStream} (hi : s.streams[i]? = some st) :
      Transition svc s (.closeReceiver i) (s.setStream i { st with queue := st.queue.close })
  | register {i : ℕ} {st : CommandStream} {response : CommandResponse} (hlock : s.lock = none)
      (hi : s.streams[i]? = some st) (hp : st.phase = .registering response)
      (hs : (s.shared.getSession response.sessionId).isSome) :
      Transition svc s (.streamTurn i) { s with
        shared := s.shared.setCommandChannel response.sessionId i
        streams := s.streams.set i { st with phase := afterRegistration response }
        registrations := (response.sessionId, i) :: s.registrations }
  | unknown {i : ℕ} {st : CommandStream} {response : CommandResponse} (hlock : s.lock = none)
      (hi : s.streams[i]? = some st) (hp : st.phase = .registering response)
      (hs : s.shared.getSession response.sessionId = none) :
      Transition svc s (.streamTurn i) (s.setStream i { st with phase := .cleanup })
  | respond {i : ℕ} {st : CommandStream} {response : CommandResponse} {sid : String}
      (hlock : s.lock = none) (hi : s.streams[i]? = some st)
      (hp : st.phase = .responding response) (hsid : st.sessionId = some sid) :
      Transition svc s (.streamTurn i) { s with
        shared := (s.shared.handleResponse sid response).2
        streams := s.streams.set i { st with phase := .waiting } }
  | cleanup {i : ℕ} {st : CommandStream} {sid : String} (hlock : s.lock = none)
      (hi : s.streams[i]? = some st) (hp : st.phase = .cleanup) (hsid : st.sessionId = some sid) :
      Transition svc s (.streamTurn i) { s with
        shared := s.shared.clearCommandChannel sid
        streams := s.streams.set i { st with phase := .finished } }
  | unbound {i : ℕ} {st : CommandStream} (hi : s.streams[i]? = some st)
      (hp : st.phase = .cleanup) (hsid : st.sessionId = none) :
      Transition svc s (.streamTurn i) (s.setStream i { st with phase := .finished })
  | spawn {k : ℕ} {start : StartClient} (hk : s.starting[k]? = some start) :
      Transition svc s (.startClient k)
        ({ s with starting := s.starting.eraseIdx k }.startClient start)
  | connected {i : ℕ} {t : VpcdTask} {stream : TcpStream} (ht : s.tasks[i]? = some t)
      (hp : t.phase = .connecting) :
      Transition svc s (.taskConnect i (.ok stream)) (s.setTask i { t with
        client := { t.client with powered := true }
        connections := t.connections + 1
        phase := .connected stream { t.client with powered := true }.messageLoopBody })
  | refused {i : ℕ} {t : VpcdTask} {e : String} {millis : ℕ} (ht : s.tasks[i]? = some t)
      (hp : t.phase = .connecting) :
      Transition svc s (.taskConnect i (.error e)) (s.setTask i { t with
        consecutiveErrors := t.consecutiveErrors + 1
        phase := .pausing millis })
  | wake {i : ℕ} {t : VpcdTask} {millis : ℕ} (ht : s.tasks[i]? = some t)
      (hp : t.phase = .pausing millis) :
      Transition svc s (.taskWake i) (s.setTask i { t with phase := .connecting })
  | suspend {i : ℕ} {outcome : Outcome} {t : VpcdTask} {stream stream' : TcpStream} {o : VpcdOp}
      {k : VpcdRet o → VpcdProgram (Bool × VpcdClient)} {s' : Server}
      (ht : s.tasks[i]? = some t) (hp : t.phase = .connected stream (.op o k))
      (hperform : s.perform i stream outcome o = some (none, stream', s'))
      (h : Performed s i outcome o none s') : Transition svc s (.taskRun i outcome) s'
  | answer {i : ℕ} {outcome : Outcome} {t : VpcdTask} {stream stream' : TcpStream} {o : VpcdOp}
      {k : VpcdRet o → VpcdProgram (Bool × VpcdClient)} {r : VpcdRet o} {s' : Server}
      (ht : s.tasks[i]? = some t) (hp : t.phase = .connected stream (.op o k))
      (hperform : s.perform i stream outcome o = some (some r, stream', s'))
      (h : Performed s i outcome o (some r) s') :
      Transition svc s (.taskRun i outcome)
        ((s'.setTask i { t with phase := .connected stream' (k r) }).record
          ⟨i, t.connections, ⟨o, r⟩⟩)
  | turn {i : ℕ} {outcome : Outcome} {t : VpcdTask} {stream : TcpStream} {client : VpcdClient}
      (ht : s.tasks[i]? = some t) (hp : t.phase = .connected stream (.pure (true, client))) :
      Transition svc s (.taskRun i outcome) (s.setTask i
        { t with client := client, phase := .connected stream client.messageLoopBody })
  | disconnected {i : ℕ} {outcome : Outcome} {t : VpcdTask} {stream : TcpStream}
      {client : VpcdClient} (ht : s.tasks[i]? = some t)
      (hp : t.phase = .connected stream (.pure (false, client))) :
      Transition svc s (.taskRun i outcome) (s.setTask i
        { t with client := client, consecutiveErrors := 0, phase := .pausing 100 })

/-- What needs the lock is done when nobody holds it. -/
theorem locked_eq_some {s s₁ s' : Server} (h : s.locked s₁ = some s') :
    s.lock = none ∧ s' = s₁ := by
  unfold locked at h
  split at h
  · cases h
  · rename_i hlock
    exact ⟨by simpa using hlock, by simpa using h.symm⟩

/-- A report on a reader of a session in the table, or on one of an unknown session. -/
theorem transition_updateReaderInfo {svc : SmartcardService} {s : Server}
    (hlock : s.lock = none) (req : UpdateReaderInfoRequest) :
    Transition svc s (.updateReaderInfo req) (s.updateReaderInfo svc req).2 := by
  unfold updateReaderInfo
  cases hs : s.shared.getSession req.sessionId with
  | none => exact .unknownReport hlock hs
  | some session =>
    have hreport : Transition svc s (.updateReaderInfo req) _ := .report hlock hs
    unfold startsFor at hreport
    dsimp only
    split at hreport
    · rename_i hnew
      rw [if_pos hnew]
      exact hreport
    · rename_i hold
      rw [if_neg hold]
      simpa using hreport

/-- A response by the RPC goes to the session that it names. -/
theorem sendCommandResponse_snd (s : Server) {response : CommandResponse}
    (h : response.commandId ≠ 0) :
    (s.sendCommandResponse response).2 =
      { s with shared := (s.shared.handleResponse response.sessionId response).2 } := by
  unfold sendCommandResponse
  rw [if_pos (UInt64.pos_iff_ne_zero.mpr h)]
  split <;> rename_i heq <;> rw [heq]

/-- The turn of a handler task, by the phase it is in. -/
theorem transition_streamTurn {svc : SmartcardService} {s s' : Server} {i : ℕ}
    {st : CommandStream} (hi : s.streams[i]? = some st) (h : s.streamTurn i st = some s') :
    Transition svc s (.streamTurn i) s' := by
  unfold streamTurn at h
  cases hp : st.phase with
  | waiting => simp [hp] at h
  | finished => simp [hp] at h
  | registering response =>
    simp only [hp] at h
    split at h
    · cases h
    · rename_i hlock
      have hlock' : s.lock = none := by simpa using hlock
      cases hs : s.shared.getSession response.sessionId with
      | none =>
        simp only [hs, Option.some.injEq] at h
        subst h
        exact .unknown hlock' hi hp hs
      | some session =>
        simp only [hs, Option.some.injEq] at h
        subst h
        exact .register hlock' hi hp (by simp [hs])
  | responding response =>
    simp only [hp] at h
    split at h
    · cases h
    · rename_i hlock
      have hlock' : s.lock = none := by simpa using hlock
      cases hsid : st.sessionId with
      | none => simp [hsid] at h
      | some sid =>
        simp only [hsid, Option.some.injEq] at h
        subst h
        rw [← hsid]
        exact .respond hlock' hi hp hsid
  | cleanup =>
    simp only [hp] at h
    cases hsid : st.sessionId with
    | none =>
      simp only [hsid, Option.some.injEq] at h
      subst h
      rw [← hsid]
      exact .unbound hi hp hsid
    | some sid =>
      simp only [hsid] at h
      split at h
      · cases h
      · rename_i hlock
        simp only [Option.some.injEq] at h
        subst h
        rw [← hsid]
        exact .cleanup (by simpa using hlock) hi hp hsid

/-- The turn of a vpcd task: an operation, the next turn of its loop, or the end of the
connection. -/
theorem transition_taskRun {svc : SmartcardService} {s s' : Server} {i : ℕ} {t : VpcdTask}
    {outcome : Outcome} (ht : s.tasks[i]? = some t) (h : s.taskRun i t outcome = some s') :
    Transition svc s (.taskRun i outcome) s' := by
  unfold taskRun at h
  split at h
  · rename_i stream o k hp
    split at h
    · cases h
    · rename_i stream' s₁ hperf
      simp only [Option.some.injEq] at h
      subst h
      exact .suspend ht hp hperf (perform_performed hperf)
    · rename_i r stream' s₁ hperf
      simp only [Option.some.injEq] at h
      subst h
      exact .answer ht hp hperf (perform_performed hperf)
  · rename_i stream client hp
    simp only [Option.some.injEq] at h
    subst h
    exact .turn ht hp
  · rename_i stream client hp
    simp only [Option.some.injEq] at h
    subst h
    exact .disconnected ht hp
  · cases h

/-- An attempt to connect to vpcd, with success or without. -/
theorem transition_taskConnect {svc : SmartcardService} {s s' : Server} {i : ℕ} {t : VpcdTask}
    {outcome : Except String TcpStream} (ht : s.tasks[i]? = some t)
    (h : s.taskConnect i t outcome = some s') :
    Transition svc s (.taskConnect i outcome) s' := by
  unfold taskConnect at h
  split at h
  all_goals
    split at h
    · rename_i hp
      simp only [Option.some.injEq] at h
      subst h
      first
      | exact .connected ht hp
      | exact .refused ht hp
    · cases h

/-- The end of a pause. -/
theorem transition_taskWake {svc : SmartcardService} {s s' : Server} {i : ℕ} {t : VpcdTask}
    (ht : s.tasks[i]? = some t) (h : s.taskWake i t = some s') :
    Transition svc s (.taskWake i) s' := by
  unfold taskWake at h
  split at h
  · rename_i millis hp
    simp only [Option.some.injEq] at h
    subst h
    exact .wake ht hp
  · cases h

/-- **The inversion of the step function.** -/
theorem step_transition {svc : SmartcardService} {s s' : Server} {a : Action}
    (h : step svc s a = some s') : Transition svc s a s' := by
  cases a with
  | tick nanos =>
    simp only [step, Option.some.injEq] at h
    subst h
    exact .tick
  | establishSession id req =>
    simp only [step] at h
    split at h
    · rename_i hfresh
      obtain ⟨hlock, rfl⟩ := locked_eq_some h
      exact .establish hlock hfresh
    · cases h
  | updateReaderInfo req =>
    obtain ⟨hlock, rfl⟩ := locked_eq_some h
    exact transition_updateReaderInfo hlock req
  | heartbeat sid =>
    obtain ⟨hlock, rfl⟩ := locked_eq_some h
    exact .heartbeat hlock
  | removeSession sid =>
    obtain ⟨hlock, rfl⟩ := locked_eq_some h
    exact .remove hlock
  | sendCommandResponse response =>
    simp only [step] at h
    split at h
    · rename_i hid
      simp only [Option.some.injEq] at h
      subst h
      exact .acknowledge hid
    · rename_i hid
      obtain ⟨hlock, rfl⟩ := locked_eq_some h
      rw [sendCommandResponse_snd s hid]
      exact .handle hlock hid
  | commandChannel =>
    simp only [step, Option.some.injEq] at h
    subst h
    exact .newStream
  | streamNext i item =>
    simp only [step] at h
    split at h
    · rename_i st hi
      split at h
      · rename_i hp
        simp only [Option.some.injEq] at h
        subst h
        exact .item hi hp
      · cases h
    · cases h
  | streamTurn i =>
    simp only [step] at h
    split at h
    · rename_i st hi
      exact transition_streamTurn hi h
    · cases h
  | takeCommand i =>
    simp only [step] at h
    split at h
    · rename_i st hi
      split at h
      · rename_i request queue hr
        simp only [Option.some.injEq] at h
        subst h
        exact .take hi hr
      · cases h
    · cases h
  | closeReceiver i =>
    simp only [step] at h
    split at h
    · rename_i st hi
      simp only [Option.some.injEq] at h
      subst h
      exact .close hi
    · cases h
  | startClient k =>
    simp only [step] at h
    split at h
    · rename_i start hk
      simp only [Option.some.injEq] at h
      subst h
      exact .spawn hk
    · cases h
  | taskConnect i outcome =>
    simp only [step] at h
    split at h
    · rename_i t ht
      exact transition_taskConnect ht h
    · cases h
  | taskRun i outcome =>
    simp only [step] at h
    split at h
    · rename_i t ht
      exact transition_taskRun ht h
    · cases h
  | taskWake i =>
    simp only [step] at h
    split at h
    · rename_i t ht
      exact transition_taskWake ht h
    · cases h

end Server

end RemoteSmartcard
