/-
# What a step of the server does

`Effect s a s'` is the coarse view of the transitions: what happens to the
shared state in the handlers and in the operations of the vpcd tasks is given as
command traffic.  The invariants for which this is enough are proved from it.
`perform_frame` is the frame of the operations of the vpcd tasks.
-/
import RemoteSmartcard.Transitions
import RemoteSmartcard.SharedSteps

namespace RemoteSmartcard

/-- The bound session and the phase of a stream; only the stream's own handler
task changes them. -/
def CommandStream.binding (st : CommandStream) : Option String × StreamPhase :=
  (st.sessionId, st.phase)

namespace Server

/-! ## The effects -/

/-- What one step from `s` can do. -/
inductive Effect (s : Server) : Action → Server → Prop
  | service {a : Action} {now : ℕ} {shared : Shared} {starting : List StartClient}
      (ha : ∀ i, a ≠ .streamTurn i)
      (h : Relation.ReflTransGen Shared.Traffic s.shared shared) :
      Effect s a { s with now := now, shared := shared, starting := starting }
  | establish {id : String} {req : ConnectRequest} (hfresh : s.FreshId id) :
      Effect s (.establishSession id req) (s.establishSession id req)
  | remove {sid : String} :
      Effect s (.removeSession sid) { s with shared := s.shared.removeSession sid }
  | newStream : Effect s .commandChannel s.commandChannel
  | item {i : ℕ} {st : CommandStream} {item : Option (Except String CommandResponse)}
      (hi : s.streams[i]? = some st) (hp : st.phase = .waiting) :
      Effect s (.streamNext i item) (s.setStream i (streamNext st item))
  | take {i : ℕ} {st : CommandStream} {request : CommandRequest} {queue : Mpsc CommandRequest}
      (hi : s.streams[i]? = some st) (hr : st.queue.recv = some (request, queue)) :
      Effect s (.takeCommand i) (s.setStream i { st with queue := queue })
  | close {i : ℕ} {st : CommandStream} (hi : s.streams[i]? = some st) :
      Effect s (.closeReceiver i) (s.setStream i { st with queue := st.queue.close })
  | register {i : ℕ} {st : CommandStream} {response : CommandResponse}
      (hi : s.streams[i]? = some st) (hp : st.phase = .registering response)
      (hs : (s.shared.getSession response.sessionId).isSome) :
      Effect s (.streamTurn i) { s with
        shared := s.shared.setCommandChannel response.sessionId i
        streams := s.streams.set i { st with phase := afterRegistration response }
        registrations := (response.sessionId, i) :: s.registrations }
  | unknown {i : ℕ} {st : CommandStream} {response : CommandResponse}
      (hi : s.streams[i]? = some st) (hp : st.phase = .registering response)
      (hs : s.shared.getSession response.sessionId = none) :
      Effect s (.streamTurn i) (s.setStream i { st with phase := .cleanup })
  | respond {i : ℕ} {st : CommandStream} {response : CommandResponse} {sid : String}
      (hi : s.streams[i]? = some st) (hp : st.phase = .responding response)
      (hsid : st.sessionId = some sid) :
      Effect s (.streamTurn i) { s with
        shared := (s.shared.handleResponse sid response).2
        streams := s.streams.set i { st with phase := .waiting } }
  | cleanup {i : ℕ} {st : CommandStream} {sid : String} (hi : s.streams[i]? = some st)
      (hp : st.phase = .cleanup) (hsid : st.sessionId = some sid) (hlock : s.lock = none) :
      Effect s (.streamTurn i) { s with
        shared := s.shared.clearCommandChannel sid
        streams := s.streams.set i { st with phase := .finished } }
  | unbound {i : ℕ} {st : CommandStream} (hi : s.streams[i]? = some st)
      (hp : st.phase = .cleanup) (hsid : st.sessionId = none) :
      Effect s (.streamTurn i) (s.setStream i { st with phase := .finished })
  | spawn {k : ℕ} {start : StartClient} (hk : s.starting[k]? = some start) :
      Effect s (.startClient k)
        ({ s with starting := s.starting.eraseIdx k }.startClient start)
  | connected {i : ℕ} {t : VpcdTask} {stream : TcpStream} (ht : s.tasks[i]? = some t)
      (hp : t.phase = .connecting) :
      Effect s (.taskConnect i (.ok stream)) (s.setTask i { t with
        client := { t.client with powered := true }
        connections := t.connections + 1
        phase := .connected stream { t.client with powered := true }.messageLoopBody })
  | refused {i : ℕ} {t : VpcdTask} {e : String} {millis : ℕ} (ht : s.tasks[i]? = some t)
      (hp : t.phase = .connecting) :
      Effect s (.taskConnect i (.error e)) (s.setTask i { t with
        consecutiveErrors := t.consecutiveErrors + 1
        phase := .pausing millis })
  | wake {i : ℕ} {t : VpcdTask} {millis : ℕ} (ht : s.tasks[i]? = some t)
      (hp : t.phase = .pausing millis) :
      Effect s (.taskWake i) (s.setTask i { t with phase := .connecting })
  | suspend {i : ℕ} {outcome : Outcome} {t : VpcdTask} {stream stream' : TcpStream} {o : VpcdOp}
      {k : VpcdRet o → VpcdProgram (Bool × VpcdClient)} {s' : Server}
      (ht : s.tasks[i]? = some t) (hp : t.phase = .connected stream (.op o k))
      (h : s.perform i stream outcome o = some (none, stream', s')) :
      Effect s (.taskRun i outcome) s'
  | answer {i : ℕ} {outcome : Outcome} {t : VpcdTask} {stream stream' : TcpStream} {o : VpcdOp}
      {k : VpcdRet o → VpcdProgram (Bool × VpcdClient)} {r : VpcdRet o} {s' : Server}
      (ht : s.tasks[i]? = some t) (hp : t.phase = .connected stream (.op o k))
      (h : s.perform i stream outcome o = some (some r, stream', s')) :
      Effect s (.taskRun i outcome)
        ((s'.setTask i { t with phase := .connected stream' (k r) }).record
          ⟨i, t.connections, ⟨o, r⟩⟩)
  | turn {i : ℕ} {outcome : Outcome} {t : VpcdTask} {stream : TcpStream} {client : VpcdClient}
      (ht : s.tasks[i]? = some t) (hp : t.phase = .connected stream (.pure (true, client))) :
      Effect s (.taskRun i outcome) (s.setTask i
        { t with client := client, phase := .connected stream client.messageLoopBody })
  | disconnected {i : ℕ} {outcome : Outcome} {t : VpcdTask} {stream : TcpStream}
      {client : VpcdClient} (ht : s.tasks[i]? = some t)
      (hp : t.phase = .connected stream (.pure (false, client))) :
      Effect s (.taskRun i outcome) (s.setTask i
        { t with client := client, consecutiveErrors := 0, phase := .pausing 100 })

/-- **The coarse view of the step function.** -/
theorem Transition.effect {svc : SmartcardService} {s s' : Server} {a : Action}
    (h : Transition svc s a s') : Effect s a s' := by
  cases h with
  | tick => exact .service (by simp) .refl
  | establish hlock hfresh => exact .establish hfresh
  | unknownReport hlock hs => exact .service (by simp) .refl
  | report hlock hs => exact .service (by simp) (.single (.updateSession _ _ fun _ => rfl))
  | heartbeat hlock => exact .service (by simp) (.single (.updateSession _ _ fun _ => rfl))
  | remove hlock => exact .remove
  | acknowledge hid => exact .service (by simp) .refl
  | handle hlock hid => exact .service (by simp) (.single (.handleResponse ..))
  | newStream => exact .newStream
  | item hi hp => exact .item hi hp
  | take hi hr => exact .take hi hr
  | close hi => exact .close hi
  | register hlock hi hp hs => exact .register hi hp hs
  | unknown hlock hi hp hs => exact .unknown hi hp hs
  | respond hlock hi hp hsid => exact .respond hi hp hsid
  | cleanup hlock hi hp hsid => exact .cleanup hi hp hsid hlock
  | unbound hi hp hsid => exact .unbound hi hp hsid
  | spawn hk => exact .spawn hk
  | connected ht hp => exact .connected ht hp
  | refused ht hp => exact .refused ht hp
  | wake ht hp => exact .wake ht hp
  | suspend ht hp hperform h => exact .suspend ht hp hperform
  | answer ht hp hperform h => exact .answer ht hp hperform
  | turn ht hp => exact .turn ht hp
  | disconnected ht hp => exact .disconnected ht hp

theorem step_effect {svc : SmartcardService} {s s' : Server} {a : Action}
    (h : step svc s a = some s') : Effect s a s' :=
  (step_transition h).effect

/-! ## The operations of the vpcd tasks -/

/-- Two stream lists with the same bindings, stream by stream. -/
def SameBindings (l l' : List CommandStream) : Prop :=
  ∀ i : ℕ, l'[i]?.map CommandStream.binding = l[i]?.map CommandStream.binding

theorem sameBindings_set {l : List CommandStream} {i : ℕ} {st st' : CommandStream}
    (hi : l[i]? = some st) (hb : st'.binding = st.binding) : SameBindings l (l.set i st') :=
  StepRun.map_getElem?_set_same CommandStream.binding hi hb

/-- The frame of handing a request over. -/
theorem Handed.frame {s s' : Server} {b : BlockedSend}
    {answer : Option (Option (Except String ℕ))} (h : Handed s b answer s') :
    ∃ shared streams lock,
      s' = { s with shared := shared, streams := streams, lock := lock } ∧
      Relation.ReflTransGen Shared.Traffic s.shared shared ∧ SameBindings s.streams streams := by
  cases h with
  | closed hst hclosed => exact ⟨_, s.streams, _, rfl, .single (.dropReceiver ..), fun _ => rfl⟩
  | full hst halive hfull => exact ⟨s.shared, s.streams, _, rfl, .refl, fun _ => rfl⟩
  | sent hst hq => exact ⟨s.shared, _, _, rfl, .refl, sameBindings_set hst rfl⟩

/-- **The frame of an operation**: it acts on the shared state by command
traffic, may fill a queue and take or release the lock, and leaves everything
else alone. -/
theorem perform_frame {s s' : Server} {i : ℕ} {stream stream' : TcpStream} {outcome : Outcome}
    {o : VpcdOp} {answer : Option (VpcdRet o)}
    (h : s.perform i stream outcome o = some (answer, stream', s')) :
    ∃ shared streams lock,
      s' = { s with shared := shared, streams := streams, lock := lock } ∧
      Relation.ReflTransGen Shared.Traffic s.shared shared ∧ SameBindings s.streams streams := by
  cases perform_performed h with
  | issued hlock hissue hhanded =>
    obtain ⟨shared, streams, lock, rfl, htraffic, hbind⟩ := hhanded.frame
    exact ⟨shared, streams, lock, rfl, .head (.issue hissue) htraffic, hbind⟩
  | resumed hlock htask hhanded => exact hhanded.frame
  | response | released | elapsed =>
    exact ⟨_, s.streams, s.lock, rfl, .single (.dropReceiver ..), fun _ => rfl⟩
  | _ => exact ⟨s.shared, s.streams, s.lock, rfl, .refl, fun _ => rfl⟩

end Server

end RemoteSmartcard
