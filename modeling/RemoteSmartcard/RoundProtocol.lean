/-
# What a vpcd task does in a round

The programs of the vpcd tasks keep to a protocol with the session table: a
command is sent, and looked for, in the client's own session and for its own
reader; and a receiver is awaited at once after the command it belongs to was
accepted, and at no other time.  The state of the protocol is the receiver that
is awaited next.

`Rounds` says this of every vpcd task of the server.  It follows that a task
keeps the session and the reader it was started for.
-/
import RemoteSmartcard.MessageLoop
import RemoteSmartcard.Transitions

namespace RemoteSmartcard

open VpcdOp
open Program hiding pure

/-! ## The protocol -/

/-- The session and the reader a client serves. -/
def VpcdClient.target (c : VpcdClient) : Option String × Option String :=
  (c.sessionId, c.readerName)

/-- The operations allowed to a client with this target; `some rx` is a receiver
just obtained. -/
def roundAllowed (target : Option String × Option String) : Option ℕ → VpcdOp → Prop
  | some rx, o => o = recvResponse rx
  | none, recvResponse _ => False
  | none, sendCommand sid _ readerName => target = (some sid, some readerName)
  | none, getSession sid => target.1 = some sid
  | none, _ => True

/-- The receiver to be awaited after an operation. -/
def roundNext : Option ℕ → (o : VpcdOp) → VpcdRet o → Option ℕ
  | _, sendCommand _ _ _, some (.ok rx) => some rx
  | _, _, _ => none

/-- The protocol of a round. -/
def roundProtocol (target : Option String × Option String) :
    Protocol VpcdOp VpcdRet (Option ℕ) :=
  ⟨roundAllowed target, roundNext⟩

/-- A round ends with no receiver left, and with a client that serves the same
session and reader. -/
def RoundDone (target : Option String × Option String) {Alpha : Type}
    (result : Alpha × VpcdClient) (h : Option ℕ) : Prop :=
  h = none ∧ result.2.target = target

/-- The operations on the connection leave the protocol where it is. -/
theorem roundProtocol_of_part {target : Option String × Option String} {o : VpcdOp}
    (ho : o.part ≠ .handling) :
    (roundProtocol target).allowed none o ∧
      ∀ r, (roundProtocol target).next none o r = none := by
  cases o with
  | getSession _ | sleep _ | sendCommand _ _ _ | recvResponse _ => exact absurd rfl ho
  | _ => exact ⟨trivial, fun _ => rfl⟩

/-- Waiting for a command channel hands the task no receiver. -/
theorem obeysRound_pollCommandChannel (c : VpcdClient) {sid : String}
    (hsid : c.sessionId = some sid) (n : ℕ) :
    Obeys (roundProtocol c.target) (fun _ h => h = none)
      (VpcdClient.pollCommandChannel sid n) none := by
  induction n with
  | zero => rfl
  | succ n ih =>
    refine .perform_bind hsid fun session => ?_
    rcases session with _ | session
    · rfl
    · dsimp only
      split_ifs
      · rfl
      · exact .perform_bind trivial fun _ => ih

/-- So it is for `wait_for_command_channel`. -/
theorem obeysRound_waitForCommandChannel (c : VpcdClient) :
    Obeys (roundProtocol c.target) (fun _ h => h = none) c.waitForCommandChannel none := by
  unfold VpcdClient.waitForCommandChannel
  split
  · rename_i hsid _
    exact obeysRound_pollCommandChannel c hsid 300
  · rfl

/-- The call `ask` keeps to the protocol if what follows it does. -/
theorem obeysRound_ask {Alpha : Type} {Q : Alpha → Option ℕ → Prop} {c : VpcdClient}
    {sid readerName : String} (htarget : c.target = (some sid, some readerName))
    (command : Command) {d : Alpha} {k : CommandResponse → VpcdProgram Alpha} (hd : Q d none)
    (hk : ∀ r, Obeys (roundProtocol c.target) Q (k r) none) :
    Obeys (roundProtocol c.target) Q (c.ask sid readerName command d k) none := by
  refine (obeysRound_waitForCommandChannel c).bind fun ready h hh => ?_
  subst hh
  split
  · exact hd
  · refine .perform_bind htarget fun sent => ?_
    rcases sent with _ | _ | rx
    · exact hd
    · exact hd
    · refine .perform_bind rfl fun answer => ?_
      rcases answer with (_ | _) | r
      · exact hd
      · exact hd
      · exact hk r

/-- `forward_apdu` awaits the receiver that it is handed, and ends without one. -/
theorem obeysRound_forwardApdu (c : VpcdClient) (apdu : Bytes) :
    Obeys (roundProtocol c.target) (fun _ h => h = none) (c.forwardApdu apdu) none := by
  rw [VpcdClient.forwardApdu_eq]
  split
  · rename_i hsid hreader
    exact obeysRound_ask (by rw [VpcdClient.target, hsid, hreader]) _ rfl fun _ => rfl
  · rfl

/-- So does `get_atr_from_client`. -/
theorem obeysRound_getAtrFromClient (c : VpcdClient) :
    Obeys (roundProtocol c.target) (RoundDone c.target) c.getAtrFromClient none := by
  rw [VpcdClient.getAtrFromClient_eq]
  split
  · rename_i sid readerName hsid hreader
    have htarget : c.target = (some sid, some readerName) := by
      rw [VpcdClient.target, hsid, hreader]
    refine .perform_bind hsid fun session => ?_
    split
    · exact ⟨rfl, rfl⟩
    · refine obeysRound_ask htarget _ ⟨rfl, rfl⟩ fun r => ?_
      split <;> exact ⟨rfl, rfl⟩
  · exact ⟨rfl, rfl⟩

/-- So does `handle_message`, for any message. -/
theorem obeysRound_handleMessage (c : VpcdClient) (msg : VpcdMessage) :
    Obeys (roundProtocol c.target) (RoundDone c.target) (c.handleMessage msg) none := by
  rcases msg with cmd | data
  · cases cmd with
    | powerOff | powerOn | reset => exact ⟨rfl, rfl⟩
    | getAtr => exact (obeysRound_getAtrFromClient c).bind fun _ _ h => h
  · exact (obeysRound_forwardApdu c data).bind fun _ _ h => ⟨h, rfl⟩

/-- **A round keeps to the protocol.** -/
theorem obeysRound_messageLoopBody (c : VpcdClient) :
    Obeys (roundProtocol c.target) (RoundDone c.target) c.messageLoopBody none := by
  have hreading : Obeys (roundProtocol c.target) (fun _ h => h = none) receiveMessage none :=
    uses_receiveMessage.obeys_fixed fun o ho => roundProtocol_of_part (by rw [ho]; decide)
  refine hreading.bind fun result h hh => ?_
  subst hh
  rcases result with e | (_ | msg)
  · exact ⟨rfl, rfl⟩
  · exact ⟨rfl, rfl⟩
  · refine .perform_bind trivial fun _ => ?_
    refine (obeysRound_handleMessage c msg).bind fun handled h hh => ?_
    obtain ⟨answer, c'⟩ := handled
    obtain ⟨rfl, htarget⟩ := hh
    cases answer with
    | none => exact ⟨rfl, htarget⟩
    | some data =>
      refine .perform_bind trivial fun _ => ?_
      have hwriting : Obeys (roundProtocol c.target) (fun _ h => h = none)
          (sendResponse data) none :=
        (uses_sendResponse data).obeys_fixed fun o ho => roundProtocol_of_part (by rw [ho]; decide)
      refine hwriting.bind fun sent h hh => ?_
      subst hh
      rcases sent with e | ⟨⟩
      · exact ⟨rfl, htarget⟩
      · exact ⟨rfl, htarget⟩

/-! ## The receiver a task awaits -/

/-- The receiver that a program awaits as its next operation. -/
def awaitingOf {Alpha : Type} : VpcdProgram Alpha → Option ℕ
  | .op (.recvResponse rx) _ => some rx
  | _ => none

/-- In the course of a round the state of the protocol is the receiver awaited. -/
theorem awaitingOf_of_obeys {target : Option String × Option String} {Alpha : Type}
    {p : VpcdProgram (Alpha × VpcdClient)} {h : Option ℕ}
    (hp : Obeys (roundProtocol target) (RoundDone target) p h) : awaitingOf p = h := by
  match p with
  | .pure a => exact hp.1.symm
  | .op o k =>
    have hallowed : roundAllowed target h o := hp.1
    cases h with
    | some rx =>
      obtain rfl : o = recvResponse rx := hallowed
      rfl
    | none =>
      cases o with
      | recvResponse rx => exact absurd hallowed id
      | _ => rfl

/-- The receiver a vpcd task awaits. -/
def VpcdTask.awaiting (t : VpcdTask) : Option ℕ :=
  match t.phase with
  | .connected _ p => awaitingOf p
  | _ => none

/-- A task on a connection awaits what its program awaits next. -/
theorem VpcdTask.awaiting_connected {t : VpcdTask} {stream : TcpStream}
    {p : VpcdProgram (Bool × VpcdClient)} (hp : t.phase = .connected stream p) :
    t.awaiting = awaitingOf p := by
  unfold awaiting
  rw [hp]

/-! ## The tasks of the server -/

namespace Server

/-- Every vpcd task on a connection is in a round that keeps to the protocol. -/
def Rounds (s : Server) : Prop :=
  ∀ (i : ℕ) (t : VpcdTask) stream p, s.tasks[i]? = some t → t.phase = .connected stream p →
    Obeys (roundProtocol t.client.target) (RoundDone t.client.target) p t.awaiting

/-- At the start there are no tasks. -/
theorem rounds_init : init.Rounds := by
  intro i t stream p ht
  simp [init] at ht

/-- One task moves on. -/
theorem Rounds.of_setTask {s s' : Server} (h : s.Rounds) {i : ℕ} {t' : VpcdTask}
    (htasks : s'.tasks = s.tasks.set i t')
    (hround : ∀ stream p, t'.phase = .connected stream p →
      Obeys (roundProtocol t'.client.target) (RoundDone t'.client.target) p t'.awaiting) :
    s'.Rounds := by
  intro j t stream p ht hp
  rw [htasks, List.getElem?_set] at ht
  split_ifs at ht with hij hlt
  · cases ht
    exact hround stream p hp
  · exact h j t stream p ht hp

/-- A task that begins a round keeps to the protocol. -/
theorem rounds_begin {t : VpcdTask} {stream : TcpStream}
    (hphase : t.phase = .connected stream t.client.messageLoopBody) :
    ∀ stream' p, t.phase = .connected stream' p →
      Obeys (roundProtocol t.client.target) (RoundDone t.client.target) p t.awaiting := by
  intro stream' p hp
  rw [hphase] at hp
  cases hp
  have hbody := obeysRound_messageLoopBody t.client
  rw [VpcdTask.awaiting_connected hphase, awaitingOf_of_obeys hbody]
  exact hbody

/-- An operation leaves all tasks where they are. -/
theorem performed_tasks {s s' : Server} {i : ℕ} {outcome : Outcome} {o : VpcdOp}
    {answer : Option (VpcdRet o)} (h : Performed s i outcome o answer s') :
    s'.tasks = s.tasks := by
  rw [h.eq_frame]

/-- **Each step** keeps the tasks within the protocol. -/
theorem Transition.rounds {svc : SmartcardService} {s s' : Server} {a : Action}
    (h : Transition svc s a s') (hr : s.Rounds) : s'.Rounds := by
  cases h with
  | @spawn k start hk =>
    intro i t stream p ht hp
    rw [startClient, StepRun.getElem?_concat] at ht
    split_ifs at ht
    · cases ht
      cases hp
    · exact hr i t stream p ht hp
  | connected ht hp => exact hr.of_setTask rfl (rounds_begin rfl)
  | refused ht hp => exact hr.of_setTask rfl fun _ _ hp' => by cases hp'
  | wake ht hp => exact hr.of_setTask rfl fun _ _ hp' => by cases hp'
  | suspend ht hp _ h =>
    intro j t stream p ht' hp'
    exact hr j t stream p (performed_tasks h ▸ ht') hp'
  | @answer i outcome t stream stream' o k r s₁ ht hp _ h =>
    have htasks : (s₁.setTask i { t with phase := .connected stream' (k r) }).tasks =
        s.tasks.set i { t with phase := .connected stream' (k r) } := by
      rw [setTask, performed_tasks h]
    refine hr.of_setTask htasks fun stream₁ p hp' => ?_
    cases hp'
    have hround := hr i t stream _ ht hp
    have hrest := hround.2 r
    rw [VpcdTask.awaiting_connected rfl, awaitingOf_of_obeys hrest]
    exact hrest
  | turn ht hp => exact hr.of_setTask rfl (rounds_begin rfl)
  | disconnected ht hp => exact hr.of_setTask rfl fun _ _ hp' => by cases hp'
  | _ => exact hr

/-- In every reachable state they are within it. -/
theorem Reachable.rounds {svc : SmartcardService} {s : Server} (h : s.Reachable svc) :
    s.Rounds :=
  StepRun.invariant_reaches (fun _ _ _ hr hstep => (step_transition hstep).rounds hr) rounds_init h

/-- The client a round returns serves the same session and reader. -/
theorem Rounds.target_eq {s : Server} (h : s.Rounds) {i : ℕ} {t : VpcdTask} {stream : TcpStream}
    {b : Bool} {client : VpcdClient} (ht : s.tasks[i]? = some t)
    (hp : t.phase = .connected stream (.pure (b, client))) : client.target = t.client.target :=
  (h i t stream _ ht hp).2

end Server

end RemoteSmartcard
