/-
# A client that does not read its commands

`send_command_async` is awaited with the write lock held.  When the queue of the
client is full, the task stays suspended there with the lock, and nothing but that
client can end this: no handler and no other task gets the lock (`Frozen`).  Timed
out commands stay in the queue, so a client that never reads fills it with a hundred
of them.
-/
import RemoteSmartcard.ChannelHistory
import RemoteSmartcard.Receivers

namespace RemoteSmartcard

open Program hiding pure

namespace Server

/-! ## The property -/

/-- The holder of the lock, if there is one, can go on by itself and give the lock
back. -/
def HolderGoesOn (svc : SmartcardService) (s : Server) : Prop :=
  ∀ b, s.lock = some b →
    ∃ outcome s', step svc s (.taskRun b.task outcome) = some s' ∧ s'.lock = none

/-- Whatever needs the lock is enabled: heartbeats, reports of readers, responses by
RPC, the handler tasks of the streams, and the operations of the vpcd tasks on the
table. -/
structure Responsive (svc : SmartcardService) (s : Server) : Prop where
  heartbeat : ∀ sid, (step svc s (.heartbeat sid)).isSome
  report : ∀ req, (step svc s (.updateReaderInfo req)).isSome
  response : ∀ response, (step svc s (.sendCommandResponse response)).isSome
  handler : ∀ i st, s.streams[i]? = some st →
    ((∃ r, st.phase = .registering r) ∨ (∃ r sid, st.phase = .responding r ∧
      st.sessionId = some sid) ∨ st.phase = .cleanup) → (step svc s (.streamTurn i)).isSome
  look : ∀ i outcome sid, s.nextOp i = some (.getSession sid) →
    (step svc s (.taskRun i outcome)).isSome
  forward : ∀ i outcome sid command readerName,
    s.nextOp i = some (.sendCommand sid command readerName) →
      (step svc s (.taskRun i outcome)).isSome

/-- No client can freeze the server in this state. -/
def Unfrozen (svc : SmartcardService) (s : Server) : Prop :=
  HolderGoesOn svc s ∧ Responsive svc s

/-- The queue of the stream `j` has a receiver and is full. -/
def queueFull (s : Server) (j : ℕ) : Bool :=
  match s.streams[j]? with
  | some st => st.queue.receiverAlive && decide (st.queue.capacity ≤ st.queue.queue.length)
  | none => false

/-- A command is handed over only to a queue that has room, or no receiver. -/
def hasRoom (s : Server) : Action → Bool
  | .taskRun i _ =>
    match s.nextOp i with
    | some (.sendCommand sid _ _) => (s.targetStream sid).all fun j => !s.queueFull j
    | _ => true
  | _ => true

theorem queueFull_iff {s : Server} {j : ℕ} :
    s.queueFull j = true ↔ ∃ st, s.streams[j]? = some st ∧ st.queue.receiverAlive = true ∧
      st.queue.capacity ≤ st.queue.queue.length := by
  unfold queueFull
  cases s.streams[j]? with
  | none => simp
  | some st => simp

/-! ## A suspended sender -/

/-- The lock is held by a task suspended on a full queue. -/
def Frozen (s : Server) (b : BlockedSend) : Prop :=
  s.lock = some b ∧ s.queueFull b.stream = true

/-- Handing a request to a full queue suspends the task. -/
theorem Handed.of_full {s s' : Server} {b : BlockedSend}
    {answer : Option (Option (Except String ℕ))} (h : Handed s b answer s')
    (hfull : s.queueFull b.stream = true) : answer = none ∧ s'.lock = some b := by
  obtain ⟨st, hst, halive, hlength⟩ := queueFull_iff.mp hfull
  cases h with
  | closed hst' hclosed =>
    obtain rfl := Option.some.inj (hst.symm.trans hst')
    rw [halive] at hclosed
    cases hclosed
  | full => exact ⟨rfl, rfl⟩
  | sent hst' hq =>
    obtain rfl := Option.some.inj (hst.symm.trans hst')
    rw [Mpsc.send_eq_full_iff.mpr ⟨halive, hlength⟩] at hq
    cases hq

/-- Handing a request to a queue that is not full leaves the lock free. -/
theorem Handed.of_not_full {s s' : Server} {b : BlockedSend}
    {answer : Option (Option (Except String ℕ))} (h : Handed s b answer s')
    (hroom : s.queueFull b.stream = false) : answer ≠ none ∧ s'.lock = none := by
  cases h with
  | closed | sent => exact ⟨by simp, rfl⟩
  | full hst halive hfull =>
    rw [queueFull_iff.mpr ⟨_, hst, halive, hfull⟩] at hroom
    cases hroom

/-- The holder cannot give the lock back, whatever its surroundings answer. -/
theorem Frozen.holder {svc : SmartcardService} {s s' : Server} {b : BlockedSend}
    (h : s.Frozen b) (hs : s.Sound) {outcome : Outcome}
    (hstep : step svc s (.taskRun b.task outcome) = some s') : s'.lock = some b := by
  obtain ⟨hlock, hfull⟩ := h
  obtain ⟨t, stream, sid, command, readerName, k, ht, hp, -⟩ := hs.lock b hlock
  -- the holder is in `sendCommand`, and hands its request over once more
  have hperf : ∀ {answer : Option (VpcdRet (.sendCommand sid command readerName))} {s₁ : Server},
      Performed s b.task outcome (.sendCommand sid command readerName) answer s₁ →
      answer = none ∧ s₁.lock = some b := by
    intro answer s₁ h
    cases h with
    | onConnection ho => exact absurd ho id
    | notFound hfree | notConnected hfree | issued hfree =>
      rw [hlock] at hfree
      cases hfree
    | resumed hheld htask hhanded =>
      obtain rfl := Option.some.inj (hlock.symm.trans hheld)
      exact hhanded.of_full hfull
  cases step_transition hstep with
  | suspend ht' hp' hperform h =>
    obtain rfl := Option.some.inj (ht.symm.trans ht')
    rw [hp] at hp'
    cases hp'
    exact (hperf h).2
  | answer ht' hp' hperform h =>
    obtain rfl := Option.some.inj (ht.symm.trans ht')
    rw [hp] at hp'
    cases hp'
    cases (hperf h).1
  | turn ht' hp' | disconnected ht' hp' =>
    obtain rfl := Option.some.inj (ht.symm.trans ht')
    rw [hp] at hp'
    cases hp'

theorem Frozen.not_unfrozen {svc : SmartcardService} {s : Server} {b : BlockedSend}
    (h : s.Frozen b) (hs : s.Sound) : ¬ Unfrozen svc s := by
  rintro ⟨hgoes, -⟩
  obtain ⟨outcome, s', hstep, hfree⟩ := hgoes b h.1
  rw [h.holder hs hstep] at hfree
  cases hfree

/-- **With room in the queue the lock is free again after the step.** -/
theorem Transition.lock_eq_none {svc : SmartcardService} {s s' : Server} {a : Action}
    (h : Transition svc s a s') (hlock : s.lock = none) (hG : s.hasRoom a = true) :
    s'.lock = none := by
  have hperf : ∀ {i : ℕ} {outcome : Outcome} {o : VpcdOp} {answer : Option (VpcdRet o)}
      {s₁ : Server}, s.nextOp i = some o → s.hasRoom (.taskRun i outcome) = true →
      Performed s i outcome o answer s₁ → s₁.lock = none := by
    intro i outcome o answer s₁ hop hG h
    cases h with
    | @issued sid command readerName issued answer s₁ hfree hissue hhanded =>
      obtain ⟨session, channel, hsession, hch, hst, -⟩ := Shared.issue_eq_ok hissue
      have htarget : s.targetStream sid = some issued.stream := by
        rw [targetStream, hlock]
        dsimp only
        rw [Shared.channelOf, hsession, hst]
        simp [hch]
      have hroom : s.queueFull issued.stream = false := by
        simpa [hasRoom, hop, htarget] using hG
      exact (hhanded.of_not_full hroom).2
    | resumed hheld htask hhanded =>
      rw [hlock] at hheld
      cases hheld
    | _ => exact hlock
  cases h with
  | suspend ht hp hperform h => exact hperf (nextOp_eq_some ht hp) hG h
  | answer ht hp hperform h =>
    have hfree := hperf (nextOp_eq_some ht hp) hG h
    exact hfree
  | _ => exact hlock

/-! ## A free lock -/

/-- A task in an operation takes a step when the operation can be performed. -/
theorem taskRun_isSome {svc : SmartcardService} {s : Server} {i : ℕ} {outcome : Outcome}
    {o : VpcdOp} (hop : s.nextOp i = some o)
    (hperf : ∀ stream, (s.perform i stream outcome o).isSome) :
    (step svc s (.taskRun i outcome)).isSome := by
  obtain ⟨t, stream, k, ht, hp⟩ := exists_of_nextOp hop
  obtain ⟨⟨answer, stream', s'⟩, hs'⟩ := Option.isSome_iff_exists.mp (hperf stream)
  simp only [step, ht, taskRun, hp, hs']
  cases answer <;> rfl

/-- The queue of every channel is there, so that a request can be handed to it, or
waits for room. -/
theorem sendCommand_isSome {s : Server} (hh : s.History) (hlock : s.lock = none) (i : ℕ)
    (sid : String) (command : Command) (readerName : String) :
    (s.sendCommand i sid command readerName).isSome := by
  unfold sendCommand
  rw [hlock]
  dsimp only
  split
  · rfl
  · rfl
  · rename_i issued hissue
    obtain ⟨session, channel, hsession, hch, hst, -⟩ := Shared.issue_eq_ok hissue
    have hchannel : s.shared.channelOf sid = some issued.stream := by
      rw [Shared.channelOf, hsession, hst]
      simp [hch]
    obtain ⟨p, hbound, -⟩ := hh.channel sid _ hchannel
    obtain ⟨st, hstream, -⟩ := Option.map_eq_some_iff.mp hbound
    unfold enqueue
    dsimp only
    rw [hstream]
    dsimp only
    split <;> rfl

theorem responsive_of_lock {svc : SmartcardService} {s : Server} (hh : s.History)
    (hlock : s.lock = none) : Responsive svc s where
  heartbeat := by intro sid; simp [step, locked, hlock]
  report := by intro req; simp [step, locked, hlock]
  response := by
    intro response
    simp only [step, locked, hlock]
    split <;> rfl
  handler := by
    intro i st hi hphase
    simp only [step, hi, streamTurn]
    rcases hphase with ⟨r, hp⟩ | ⟨r, sid, hp, hsid⟩ | hp
    · simp only [hp, hlock]
      cases s.shared.getSession r.sessionId <;> rfl
    · simp [hp, hlock, hsid]
    · simp only [hp, hlock]
      cases st.sessionId <;> rfl
  look := by
    intro i outcome sid hop
    refine taskRun_isSome hop fun stream => ?_
    simp [perform, hlock]
  forward := by
    intro i outcome sid command readerName hop
    refine taskRun_isSome hop fun stream => ?_
    rw [perform, Option.isSome_map]
    exact sendCommand_isSome hh hlock i sid command readerName

theorem unfrozen_of_lock {svc : SmartcardService} {s : Server} (hh : s.History)
    (hlock : s.lock = none) : Unfrozen svc s := by
  refine ⟨fun b hb => ?_, responsive_of_lock hh hlock⟩
  rw [hlock] at hb
  cases hb

/-! ## The theorem on runs -/

/-- A command for a session with a channel is issued on that channel. -/
theorem exists_issued {t : Shared} {sid : String} {j : ℕ} (h : t.channelOf sid = some j)
    (command : Command) (readerName : String) :
    ∃ issued, t.issue sid command readerName = some (.ok issued) ∧ issued.stream = j := by
  unfold Shared.channelOf at h
  obtain ⟨session, hsession, hchannel⟩ := Option.bind_eq_some_iff.mp h
  obtain ⟨channel, hch, rfl⟩ := Option.map_eq_some_iff.mp hchannel
  unfold Shared.issue Session.sendCommandAsync
  simp [hsession, hch]

/-- A command handed to a full queue freezes the server. -/
theorem frozen_of_not_hasRoom (svc : SmartcardService) {s : Server} {a : Action}
    (hlock : s.lock = none) (hG : s.hasRoom a = false) :
    ∃ s' b, step svc s a = some s' ∧ s'.Frozen b := by
  unfold hasRoom at hG
  split at hG
  · rename_i i outcome
    split at hG
    · rename_i sid command readerName hop
      obtain ⟨j, hchannel, hfull⟩ :
          ∃ j, s.shared.channelOf sid = some j ∧ s.queueFull j = true := by
        rw [targetStream, hlock] at hG
        cases hch : s.shared.channelOf sid with
        | none => simp [hch] at hG
        | some j => exact ⟨j, rfl, by simpa [hch] using hG⟩
      obtain ⟨st, hst, halive, hlength⟩ := queueFull_iff.mp hfull
      obtain ⟨issued, hissue, rfl⟩ := exists_issued hchannel command readerName
      obtain ⟨t, stream, k, ht, hp⟩ := exists_of_nextOp hop
      have hsend := Mpsc.send_eq_full_iff (v := issued.request).mpr ⟨halive, hlength⟩
      have hstep : step svc s (.taskRun i outcome) = some { s with
          shared := issued.shared
          lock := some ⟨i, issued.request, issued.stream, issued.rx⟩ } := by
        simp only [step, ht, taskRun, hp, perform, sendCommand, hlock, hissue, enqueue, hst, hsend,
          Option.map_some]
      exact ⟨_, _, hstep, rfl, hfull⟩
    · cases hG
  · cases hG

/-- **A slow client cannot freeze the server as long as there is room in its queue**:
the states of a run from the start are all unfrozen exactly if every command of the
run is handed to a queue that has room. -/
theorem unfrozen_iff_hasRoom (svc : SmartcardService) (as : List Action) :
    StepRun.StepsMeet (step svc) (fun s a => ∀ s', step svc s a = some s' → Unfrozen svc s')
        init as ↔
      StepRun.StepsMeet (step svc) (fun s a => s.hasRoom a = true) init as := by
  have hiff : ∀ s a, s.Reachable svc ∧ s.lock = none →
      ((∀ s', step svc s a = some s' → Unfrozen svc s') ↔ s.hasRoom a = true) := by
    rintro s a ⟨hs, hlock⟩
    constructor
    · intro hG
      by_contra hroom
      obtain ⟨s', b, hstep, hfrozen⟩ :=
        frozen_of_not_hasRoom svc hlock (by simpa using hroom)
      have hs' : s'.Reachable svc := hs.snoc hstep
      exact hfrozen.not_unfrozen hs'.sound (hG s' hstep)
    · intro hroom s' hstep
      have hs' : s'.Reachable svc := hs.snoc hstep
      exact unfrozen_of_lock hs'.history ((step_transition hstep).lock_eq_none hlock hroom)
  refine StepRun.stepsMeet_congr (P := fun s => s.Reachable svc ∧ s.lock = none) ?_ hiff
    ⟨.refl _, rfl⟩ as
  rintro s a s' hP hG hstep
  exact ⟨hP.1.snoc hstep, (step_transition hstep).lock_eq_none hP.2 ((hiff s a hP).mp hG)⟩

/-! ## A client that never reads -/

/-- The settings of the run below. -/
def defaultService : SmartcardService := ⟨"127.0.0.1", 35963, true⟩

/-- The client of the run below. -/
def backlogClient : VpcdClient := VpcdClient.new.setTarget "s" "r"

/-- A state of the run below: the vpcd task 0 has `p` before it and these segments to
read, and `n` commands are in the queue of the stream 0, which the client does not
read. -/
structure Backlog (s : Server) (p : VpcdProgram (Bool × VpcdClient)) (segments : List Bytes)
    (n : ℕ) : Prop where
  reachable : s.Reachable defaultService
  lock : s.lock = none
  task : ∃ t, s.tasks[0]? = some t ∧ t.phase = .connected ⟨segments, .unexpectedEof⟩ p
  channel : s.shared.channelOf "s" = some 0
  queue : ∃ st, s.streams[0]? = some st ∧ st.queue.receiverAlive = true ∧
    st.queue.capacity = 100 ∧ st.queue.queue.length = n

/-- The task gets the answer to its operation. -/
theorem Backlog.answer {s s₁ : Server} {o : VpcdOp}
    {k : VpcdRet o → VpcdProgram (Bool × VpcdClient)} {segments segments' : List Bytes} {n m : ℕ}
    (h : s.Backlog (.op o k) segments n) (outcome : Outcome) {r : VpcdRet o}
    (hperf : s.perform 0 ⟨segments, .unexpectedEof⟩ outcome o =
      some (some r, ⟨segments', .unexpectedEof⟩, s₁))
    (htasks : s₁.tasks = s.tasks) (hlock : s₁.lock = none)
    (hchannel : s₁.shared.channelOf "s" = some 0)
    (hqueue : ∃ st, s₁.streams[0]? = some st ∧ st.queue.receiverAlive = true ∧
      st.queue.capacity = 100 ∧ st.queue.queue.length = m) :
    ∃ s', Backlog s' (k r) segments' m ∧ s'.shared = s₁.shared := by
  obtain ⟨t, ht, hp⟩ := h.task
  have hlt := (List.getElem?_eq_some_iff.mp ht).1
  have hstep : step defaultService s (.taskRun 0 outcome) =
      some ((s₁.setTask 0 { t with phase := .connected ⟨segments', .unexpectedEof⟩ (k r) }).record
        ⟨0, t.connections, ⟨o, r⟩⟩) := by
    simp only [step, ht, taskRun, hp, hperf]
  have htask : (s₁.tasks.set 0 { t with
      phase := .connected ⟨segments', .unexpectedEof⟩ (k r) })[0]? = some { t with
      phase := .connected ⟨segments', .unexpectedEof⟩ (k r) } := by
    rw [htasks]
    exact List.getElem?_set_self hlt
  exact ⟨_, ⟨h.reachable.snoc hstep, hlock, ⟨_, htask, rfl⟩, hchannel, hqueue⟩, rfl⟩

/-- The operation concerns the connection only. -/
theorem Backlog.onConnection {s : Server} {o : VpcdOp}
    {k : VpcdRet o → VpcdProgram (Bool × VpcdClient)} {segments segments' : List Bytes} {n : ℕ}
    (h : s.Backlog (.op o k) segments n) (outcome : Outcome) {r : VpcdRet o}
    (hperf : s.perform 0 ⟨segments, .unexpectedEof⟩ outcome o =
      some (some r, ⟨segments', .unexpectedEof⟩, s)) :
    ∃ s', Backlog s' (k r) segments' n := by
  obtain ⟨s', h', -⟩ := h.answer outcome hperf rfl h.lock h.channel h.queue
  exact ⟨s', h'⟩

/-- The task finds the session with its channel. -/
theorem Backlog.look {s : Server}
    {k : VpcdRet (.getSession "s") → VpcdProgram (Bool × VpcdClient)} {segments : List Bytes}
    {n : ℕ} (h : s.Backlog (.op (.getSession "s") k) segments n) :
    ∃ s' session, session.commandChannel.isSome = true ∧
      Backlog s' (k (some session)) segments n := by
  obtain ⟨session, hsession, hch⟩ := Option.bind_eq_some_iff.mp h.channel
  obtain ⟨channel, hch, -⟩ := Option.map_eq_some_iff.mp hch
  have hperf : s.perform 0 ⟨segments, .unexpectedEof⟩ .proceed (.getSession "s") =
      some (some (some session), ⟨segments, .unexpectedEof⟩, s) := by
    simp [perform, h.lock, hsession]
  obtain ⟨s', h', -⟩ := h.answer .proceed hperf rfl h.lock h.channel h.queue
  exact ⟨s', session, by rw [hch]; rfl, h'⟩

/-- The command goes into the queue while there is room. -/
theorem Backlog.send {s : Server} {command : Command}
    {k : VpcdRet (.sendCommand "s" command "r") → VpcdProgram (Bool × VpcdClient)}
    {segments : List Bytes} {n : ℕ}
    (h : s.Backlog (.op (.sendCommand "s" command "r") k) segments n) (hn : n < 100) :
    ∃ s' rx w, Backlog s' (k (some (.ok rx))) segments (n + 1) ∧
      s'.shared.waiters[rx]? = some w ∧ w.oneshot = Oneshot.new := by
  obtain ⟨issued, hissue, hstream⟩ := exists_issued h.channel command "r"
  obtain ⟨session, channel, -, -, -, hrx, -, hshared⟩ := Shared.issue_eq_ok hissue
  obtain ⟨st, hst, halive, hcap, hlen⟩ := h.queue
  have hroom : st.queue.queue.length < st.queue.capacity := by rw [hlen, hcap]; exact hn
  have hchannel := ((Shared.Traffic.issue hissue).channelOf "s").1
  obtain ⟨queue, hsend⟩ : ∃ queue, st.queue.send issued.request = .sent queue := by
    unfold Mpsc.send
    rw [if_pos halive, dif_pos hroom]
    exact ⟨_, rfl⟩
  obtain ⟨-, hqueue, halive', hcap'⟩ := Mpsc.send_eq_sent hsend
  have hlt := (List.getElem?_eq_some_iff.mp hst).1
  have hperf : s.perform 0 ⟨segments, .unexpectedEof⟩ .proceed (.sendCommand "s" command "r") =
      some (some (some (.ok issued.rx)), ⟨segments, .unexpectedEof⟩, { s with
        shared := issued.shared
        streams := s.streams.set 0 { st with queue := queue }
        lock := none }) := by
    simp only [perform, sendCommand, h.lock, hissue, enqueue, hstream, hst, hsend, Option.map_some]
  obtain ⟨s', h', hsh⟩ := h.answer .proceed hperf rfl rfl (hchannel.trans h.channel)
    ⟨_, List.getElem?_set_self hlt, halive', hcap'.trans hcap, by
      rw [hqueue, List.length_append, hlen, List.length_singleton]⟩
  refine ⟨s', issued.rx, Waiter.new "s" issued.request issued.stream, h', ?_, rfl⟩
  rw [hsh, hshared, hrx]
  simp

/-- The command times out, and stays in the queue. -/
theorem Backlog.timeout {s : Server} {rx : ℕ}
    {k : VpcdRet (.recvResponse rx) → VpcdProgram (Bool × VpcdClient)} {segments : List Bytes}
    {n : ℕ} (h : s.Backlog (.op (.recvResponse rx) k) segments n) {w : Waiter}
    (hw : s.shared.waiters[rx]? = some w) (hnew : w.oneshot = Oneshot.new) :
    ∃ s', Backlog s' (k (.error .elapsed)) segments n := by
  have hperf : s.perform 0 ⟨segments, .unexpectedEof⟩ (.fail "deadline has elapsed")
      (.recvResponse rx) = some (some (.error .elapsed), ⟨segments, .unexpectedEof⟩,
        { s with shared := s.shared.dropReceiver rx }) := by
    simp [perform, recvResponse, hw, hnew, Oneshot.new, Oneshot.poll]
  obtain ⟨s', h', -⟩ := h.answer (.fail "deadline has elapsed") hperf rfl h.lock h.channel h.queue
  exact ⟨s', h'⟩

/-- The next turn of the message loop. -/
theorem Backlog.turn {s : Server} {client : VpcdClient} {segments : List Bytes} {n : ℕ}
    (h : s.Backlog (.pure (true, client)) segments n) :
    ∃ s', Backlog s' client.messageLoopBody segments n := by
  obtain ⟨t, ht, hp⟩ := h.task
  have hlt := (List.getElem?_eq_some_iff.mp ht).1
  have hstep : step defaultService s (.taskRun 0 .proceed) = some (s.setTask 0 { t with
      client := client
      phase := .connected ⟨segments, .unexpectedEof⟩ client.messageLoopBody }) := by
    simp only [step, ht, taskRun, hp]
  exact ⟨_, h.reachable.snoc hstep, h.lock, ⟨_, List.getElem?_set_self hlt, rfl⟩, h.channel,
    h.queue⟩

/-- `m` APDUs from vpcd. -/
def apdus : ℕ → List Bytes
  | 0 => []
  | m + 1 => [0, 2] :: [0x00, 0xA4] :: apdus m

/-- What is left of `receiveMessage` after the length 2. -/
def afterLength (r : Except IoError (Buffer 2)) :
    VpcdProgram (Except String (Option VpcdMessage)) :=
  match r with
  | .error e => .pure (.error s!"Failed to read message data: {e.text}")
  | .ok data => .pure (.ok (some (.apdu data.1)))

theorem receiveMessage_two : ∃ k, receiveMessage = .op (.readExact 2) k ∧
    k (.ok ⟨[0, 2], rfl⟩) = .op (.readExact 2) afterLength := by
  refine ⟨_, rfl, ?_⟩
  refine congrArg (op (VpcdOp.readExact 2)) (funext fun r => ?_)
  cases r <;> rfl

/-- The next APDU comes in. -/
theorem Backlog.receive {s : Server}
    {f : Except String (Option VpcdMessage) → VpcdProgram (Bool × VpcdClient)} {m n : ℕ}
    (h : s.Backlog (receiveMessage.bind f) (apdus (m + 1)) n) :
    ∃ s', Backlog s' (f (.ok (some (.apdu [0x00, 0xA4])))) (apdus m) n := by
  obtain ⟨k, hk, htwo⟩ := receiveMessage_two
  rw [hk, op_bind] at h
  obtain ⟨s₁, h₁⟩ : ∃ s₁,
      Backlog s₁ ((k (.ok ⟨[0, 2], rfl⟩)).bind f) ([0x00, 0xA4] :: apdus m) n :=
    h.onConnection .proceed rfl
  rw [htwo, op_bind] at h₁
  refine h₁.onConnection (r := .ok ⟨[0x00, 0xA4], rfl⟩) .proceed ?_
  cases m <;> rfl

/-- **One command more.**  An APDU that times out leaves its request in the queue. -/
theorem Backlog.next {s : Server} {m n : ℕ}
    (h : s.Backlog backlogClient.messageLoopBody (apdus (m + 1)) n) (hn : n < 100) :
    ∃ s', Backlog s' backlogClient.messageLoopBody (apdus m) (n + 1) := by
  obtain ⟨s₂, h₂⟩ := h.receive
  obtain ⟨s₃, h₃⟩ := h₂.onConnection .proceed rfl
  obtain ⟨s₄, session, hsome, h₄⟩ := h₃.look
  obtain ⟨id, clientId, createdAt, lastActivity, readers, channel⟩ := session
  obtain ⟨channel, rfl⟩ := Option.isSome_iff_exists.mp hsome
  obtain ⟨s₅, rx, w, h₅, hw, hnew⟩ := h₄.send hn
  obtain ⟨s₆, h₆⟩ := h₅.timeout hw hnew
  obtain ⟨s₇, h₇⟩ := h₆.onConnection .proceed rfl
  obtain ⟨s₈, h₈⟩ := h₇.onConnection .proceed rfl
  obtain ⟨s₉, h₉⟩ := h₈.onConnection .proceed rfl
  obtain ⟨s₁₀, h₁₀⟩ := h₉.onConnection .proceed rfl
  exact h₁₀.turn

/-- A client with a card in its reader opens its command channel. -/
def clientConnects : List Action :=
  [.establishSession "s" ⟨"client", "1"⟩, .updateReaderInfo ⟨"s", "r", [0x3B], true⟩,
    .startClient 0, .commandChannel, .streamNext 0 (some (.ok ⟨0, "s", true, "", none⟩)),
    .streamTurn 0]

/-- vpcd accepts the connection and will send `m` APDUs. -/
theorem exists_backlog_zero (m : ℕ) :
    ∃ s, Backlog s backlogClient.messageLoopBody (apdus m) 0 := by
  have hsome : (StepRun.run (step defaultService) init clientConnects).isSome := by decide
  obtain ⟨s, hs⟩ := Option.isSome_iff_exists.mp hsome
  have hs' : (StepRun.run (step defaultService) init clientConnects).getD init = s := by
    rw [hs]
    rfl
  have htask : s.tasks[0]? = some ⟨backlogClient, "127.0.0.1", 35963, 0, 0, .connecting⟩ := by
    rw [← hs']
    rfl
  have hstream : ∃ st, s.streams[0]? = some st ∧ st.queue = Mpsc.new 100 := by
    rw [← hs']
    exact ⟨_, rfl, rfl⟩
  have hchannel : s.shared.channelOf "s" = some 0 := by
    rw [← hs']
    decide
  have hlock : s.lock = none := by
    rw [← hs']
    rfl
  have hstep : step defaultService s (.taskConnect 0 (.ok ⟨apdus m, .unexpectedEof⟩)) =
      some (s.setTask 0 ⟨backlogClient, "127.0.0.1", 35963, 0, 1,
        .connected ⟨apdus m, .unexpectedEof⟩ backlogClient.messageLoopBody⟩) := by
    simp only [step, htask, taskConnect]
    rfl
  obtain ⟨st, hst, hqueue⟩ := hstream
  have hlt := (List.getElem?_eq_some_iff.mp htask).1
  have hreach : Reachable defaultService s := ⟨_, hs⟩
  exact ⟨_, hreach.snoc hstep, hlock, ⟨_, List.getElem?_set_self hlt, rfl⟩, hchannel,
    st, hst, by rw [hqueue]; exact ⟨rfl, rfl, rfl⟩⟩

/-- The commands of a client that reads none pile up. -/
theorem exists_backlog {n : ℕ} (hn : n ≤ 100) (m : ℕ) :
    ∃ s, Backlog s backlogClient.messageLoopBody (apdus m) n := by
  induction n generalizing m with
  | zero => exact exists_backlog_zero m
  | succ n ih =>
    obtain ⟨s, hs⟩ := ih (by omega) (m + 1)
    exact hs.next (by omega)

/-- The hundred-and-first command for a client that does not read freezes the server:
the task that sends it keeps the lock whatever its surroundings answer, and no heartbeat
of any session gets through. -/
theorem not_unfrozen_fullQueue :
    ∃ s b, Reachable defaultService s ∧ s.lock = some b ∧
      (∀ outcome s', step defaultService s (.taskRun b.task outcome) = some s' →
        s'.lock = some b) ∧
      (∀ sid, step defaultService s (.heartbeat sid) = none) ∧ ¬ Unfrozen defaultService s := by
  obtain ⟨s, hs⟩ := exists_backlog (le_refl 100) 1
  obtain ⟨s₁, h₁⟩ := hs.receive
  obtain ⟨s₂, h₂⟩ := h₁.onConnection .proceed rfl
  obtain ⟨s₃, session, hsome, h₃⟩ := h₂.look
  obtain ⟨id, clientId, createdAt, lastActivity, readers, channel⟩ := session
  obtain ⟨channel, rfl⟩ := Option.isSome_iff_exists.mp hsome
  obtain ⟨t, ht, hp⟩ := h₃.task
  have hop : s₃.nextOp 0 = some (.sendCommand "s" (.apdu ⟨[0x00, 0xA4]⟩) "r") := by
    rw [nextOp_eq_some ht hp]
  obtain ⟨st, hst, halive, hcap, hlen⟩ := h₃.queue
  have hfull : s₃.queueFull 0 = true :=
    queueFull_iff.mpr ⟨st, hst, halive, by rw [hcap, hlen]⟩
  have hroom : s₃.hasRoom (.taskRun 0 .proceed) = false := by
    simp [hasRoom, hop, targetStream, h₃.lock, h₃.channel, hfull]
  obtain ⟨s₄, b, hstep, hfrozen⟩ := frozen_of_not_hasRoom defaultService h₃.lock hroom
  have hreach : Reachable defaultService s₄ := h₃.reachable.snoc hstep
  refine ⟨s₄, b, hreach, hfrozen.1, ?_, ?_, hfrozen.not_unfrozen hreach.sound⟩
  · intro outcome s' hs'
    exact hfrozen.holder hreach.sound hs'
  · intro sid
    simp [step, locked, hfrozen.1]

end Server

end RemoteSmartcard
