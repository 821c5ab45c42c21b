/-
# The order in which commands are issued

A command gets its id and goes into the queue of its stream under one hold of the
lock: while a sender is suspended on a full queue nobody else issues a command
(`HeldBy`).  So the commands are placed in the order of their ids (`Ordered`), and what
has been placed on a stream is what has left its queue and what is still there
(`Flow`).
-/
import RemoteSmartcard.ChannelHistory
import RemoteSmartcard.Receivers
import RemoteSmartcard.Release

namespace RemoteSmartcard

/-! ## The accepted commands -/

/-- The receiver of the command that an operation has had accepted. -/
def acceptedBy : (o : VpcdOp) → VpcdRet o → Option ℕ
  | .sendCommand _ _ _, some (.ok rx) => some rx
  | _, _ => none

/-- What a task does on its own connection accepts no command. -/
theorem acceptedBy_of_isLocal {o : VpcdOp} (ho : o.IsLocal) (r : VpcdRet o) :
    acceptedBy o r = none := by
  cases o with
  | getSession _ | sendCommand _ _ _ | recvResponse _ => exact absurd ho id
  | _ => rfl

/-- The request of a command, if it was issued on the stream `j`. -/
def Shared.requestOn (t : Shared) (j rx : ℕ) : Option CommandRequest :=
  t.waiters[rx]?.bind fun w => if w.stream = j then some w.request else none

namespace Server

/-- The receivers of the accepted commands, in the order in which they were accepted. -/
def accepted (s : Server) : List ℕ :=
  s.log.filterMap fun e => acceptedBy e.event.op e.event.answer

/-- The commands placed on the stream `j`, in order. -/
def placed (s : Server) (j : ℕ) : List CommandRequest :=
  s.accepted.filterMap (s.shared.requestOn j)

/-- The queue of the stream `j`. -/
def queueOf (s : Server) (j : ℕ) : Option (Mpsc CommandRequest) :=
  s.streams[j]?.map (·.queue)

/-- The queue of the stream `j` after an action by which no command is accepted. -/
def queueAfter (s : Server) (j : ℕ) : Action → Option (Mpsc CommandRequest)
  | .takeCommand i =>
    if i = j then (s.queueOf j).bind fun queue => queue.recv.map (·.2) else s.queueOf j
  | .closeReceiver i => if i = j then (s.queueOf j).map Mpsc.close else s.queueOf j
  | .commandChannel => if j = s.streams.length then some (Mpsc.new 100) else s.queueOf j
  | _ => s.queueOf j

/-- A step of one stream changes its own queue. -/
theorem queueOf_set {s s' : Server} {i : ℕ} {st st' : CommandStream}
    (hi : s.streams[i]? = some st) (hset : s'.streams = s.streams.set i st') (j : ℕ) :
    s'.queueOf j = if i = j then some st'.queue else s.queueOf j := by
  unfold queueOf
  rw [hset]
  exact StepRun.map_getElem?_set CommandStream.queue hi st' j

/-- A handler task moves on, and the queues stay. -/
theorem queueOf_set_same {s s' : Server} {i : ℕ} {st st' : CommandStream}
    (hi : s.streams[i]? = some st) (hset : s'.streams = s.streams.set i st')
    (hqueue : st'.queue = st.queue) (j : ℕ) : s'.queueOf j = s.queueOf j := by
  unfold queueOf
  rw [hset]
  exact StepRun.map_getElem?_set_same CommandStream.queue hi hqueue j

/-- **What a step does to the queues.**  It has one command accepted, which is the newest
there is, and puts its request into the queue; or none. -/
inductive QueueStep (s : Server) (a : Action) (s' : Server) : Prop
  | sent {b : BlockedSend} {st : CommandStream} {queue : Mpsc CommandRequest}
      (hissued : s.lock = some b ∨ s.lock = none ∧ b.rx = s.shared.waiters.length)
      (hfree : s'.lock = none) (hnewest : b.rx + 1 = s'.shared.waiters.length)
      (hrequest : ∀ j, s'.shared.requestOn j b.rx =
        if b.stream = j then some b.request else none)
      (haccepted : s'.accepted = s.accepted ++ [b.rx])
      (hst : s.streams[b.stream]? = some st) (hq : st.queue.send b.request = .sent queue)
      (hstreams : s'.streams = s.streams.set b.stream { st with queue := queue })
      (ha : ∀ j, s.queueAfter j a = s.queueOf j) : QueueStep s a s'
  | kept (haccepted : s'.accepted = s.accepted) (hqueue : ∀ j, s'.queueOf j = s.queueAfter j a) :
      QueueStep s a s'

/-- The log gets one operation more. -/
theorem accepted_record {s s' : Server} {e : LogEntry} (hlog : s'.log = s.log ++ [e]) :
    s'.accepted = s.accepted ++ (acceptedBy e.event.op e.event.answer).toList := by
  unfold accepted
  rw [hlog, List.filterMap_append]
  congr 1

/-- The accepted commands are those of the log. -/
theorem accepted_congr {s s' : Server} (hlog : s'.log = s.log) : s'.accepted = s.accepted := by
  unfold accepted
  rw [hlog]

/-- A waiter has its request on the stream it was issued for. -/
theorem requestOn_of_getElem? {t : Shared} {rx : ℕ} {w : Waiter} (hw : t.waiters[rx]? = some w)
    (j : ℕ) : t.requestOn j rx = if w.stream = j then some w.request else none := by
  unfold Shared.requestOn
  rw [hw]
  rfl

/-- The request of the command that holds the lock. -/
theorem HeldBy.requestOn {s : Server} {b : BlockedSend} (h : s.HeldBy b) (j : ℕ) :
    s.shared.requestOn j b.rx = if b.stream = j then some b.request else none := by
  obtain ⟨w, hw, hst, hreq, -⟩ := h.pending
  rw [requestOn_of_getElem? hw, hst, hreq]

/-- A command just issued would hold the lock. -/
theorem heldBy_issue {s : Server} {sid : String} {command : Command} {readerName : String}
    {issued : Issued} (hissue : s.shared.issue sid command readerName = some (.ok issued))
    (i : ℕ) : HeldBy { s with shared := issued.shared }
      ⟨i, issued.request, issued.stream, issued.rx⟩ := by
  obtain ⟨session, channel, -, -, -, hrx, -, hshared⟩ := Shared.issue_eq_ok hissue
  constructor
  · show issued.rx + 1 = issued.shared.waiters.length
    rw [Shared.length_issue hissue, hrx]
  · refine ⟨Waiter.new sid issued.request issued.stream, ?_, rfl, rfl, rfl⟩
    show issued.shared.waiters[issued.rx]? = _
    rw [hshared, hrx]
    simp

/-- An operation of a vpcd task puts one command into a queue, or none. -/
theorem Performed.queued {s s₁ s' : Server} {i : ℕ} {outcome : Outcome} {o : VpcdOp}
    {r : VpcdRet o} (h : Performed s i outcome o (some r) s₁) (c : ℕ)
    (hheld : ∀ b, s.lock = some b → s.HeldBy b) (hsh : s'.shared = s₁.shared)
    (hstreams : s'.streams = s₁.streams) (hlock : s'.lock = s₁.lock)
    (hlog : s'.log = s.log ++ [⟨i, c, ⟨o, r⟩⟩]) :
    QueueStep s (.taskRun i outcome) s' := by
  have hsame : s₁.streams = s.streams → acceptedBy o r = none →
      QueueStep s (.taskRun i outcome) s' := by
    intro hst hnone
    refine .kept ?_ fun j => ?_
    · rw [accepted_record hlog, hnone]
      exact List.append_nil _
    · show s'.queueOf j = s.queueOf j
      rw [queueOf, hstreams, hst]
      rfl
  cases h with
  | onConnection ho => exact hsame rfl (acceptedBy_of_isLocal ho r)
  | looked | notFound | notConnected | response | released | elapsed => exact hsame rfl rfl
  | @issued sid command readerName issued answer s₁ hfree hissue hhanded =>
    have hnew := heldBy_issue (s := s) hissue i
    obtain ⟨session, channel, -, -, -, hrx, -, -⟩ := Shared.issue_eq_ok hissue
    cases hhanded with
    | closed hst hclosed => exact hsame rfl rfl
    | sent hst hq =>
      refine .sent (b := ⟨i, issued.request, issued.stream, issued.rx⟩) (Or.inr ⟨hfree, hrx⟩) hlock
        ?_ ?_ (accepted_record hlog) hst hq hstreams fun j => rfl
      · rw [hsh]
        exact hnew.newest
      · rw [hsh]
        exact hnew.requestOn
  | @resumed sid command readerName b answer s₁ hheldlock htask hhanded =>
    cases hhanded with
    | closed hst hclosed => exact hsame rfl rfl
    | sent hst hq =>
      refine .sent (Or.inl hheldlock) hlock ?_ ?_ (accepted_record hlog) hst hq hstreams
        fun j => rfl
      · rw [hsh]
        exact (hheld b hheldlock).newest
      · rw [hsh]
        exact (hheld b hheldlock).requestOn

/-- So does any step; only `takeCommand` and the end of a receiver take commands out. -/
theorem Transition.queued {svc : SmartcardService} {s s' : Server} {a : Action}
    (h : Transition svc s a s') (hheld : ∀ b, s.lock = some b → s.HeldBy b) : QueueStep s a s' := by
  cases h with
  | newStream =>
    refine .kept rfl fun j => ?_
    show (s.streams ++ [_])[j]?.map _ = if j = s.streams.length then _ else s.queueOf j
    rw [StepRun.getElem?_concat]
    split_ifs
    · rfl
    · rfl
  | item hi hp =>
    refine .kept rfl fun j => queueOf_set_same hi rfl ?_ j
    unfold streamNext
    split
    · split <;> rfl
    · rfl
    · rfl
  | @take i st request queue hi hr =>
    refine .kept rfl fun j => ?_
    rw [queueOf_set hi rfl]
    dsimp only [queueAfter]
    split_ifs with hij
    · subst hij
      simp [queueOf, hi, hr]
    · rfl
  | @close i st hi =>
    refine .kept rfl fun j => ?_
    rw [queueOf_set hi rfl]
    dsimp only [queueAfter]
    split_ifs with hij
    · subst hij
      simp [queueOf, hi]
    · rfl
  | register hlock hi hp hs => exact .kept rfl (queueOf_set_same hi rfl rfl)
  | unknown hlock hi hp hs => exact .kept rfl (queueOf_set_same hi rfl rfl)
  | respond hlock hi hp hsid => exact .kept rfl (queueOf_set_same hi rfl rfl)
  | cleanup hlock hi hp hsid => exact .kept rfl (queueOf_set_same hi rfl rfl)
  | unbound hi hp hsid => exact .kept rfl (queueOf_set_same hi rfl rfl)
  | @suspend i outcome t stream stream' o k s' ht hp hperform h =>
    refine .kept (accepted_congr (by rw [h.eq_frame])) fun j => ?_
    have hstreams : s'.streams = s.streams := by
      cases h with
      | issued hlock hissue hhanded =>
        cases hhanded
        rfl
      | resumed hlock htask hhanded =>
        cases hhanded
        rfl
    show s'.queueOf j = s.queueOf j
    rw [queueOf, hstreams]
    rfl
  | @answer i outcome t stream stream' o k r s₁ ht hp hperform h =>
    refine h.queued t.connections hheld rfl rfl rfl ?_
    show s₁.log ++ _ = _
    rw [h.eq_frame]
  | _ => exact .kept rfl fun j => rfl

/-! ## The order of the ids -/

/-- The commands have been accepted in the order in which they were issued, and the one
that waits with the lock is newer than all of them. -/
structure Ordered (s : Server) : Prop where
  increasing : s.accepted.Pairwise (· < ·)
  issued : ∀ rx ∈ s.accepted, rx < s.shared.waiters.length
  held : ∀ b, s.lock = some b → ∀ rx ∈ s.accepted, rx < b.rx

/-- At the start no command has been accepted. -/
theorem ordered_init : init.Ordered where
  increasing := List.Pairwise.nil
  issued := by intro rx hrx; cases hrx
  held := by intro b hb; cases hb

/-- The command accepted next is newer than those accepted before. -/
theorem Ordered.lt_of_issued {s : Server} (ho : s.Ordered) {b : BlockedSend}
    (hissued : s.lock = some b ∨ s.lock = none ∧ b.rx = s.shared.waiters.length) :
    ∀ rx ∈ s.accepted, rx < b.rx := by
  intro rx hrx
  rcases hissued with hlock | ⟨-, hlength⟩
  · exact ho.held b hlock rx hrx
  · rw [hlength]
    exact ho.issued rx hrx

/-- **Each step** keeps the order: what is accepted is the newest command there is. -/
theorem Transition.ordered {svc : SmartcardService} {s s' : Server} {a : Action}
    (h : Transition svc s a s') (hs : s.Sound) (hheld : ∀ b, s.lock = some b → s.HeldBy b)
    (ho : s.Ordered) : s'.Ordered := by
  have hlength := (h.effect.consistent hs).2.length_le
  cases h.queued hheld with
  | @sent b st queue hissued hfree hnewest hrequest haccepted hst hq hstreams ha =>
    have hlt := ho.lt_of_issued hissued
    constructor
    · rw [haccepted, List.pairwise_append]
      refine ⟨ho.increasing, List.pairwise_singleton _ _, fun rx hrx rx' hrx' => ?_⟩
      rw [List.mem_singleton.mp hrx']
      exact hlt rx hrx
    · intro rx hrx
      rw [haccepted, List.mem_append] at hrx
      rcases hrx with hrx | hrx
      · exact lt_of_lt_of_le (ho.issued rx hrx) hlength
      · rw [List.mem_singleton.mp hrx]
        omega
    · intro b' hb'
      rw [hfree] at hb'
      cases hb'
  | kept haccepted hqueue =>
    constructor
    · rw [haccepted]
      exact ho.increasing
    · intro rx hrx
      rw [haccepted] at hrx
      exact lt_of_lt_of_le (ho.issued rx hrx) hlength
    · intro b hb rx hrx
      rw [haccepted] at hrx
      rcases h.holds hb with ⟨hlock, -⟩ | ⟨i, sid, command, readerName, issued, -, hissue, -, rfl⟩
      · exact ho.held b hlock rx hrx
      · obtain ⟨session, channel, -, -, -, hrx', -, -⟩ := Shared.issue_eq_ok hissue
        show rx < issued.rx
        rw [hrx']
        exact ho.issued rx hrx

/-- In every reachable state the commands were accepted in the order of their ids. -/
theorem Reachable.ordered {svc : SmartcardService} {s : Server} (h : s.Reachable svc) :
    s.Ordered := by
  refine (StepRun.invariant_reaches (P := fun s => (s.Sound ∧ ∀ b, s.lock = some b → s.HeldBy b) ∧
    s.Ordered) ?_ ⟨⟨sound_init, fun b hb => by cases hb⟩, ordered_init⟩ h).2
  intro s a s' hP hstep
  have htrans := step_transition hstep
  exact ⟨⟨htrans.effect.sound hP.1.1, fun b => htrans.heldBy hP.1.2⟩,
    htrans.ordered hP.1.1 hP.1.2 hP.2⟩

/-- **The ids on a stream are strictly increasing**, as long as they do not wrap. -/
theorem Reachable.increasing_placed {svc : SmartcardService} {s : Server} (h : s.Reachable svc)
    (hlt : s.shared.waiters.length < 2 ^ 64) (j : ℕ) :
    ((s.placed j).map (·.commandId)).Pairwise (· < ·) := by
  -- the id of the command `rx` is `rx + 1`
  have hid : ∀ rx request, s.shared.requestOn j rx = some request →
      rx < s.shared.waiters.length ∧ request.commandId.toNat = rx + 1 := by
    intro rx request hrequest
    obtain ⟨w, hw, hif⟩ := Option.bind_eq_some_iff.mp hrequest
    split_ifs at hif with hst
    cases hif
    have hrx := (List.getElem?_eq_some_iff.mp hw).1
    refine ⟨hrx, ?_⟩
    rw [h.sound.consistent.commandId rx w hw, UInt64.toNat_ofNat']
    exact Nat.mod_eq_of_lt (by omega)
  rw [List.pairwise_map, placed, List.pairwise_filterMap]
  refine h.ordered.increasing.imp fun {rx rx'} hrx request hrequest request' hrequest' => ?_
  rw [UInt64.lt_iff_toNat_lt, (hid rx request hrequest).2, (hid rx' request' hrequest').2]
  omega

/-! ## The queues -/

/-- What was issued for a stream stays so. -/
theorem requestOn_later {t t' : Shared} (h : t.Later t') {rx : ℕ} (hrx : rx < t.waiters.length)
    (j : ℕ) : t'.requestOn j rx = t.requestOn j rx := by
  have hw := List.getElem?_eq_getElem hrx
  obtain ⟨w', hw', hlater⟩ := h.waiters rx _ hw
  rw [requestOn_of_getElem? hw, requestOn_of_getElem? hw', hlater.stream, hlater.request]

/-- The requests of the accepted commands stay. -/
theorem Ordered.placed_later {s : Server} {t : Shared} (ho : s.Ordered) (h : s.shared.Later t)
    (j : ℕ) : s.accepted.filterMap (t.requestOn j) = s.placed j :=
  List.filterMap_congr fun rx hrx => requestOn_later h (ho.issued rx hrx) j

/-- What a step does to the stream `j`: a request is placed on it and goes to the end of
its queue; or nothing is placed. -/
inductive Flow (s : Server) (a : Action) (s' : Server) (j : ℕ) : Prop
  | sent {request : CommandRequest} {queue queue' : Mpsc CommandRequest}
      (hqueue : s.queueOf j = some queue) (hsend : queue.send request = .sent queue')
      (hqueue' : s'.queueOf j = some queue') (hplaced : s'.placed j = s.placed j ++ [request])
      (ha : s.queueAfter j a = s.queueOf j) : Flow s a s' j
  | kept (hqueue : s'.queueOf j = s.queueAfter j a) (hplaced : s'.placed j = s.placed j) :
      Flow s a s' j

/-- **Each step** places a request at the end of the queue of the stream, or none. -/
theorem Transition.flow {svc : SmartcardService} {s s' : Server} {a : Action}
    (h : Transition svc s a s') (hs : s.Sound) (hheld : ∀ b, s.lock = some b → s.HeldBy b)
    (ho : s.Ordered) (j : ℕ) : Flow s a s' j := by
  have hlater := (h.effect.consistent hs).2
  cases h.queued hheld with
  | @sent b st queue hissued hfree hnewest hrequest haccepted hst hq hstreams ha =>
    have hplaced : s'.placed j =
        s.placed j ++ (if b.stream = j then some b.request else none).toList := by
      rw [placed, haccepted, List.filterMap_append, ho.placed_later hlater, ← hrequest]
      congr 1
    have hqueue := queueOf_set hst hstreams j
    split_ifs at hplaced hqueue with hj
    · subst hj
      exact .sent (by rw [queueOf, hst]; rfl) hq hqueue hplaced (ha b.stream)
    · exact .kept (hqueue.trans (ha j).symm) (by rw [hplaced]; exact List.append_nil _)
  | kept haccepted hqueue =>
    refine .kept (hqueue j) ?_
    rw [placed, haccepted]
    exact ho.placed_later hlater j

/-- And so does a step from any reachable state. -/
theorem Reachable.flow {svc : SmartcardService} {s s' : Server} {a : Action}
    (h : s.Reachable svc) (hstep : step svc s a = some s') (j : ℕ) : Flow s a s' j :=
  (step_transition hstep).flow h.sound h.heldBy h.ordered j

/-- Nothing has been placed on a stream that there is not yet. -/
theorem Reachable.placed_of_le {svc : SmartcardService} {s : Server} (h : s.Reachable svc) {j : ℕ}
    (hj : s.streams.length ≤ j) : s.placed j = [] := by
  rw [placed, List.filterMap_eq_nil_iff]
  intro rx hrx
  have hw := List.getElem?_eq_getElem (h.ordered.issued rx hrx)
  rw [requestOn_of_getElem? hw, if_neg]
  intro hst
  obtain ⟨p, hp, -⟩ := h.history.issued rx _ hw
  rw [hst, bindingOf, List.getElem?_eq_none hj] at hp
  cases hp

/-- Two commands on different streams have different ids. -/
theorem Reachable.commandId_ne {svc : SmartcardService} {s : Server} (h : s.Reachable svc)
    (hlt : s.shared.waiters.length < 2 ^ 64) {i j : ℕ} (hij : i ≠ j)
    {request request' : CommandRequest} (hrequest : request ∈ s.placed i)
    (hrequest' : request' ∈ s.placed j) : request.commandId ≠ request'.commandId := by
  obtain ⟨rx, -, hon⟩ := List.mem_filterMap.mp hrequest
  obtain ⟨rx', -, hon'⟩ := List.mem_filterMap.mp hrequest'
  obtain ⟨w, hw, hif⟩ := Option.bind_eq_some_iff.mp hon
  obtain ⟨w', hw', hif'⟩ := Option.bind_eq_some_iff.mp hon'
  split_ifs at hif hif' with hst hst'
  cases hif
  cases hif'
  intro hid
  obtain rfl := h.sound.commandId_injective hlt hw' hw hid
  obtain rfl := Option.some.inj (hw.symm.trans hw')
  exact hij (hst.symm.trans hst')

/-! ## What has left a queue -/

/-- The commands `out` have left the queue of the stream `j`, in this order; after them
come those in the queue, and that is all as long as the queue has its receiver. -/
def Departed (s : Server) (j : ℕ) (out : List CommandRequest) : Prop :=
  ∃ queue, s.queueOf j = some queue ∧ out ++ queue.queue <+: s.placed j ∧
    (queue.receiverAlive = true → s.placed j = out ++ queue.queue)

/-- A queue is that of a stream. -/
theorem queueOf_eq_some {s : Server} {j : ℕ} {queue : Mpsc CommandRequest}
    (h : s.queueOf j = some queue) : j < s.streams.length := by
  obtain ⟨st, hst, -⟩ := Option.map_eq_some_iff.mp h
  exact (List.getElem?_eq_some_iff.mp hst).1

/-- Unless a command is taken from the stream, its queue stays or is closed. -/
theorem queueAfter_cases {s : Server} {j : ℕ} {queue : Mpsc CommandRequest} {a : Action}
    (hqueue : s.queueOf j = some queue) (ha : a ≠ .takeCommand j) :
    s.queueAfter j a = some queue ∨ s.queueAfter j a = some queue.close := by
  have hlt := queueOf_eq_some hqueue
  cases a with
  | takeCommand i =>
    refine Or.inl ?_
    show (if i = j then _ else s.queueOf j) = _
    rw [if_neg fun hij => ha (by rw [hij]), hqueue]
  | closeReceiver i =>
    show (if i = j then _ else s.queueOf j) = _ ∨ (if i = j then _ else s.queueOf j) = _
    rw [hqueue]
    split_ifs with hij
    · exact Or.inr rfl
    · exact Or.inl rfl
  | commandChannel =>
    refine Or.inl ?_
    show (if j = s.streams.length then _ else s.queueOf j) = _
    rw [if_neg (by omega), hqueue]
  | _ => exact Or.inl hqueue

/-- What has left a queue stays the same in a step that takes nothing out. -/
theorem Flow.departed {s s' : Server} {a : Action} {j : ℕ} (h : Flow s a s' j)
    (ha : a ≠ .takeCommand j) {out : List CommandRequest} (hout : s.Departed j out) :
    s'.Departed j out := by
  obtain ⟨queue, hqueue, hprefix, hall⟩ := hout
  cases h with
  | @sent request queue₁ queue' hqueue₁ hsend hqueue' hplaced _ =>
    obtain rfl := Option.some.inj (hqueue.symm.trans hqueue₁)
    obtain ⟨halive, heq, -, -⟩ := Mpsc.send_eq_sent hsend
    have hplaced' : s'.placed j = out ++ queue'.queue := by
      rw [hplaced, hall halive, heq, List.append_assoc]
    exact ⟨queue', hqueue', by rw [hplaced'], fun _ => hplaced'⟩
  | kept hqueue' hplaced =>
    unfold Departed
    rw [hplaced, hqueue']
    rcases queueAfter_cases hqueue ha with hafter | hafter
    · exact ⟨queue, hafter, hprefix, hall⟩
    · refine ⟨queue.close, hafter, ?_, fun halive => by cases halive⟩
      show out ++ [] <+: s.placed j
      rw [List.append_nil]
      exact (List.prefix_append _ _).trans hprefix

/-- A command leaves the queue. -/
theorem Flow.departed_take {s s' : Server} {j : ℕ} (h : Flow s (.takeCommand j) s' j)
    {st : CommandStream} {request : CommandRequest} {queue' : Mpsc CommandRequest}
    (hst : s.streams[j]? = some st) (hrecv : st.queue.recv = some (request, queue'))
    {out : List CommandRequest} (hout : s.Departed j out) :
    s'.Departed j (out ++ [request]) := by
  obtain ⟨queue, hqueue, hprefix, hall⟩ := hout
  have hqueue₁ : s.queueOf j = some st.queue := by rw [queueOf, hst]; rfl
  obtain rfl := Option.some.inj (hqueue.symm.trans hqueue₁)
  obtain ⟨hcons, halive⟩ := Mpsc.recv_eq_some hrecv
  have hafter : s.queueAfter j (.takeCommand j) = some queue' := by
    show (if j = j then (s.queueOf j).bind fun queue => queue.recv.map (·.2) else _) = _
    rw [if_pos rfl, hqueue, Option.bind_some, hrecv]
    rfl
  have hlist : out ++ [request] ++ queue'.queue = out ++ st.queue.queue := by
    rw [hcons, List.append_assoc]
    rfl
  cases h with
  | sent _ _ _ _ ha =>
    -- the queue gets shorter
    rw [hafter, hqueue] at ha
    obtain rfl := Option.some.inj ha
    have hlength := congrArg List.length hcons
    simp at hlength
  | kept hqueue' hplaced =>
    refine ⟨queue', hqueue'.trans hafter, ?_, fun halive' => ?_⟩
    · rw [hplaced, hlist]
      exact hprefix
    · rw [hplaced, hlist]
      exact hall (halive.symm.trans halive')

/-- A stream just opened. -/
theorem Reachable.departed_new {svc : SmartcardService} {s s' : Server} (h : s.Reachable svc)
    (hstep : step svc s .commandChannel = some s') : s'.Departed s.streams.length [] := by
  have hplaced := h.placed_of_le (le_refl s.streams.length)
  have hnone : s.queueOf s.streams.length = none := by
    rw [queueOf, List.getElem?_eq_none (le_refl _)]
    rfl
  cases h.flow hstep s.streams.length with
  | sent hqueue => rw [hnone] at hqueue; cases hqueue
  | kept hqueue' hplaced' =>
    rw [hplaced] at hplaced'
    refine ⟨Mpsc.new 100, hqueue'.trans (if_pos rfl), ?_, fun _ => hplaced'⟩
    rw [hplaced']
    exact List.prefix_rfl

end Server

end RemoteSmartcard
