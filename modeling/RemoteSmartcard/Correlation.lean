/-
# Correlation of commands and responses

`Sound` is the invariant of all reachable states of the server: the shared
state is consistent, the lock belongs to the vpcd task suspended in
`send_command_async`, and the log of the vpcd tasks agrees with the heap of
oneshot channels.  In particular every response that a task got from a receiver
was sent into that very channel, and every receiver was awaited at most once.
-/
import RemoteSmartcard.ServerSteps

namespace RemoteSmartcard

/-- The waiter `rx` was created for this command in this session. -/
def Shared.Asks (t : Shared) (rx : ℕ) (sid : String) (command : Command)
    (readerName : String) : Prop :=
  ∃ w, t.waiters[rx]? = some w ∧ w.sessionId = sid ∧ w.request.command = some command ∧
    w.request.readerName = readerName

/-- The receiver `rx` has been awaited with the answer `a`. -/
def Shared.Answered (t : Shared) (rx : ℕ) (a : Except RecvFailure CommandResponse) : Prop :=
  ∃ w, t.waiters[rx]? = some w ∧ w.oneshot.receiverAlive = false ∧
    ∀ r, a = .ok r → w.oneshot.sender = .sent r

/-- The request of `b` is that of its waiter, issued for this command. -/
def Shared.Prepared (t : Shared) (b : BlockedSend) (sid : String) (command : Command)
    (readerName : String) : Prop :=
  ∃ w, t.waiters[b.rx]? = some w ∧ w.sessionId = sid ∧ w.request = b.request ∧
    w.stream = b.stream ∧ b.request.command = some command ∧ b.request.readerName = readerName

namespace Shared

/-- A waiter goes on asking for what it was created for. -/
theorem Later.asks {t t' : Shared} (h : t.Later t') {rx : ℕ} {sid : String} {command : Command}
    {readerName : String} (ha : t.Asks rx sid command readerName) :
    t'.Asks rx sid command readerName := by
  obtain ⟨w, hw, hsid, hcommand, hreader⟩ := ha
  obtain ⟨w', hw', hl⟩ := h.waiters rx w hw
  exact ⟨w', hw', hl.sessionId.trans hsid, by rw [hl.request, hcommand],
    by rw [hl.request, hreader]⟩

/-- A receiver that has been awaited stays so, with its answer. -/
theorem Later.answered {t t' : Shared} (h : t.Later t') {rx : ℕ}
    {a : Except RecvFailure CommandResponse} (ha : t.Answered rx a) : t'.Answered rx a := by
  obtain ⟨w, hw, halive, hsent⟩ := ha
  obtain ⟨w', hw', hl⟩ := h.waiters rx w hw
  refine ⟨w', hw', hl.receiver halive, fun r hr => ?_⟩
  rw [hl.sender (by simp [hsent r hr]), hsent r hr]

/-- A request that waits to be sent stays the one of its waiter. -/
theorem Later.prepared {t t' : Shared} (h : t.Later t') {b : BlockedSend} {sid : String}
    {command : Command} {readerName : String} (hp : t.Prepared b sid command readerName) :
    t'.Prepared b sid command readerName := by
  obtain ⟨w, hw, hsid, hreq, hst, hrest⟩ := hp
  obtain ⟨w', hw', hl⟩ := h.waiters _ w hw
  exact ⟨w', hw', hl.sessionId.trans hsid, hl.request.trans hreq, hl.stream.trans hst, hrest⟩

/-- Its waiter asks for the command. -/
theorem Prepared.asks {t : Shared} {b : BlockedSend} {sid : String} {command : Command}
    {readerName : String} (hp : t.Prepared b sid command readerName) :
    t.Asks b.rx sid command readerName := by
  obtain ⟨w, hw, hsid, hreq, -, hcommand, hreader⟩ := hp
  exact ⟨w, hw, hsid, by rw [hreq, hcommand], by rw [hreq, hreader]⟩

/-- A command just issued is prepared. -/
theorem prepared_issue {t : Shared} {sid : String} {command : Command} {readerName : String}
    {issued : Issued} (hi : t.issue sid command readerName = some (.ok issued)) (i : ℕ) :
    issued.shared.Prepared ⟨i, issued.request, issued.stream, issued.rx⟩ sid command
      readerName := by
  obtain ⟨session, channel, -, -, -, hrx, hreq, hshared⟩ := issue_eq_ok hi
  refine ⟨Waiter.new sid issued.request issued.stream, ?_, rfl, rfl, rfl, ?_, ?_⟩
  · rw [hshared, hrx]
    simp
  · rw [hreq]
  · rw [hreq]

end Shared

/-- The entry records the awaiting of the receiver `rx`. -/
def LogEntry.Awaits (e : LogEntry) (rx : ℕ) : Prop := e.event.op = .recvResponse rx

instance (e : LogEntry) (rx : ℕ) : Decidable (e.Awaits rx) :=
  inferInstanceAs (Decidable (e.event.op = _))

namespace Server

/-! ## The invariant -/

/-- The lock, when held, is that of a vpcd task suspended in
`send_command_async` with the request of the command it is sending. -/
def LockOwner (s : Server) (b : BlockedSend) : Prop :=
  ∃ t stream sid command readerName k, s.tasks[b.task]? = some t ∧
    t.phase = .connected stream (.op (.sendCommand sid command readerName) k) ∧
    s.shared.Prepared b sid command readerName

/-- The invariant of the reachable states. -/
structure Sound (s : Server) : Prop where
  consistent : s.shared.Consistent
  created : ∀ sid, (s.shared.getSession sid).isSome → sid ∈ s.created
  lock : ∀ b, s.lock = some b → s.LockOwner b
  asked : ∀ e ∈ s.log, ∀ sid command readerName rx,
    e.event = ⟨.sendCommand sid command readerName, some (.ok rx)⟩ →
      s.shared.Asks rx sid command readerName
  answered : ∀ e ∈ s.log, ∀ rx a, e.event = ⟨.recvResponse rx, a⟩ → s.shared.Answered rx a
  once : s.log.Pairwise fun e f => ∀ rx, e.Awaits rx → ¬ f.Awaits rx

/-- The invariant holds at the start. -/
theorem sound_init : init.Sound where
  consistent := Shared.consistent_init
  created := by
    intro sid h
    simp [init, Shared.init, Shared.getSession] at h
  lock := by intro b h; cases h
  asked := by intro e he; cases he
  answered := by intro e he; cases he
  once := .nil

/-! ## The shared state under the steps -/

/-- A step does several operations on the shared state, or creates a session. -/
theorem Effect.shared {s s' : Server} {a : Action} (h : Effect s a s') :
    (Shared.Steps s.shared s'.shared ∧ s'.created = s.created) ∨
      ∃ id now clientId, s.FreshId id ∧ s'.shared = s.shared.createSession id now clientId ∧
        s'.created = id :: s.created := by
  have hperf : ∀ {i : ℕ} {outcome : Outcome} {stream stream' : TcpStream} {o : VpcdOp}
      {answer : Option (VpcdRet o)} {s₁ : Server},
      s.perform i stream outcome o = some (answer, stream', s₁) →
        Shared.Steps s.shared s₁.shared ∧ s₁.created = s.created := by
    intro i outcome stream stream' o answer s₁ h
    obtain ⟨shared, streams, lock, rfl, ht, -⟩ := perform_frame h
    exact ⟨.of_traffic ht, rfl⟩
  cases h with
  | service ha h => exact Or.inl ⟨.of_traffic h, rfl⟩
  | establish hfresh => exact Or.inr ⟨_, _, _, hfresh, rfl, rfl⟩
  | remove => exact Or.inl ⟨.single (.removeSession ..), rfl⟩
  | register hi hp hs => exact Or.inl ⟨.single (.setCommandChannel ..), rfl⟩
  | respond hi hp hsid => exact Or.inl ⟨.single (.traffic (.handleResponse ..)), rfl⟩
  | cleanup hi hp hsid hlock => exact Or.inl ⟨.single (.clearCommandChannel ..), rfl⟩
  | suspend ht hp h => exact Or.inl (hperf h)
  | answer ht hp h =>
    obtain ⟨hsteps, hcreated⟩ := hperf h
    exact Or.inl ⟨hsteps, hcreated⟩
  | _ => exact Or.inl ⟨.refl, rfl⟩

/-- A session id that is fresh names no session of the table. -/
theorem getSession_of_fresh {s : Server} {id : String}
    (hcreated : ∀ sid, (s.shared.getSession sid).isSome → sid ∈ s.created)
    (hfresh : s.FreshId id) : s.shared.getSession id = none := by
  rw [← Option.not_isSome_iff_eq_none]
  exact fun h => hfresh.1 (hcreated id h)

/-- A step keeps the senders and the pending maps in step, and develops the heap. -/
theorem Effect.consistent {s s' : Server} {a : Action} (h : Effect s a s') (hs : s.Sound) :
    s'.shared.Consistent ∧ s.shared.Later s'.shared := by
  rcases h.shared with ⟨hsteps, -⟩ | ⟨id, now, clientId, hfresh, hshared, -⟩
  · exact hsteps.preserve hs.consistent
  · rw [hshared]
    exact ⟨Shared.consistent_createSession hs.consistent now clientId
      (getSession_of_fresh hs.created hfresh), Shared.later_createSession ..⟩

/-- Every session of the table has been created. -/
theorem Effect.created {s s' : Server} {a : Action} (h : Effect s a s') (hs : s.Sound) :
    ∀ sid, (s'.shared.getSession sid).isSome → sid ∈ s'.created := by
  intro sid hsid
  rcases h.shared with ⟨hsteps, hcreated⟩ | ⟨id, now, clientId, -, hshared, hcreated⟩
  · rw [hcreated]
    exact hs.created sid (hsteps.getSession_isSome hsid)
  · rw [hcreated, List.mem_cons]
    rw [hshared, Shared.getSession_putSession s.shared id rfl] at hsid
    split_ifs at hsid with hid
    · exact Or.inl hid
    · exact Or.inr (hs.created sid hsid)

/-! ## The operations of a task -/

/-- Handing a request over takes the lock or gives it back. -/
theorem Handed.lock {s s' : Server} {b : BlockedSend}
    {answer : Option (Option (Except String ℕ))} (h : Handed s b answer s') :
    (answer = none → s'.lock = some b ∧ s'.shared = s.shared) ∧
      (answer ≠ none → s'.lock = none) ∧
      ∀ rx, answer = some (some (.ok rx)) → rx = b.rx ∧ s'.shared = s.shared := by
  cases h with
  | closed hst hclosed => simp
  | full hst halive hfull => simp
  | sent hst hq =>
    refine ⟨nofun, fun _ => rfl, fun rx hrx => ⟨?_, rfl⟩⟩
    cases hrx
    rfl

/-- The operation `sendCommand` of a task: the request it hands over, or stays
suspended on, was prepared for its command. -/
theorem perform_sendCommand {s s' : Server} (hs : s.Sound) {i : ℕ} {t : VpcdTask}
    {stream stream' stream₀ : TcpStream} {outcome : Outcome} {sid : String} {command : Command}
    {readerName : String} {k : VpcdRet (.sendCommand sid command readerName) →
      VpcdProgram (Bool × VpcdClient)}
    {answer : Option (VpcdRet (.sendCommand sid command readerName))}
    (ht : s.tasks[i]? = some t)
    (hp : t.phase = .connected stream₀ (.op (.sendCommand sid command readerName) k))
    (h : s.perform i stream outcome (.sendCommand sid command readerName) =
      some (answer, stream', s')) :
    (answer = none → ∃ b, s'.lock = some b ∧ b.task = i ∧
        s'.shared.Prepared b sid command readerName) ∧
      (answer ≠ none → s'.lock = none) ∧
      ∀ rx, answer = some (some (.ok rx)) → s'.shared.Asks rx sid command readerName := by
  have hprepared : ∀ (s₂ : Server) (b : BlockedSend), Handed s₂ b answer s' →
      b.task = i → s₂.shared.Prepared b sid command readerName →
      (answer = none → ∃ b, s'.lock = some b ∧ b.task = i ∧
        s'.shared.Prepared b sid command readerName) ∧
      (answer ≠ none → s'.lock = none) ∧
      ∀ rx, answer = some (some (.ok rx)) → s'.shared.Asks rx sid command readerName := by
    intro s₂ b hhanded hb hprep
    obtain ⟨hnone, hsome, hok⟩ := hhanded.lock
    refine ⟨fun ha => ⟨b, (hnone ha).1, hb, (hnone ha).2 ▸ hprep⟩, hsome, fun rx hrx => ?_⟩
    obtain ⟨rfl, hsh⟩ := hok rx hrx
    rw [hsh]
    exact hprep.asks
  cases perform_performed h with
  | @resumed _ _ _ b _ _ hlock hbi hhanded =>
    -- resumed: the invariant of the lock says what the task was sending
    obtain ⟨t', stream₁, sid', command', readerName', k', ht', hp', hprep⟩ := hs.lock b hlock
    rw [hbi, ht] at ht'
    cases ht'
    rw [hp] at hp'
    cases hp'
    exact hprepared s b hhanded hbi hprep
  | issued hlock hissue hhanded =>
    exact hprepared _ _ hhanded rfl (Shared.prepared_issue hissue i)
  | notFound hlock hnone =>
    exact ⟨nofun, fun _ => hlock, nofun⟩
  | notConnected hlock herror =>
    exact ⟨nofun, fun _ => hlock, nofun⟩
  | onConnection ho => exact absurd ho id

/-- Every operation but `sendCommand` leaves the lock alone. -/
theorem perform_lock {s s' : Server} {i : ℕ} {stream stream' : TcpStream} {outcome : Outcome}
    {o : VpcdOp} {answer : Option (VpcdRet o)}
    (h : s.perform i stream outcome o = some (answer, stream', s'))
    (ho : ∀ sid command readerName, o ≠ .sendCommand sid command readerName) :
    answer ≠ none ∧ s'.lock = s.lock := by
  cases perform_performed h with
  | notFound hlock hnone => exact absurd rfl (ho _ _ _)
  | notConnected hlock herror => exact absurd rfl (ho _ _ _)
  | issued hlock hissue hhanded => exact absurd rfl (ho _ _ _)
  | resumed hlock htask hhanded => exact absurd rfl (ho _ _ _)
  | _ => exact ⟨by simp, rfl⟩

/-- The operation `recvResponse`: its receiver was alive, and has now been
awaited with this answer. -/
theorem perform_recvResponse {s s' : Server} {i : ℕ} {stream stream' : TcpStream}
    {outcome : Outcome} {rx : ℕ} {answer : VpcdRet (.recvResponse rx)}
    (h : s.perform i stream outcome (.recvResponse rx) = some (some answer, stream', s')) :
    s'.shared.Answered rx answer ∧
      ∃ w, s.shared.waiters[rx]? = some w ∧ w.oneshot.receiverAlive = true := by
  have hdropped : ∀ {w : Waiter}, s.shared.waiters[rx]? = some w →
      (s.shared.dropReceiver rx).waiters[rx]? = some (w.mapOneshot Oneshot.dropReceiver) := by
    intro w hw
    simp [Shared.dropReceiver, hw]
  cases perform_performed h with
  | onConnection ho => exact absurd ho id
  | @response _ w r hw halive hsent =>
    refine ⟨⟨_, hdropped hw, rfl, fun r' hr' => ?_⟩, w, hw, halive⟩
    cases hr'
    exact hsent
  | @released _ w hw halive hsender =>
    exact ⟨⟨_, hdropped hw, rfl, fun r hr => by cases hr⟩, w, hw, halive⟩
  | @elapsed _ w text hw halive hheld houtcome =>
    exact ⟨⟨_, hdropped hw, rfl, fun r hr => by cases hr⟩, w, hw, halive⟩

/-! ## The invariant is preserved -/

/-- The lock stays with its owner while the tasks and the shared state develop
around it. -/
theorem LockOwner.mono {s s' : Server} {b : BlockedSend} (h : s.LockOwner b)
    (hlater : s.shared.Later s'.shared) (htask : s'.tasks[b.task]? = s.tasks[b.task]?) :
    s'.LockOwner b := by
  obtain ⟨t, stream, sid, command, readerName, k, ht, hp, hprep⟩ := h
  exact ⟨t, stream, sid, command, readerName, k, htask.trans ht, hp, hlater.prepared hprep⟩

/-- A task in another phase is not the owner of the lock. -/
theorem LockOwner.task_ne {s : Server} {b : BlockedSend} (h : s.LockOwner b) {i : ℕ}
    {t : VpcdTask} (ht : s.tasks[i]? = some t)
    (hp : ∀ stream sid command readerName k,
      t.phase ≠ .connected stream (.op (.sendCommand sid command readerName) k)) :
    i ≠ b.task := by
  rintro rfl
  obtain ⟨t', stream, sid, command, readerName, k, ht', hp', -⟩ := h
  obtain rfl := Option.some.inj (ht.symm.trans ht')
  exact hp _ _ _ _ _ hp'

/-- The lock stays with the task that is suspended with it. -/
theorem Effect.lock {s s' : Server} {a : Action} (h : Effect s a s') (hs : s.Sound) :
    ∀ b, s'.lock = some b → s'.LockOwner b := by
  have hlater := (h.consistent hs).2
  intro b hb
  -- the tasks that take a step without the lock
  have hother : ∀ {i : ℕ} {t t' : VpcdTask}, s.tasks[i]? = some t → s'.lock = s.lock →
      s'.tasks = s.tasks.set i t' →
      (∀ stream sid command readerName k,
        t.phase ≠ .connected stream (.op (.sendCommand sid command readerName) k)) →
      s'.LockOwner b := by
    intro i t t' ht hlock htasks hp
    have howner : s.LockOwner b := hs.lock b (hlock ▸ hb)
    have hne : i ≠ b.task := howner.task_ne ht hp
    apply howner.mono hlater
    rw [htasks]
    exact List.getElem?_set_ne hne
  cases h with
  | spawn hk =>
    have howner : s.LockOwner b := hs.lock b hb
    apply howner.mono hlater
    obtain ⟨t, -, -, -, -, -, ht, -⟩ := howner
    exact List.getElem?_append_left (List.getElem?_eq_some_iff.mp ht).1
  | connected ht hp => exact hother ht rfl rfl (by simp [hp])
  | refused ht hp => exact hother ht rfl rfl (by simp [hp])
  | wake ht hp => exact hother ht rfl rfl (by simp [hp])
  | turn ht hp => exact hother ht rfl rfl (by simp [hp])
  | disconnected ht hp => exact hother ht rfl rfl (by simp [hp])
  | @suspend i outcome t stream stream' o k s' ht hp h =>
    by_cases ho : ∃ sid command readerName, o = .sendCommand sid command readerName
    · obtain ⟨sid, command, readerName, rfl⟩ := ho
      obtain ⟨b', hb', hi, hprep⟩ := (perform_sendCommand hs ht hp h).1 rfl
      obtain rfl := Option.some.inj (hb'.symm.trans hb)
      obtain ⟨shared, streams, lock, rfl, -, -⟩ := perform_frame h
      subst hi
      exact ⟨t, stream, sid, command, readerName, k, ht, hp, hprep⟩
    · exact absurd rfl (perform_lock h fun sid command readerName ho' => ho ⟨_, _, _, ho'⟩).1
  | @answer i outcome t stream stream' o k r s₁ ht hp h =>
    by_cases ho : ∃ sid command readerName, o = .sendCommand sid command readerName
    · obtain ⟨sid, command, readerName, rfl⟩ := ho
      have hlock : s₁.lock = none := (perform_sendCommand hs ht hp h).2.1 (by simp)
      change s₁.lock = some b at hb
      rw [hlock] at hb
      cases hb
    · have hlock := (perform_lock h fun sid command readerName ho' => ho ⟨_, _, _, ho'⟩).2
      obtain ⟨shared, streams, lock, rfl, -, -⟩ := perform_frame h
      apply hother ht hlock rfl
      intro stream₁ sid command readerName k' hp'
      rw [hp] at hp'
      cases hp'
      exact ho ⟨_, _, _, rfl⟩
  | _ => exact (hs.lock b hb).mono hlater rfl

/-- A step writes nothing into the log, or the operation of a task that has got
its answer. -/
theorem Effect.log {s s' : Server} {a : Action} (h : Effect s a s') :
    s'.log = s.log ∨
      ∃ i outcome t stream stream' o k r s₁, s.tasks[i]? = some t ∧
        t.phase = .connected stream (.op o k) ∧
        s.perform i stream outcome o = some (some r, stream', s₁) ∧
        s'.shared = s₁.shared ∧ s'.log = s.log ++ [⟨i, t.connections, ⟨o, r⟩⟩] := by
  cases h with
  | suspend ht hp h =>
    obtain ⟨shared, streams, lock, rfl, -, -⟩ := perform_frame h
    exact Or.inl rfl
  | @answer i outcome t stream stream' o k r s₁ ht hp h =>
    refine Or.inr ⟨i, outcome, t, stream, stream', o, k, r, s₁, ht, hp, h, rfl, ?_⟩
    obtain ⟨shared, streams, lock, rfl, -, -⟩ := perform_frame h
    rfl
  | _ => exact Or.inl rfl

/-- An accepted command has the waiter that asks for it. -/
theorem Effect.asked {s s' : Server} {a : Action} (h : Effect s a s') (hs : s.Sound) :
    ∀ e ∈ s'.log, ∀ sid command readerName rx,
      e.event = ⟨.sendCommand sid command readerName, some (.ok rx)⟩ →
        s'.shared.Asks rx sid command readerName := by
  have hlater := (h.consistent hs).2
  intro e he sid command readerName rx hev
  rcases h.log with hlog | ⟨i, outcome, t, stream, stream', o, k, r, s₁, ht, hp, hperf, hsh, hlog⟩
  · have he₀ : e ∈ s.log := hlog ▸ he
    exact hlater.asks (hs.asked e he₀ sid command readerName rx hev)
  · rw [hlog, List.mem_append, List.mem_singleton] at he
    rcases he with he | rfl
    · exact hlater.asks (hs.asked e he sid command readerName rx hev)
    · cases hev
      rw [hsh]
      exact (perform_sendCommand hs ht hp hperf).2.2 rx rfl

/-- What a task has got from a receiver is what its channel holds. -/
theorem Effect.answered {s s' : Server} {a : Action} (h : Effect s a s') (hs : s.Sound) :
    ∀ e ∈ s'.log, ∀ rx a, e.event = ⟨.recvResponse rx, a⟩ → s'.shared.Answered rx a := by
  have hlater := (h.consistent hs).2
  intro e he rx a hev
  rcases h.log with hlog | ⟨i, outcome, t, stream, stream', o, k, r, s₁, ht, hp, hperf, hsh, hlog⟩
  · have he₀ : e ∈ s.log := hlog ▸ he
    exact hlater.answered (hs.answered e he₀ rx a hev)
  · rw [hlog, List.mem_append, List.mem_singleton] at he
    rcases he with he | rfl
    · exact hlater.answered (hs.answered e he rx a hev)
    · cases hev
      rw [hsh]
      exact (perform_recvResponse hperf).1

/-- A receiver is awaited once at most: after that it is gone. -/
theorem Effect.once {s s' : Server} {a : Action} (h : Effect s a s') (hs : s.Sound) :
    s'.log.Pairwise fun e f => ∀ rx, e.Awaits rx → ¬ f.Awaits rx := by
  rcases h.log with hlog | ⟨i, outcome, t, stream, stream', o, k, r, s₁, ht, hp, hperf, hsh, hlog⟩
  · rw [hlog]
    exact hs.once
  · rw [hlog, List.pairwise_append]
    refine ⟨hs.once, List.pairwise_singleton .., ?_⟩
    intro e he f hf rx hew hfw
    rw [List.mem_singleton] at hf
    subst hf
    -- a receiver awaited before is gone, so it cannot be awaited now
    cases (show o = .recvResponse rx from hfw)
    obtain ⟨w, hw, halive⟩ := (perform_recvResponse hperf).2
    obtain ⟨task, connection, ⟨o', a'⟩⟩ := e
    cases (show o' = .recvResponse rx from hew)
    obtain ⟨w', hw', hdead, -⟩ := hs.answered _ he rx a' rfl
    obtain rfl := Option.some.inj (hw.symm.trans hw')
    rw [halive] at hdead
    cases hdead

/-- **Each step** keeps the invariant. -/
theorem Effect.sound {s s' : Server} {a : Action} (h : Effect s a s') (hs : s.Sound) :
    s'.Sound where
  consistent := (h.consistent hs).1
  created := h.created hs
  lock := h.lock hs
  asked := h.asked hs
  answered := h.answered hs
  once := h.once hs

/-- **Every reachable state is sound.** -/
theorem Reachable.sound {svc : SmartcardService} {s : Server} (h : s.Reachable svc) :
    s.Sound :=
  StepRun.invariant_reaches (fun _ _ _ hs hstep => (step_effect hstep).sound hs) sound_init h

/-- Along a run the channels develop. -/
theorem Sound.later_of_reaches {svc : SmartcardService} {s s' : Server} (hs : s.Sound)
    (h : StepRun.Reaches (step svc) s s') : s.shared.Later s'.shared :=
  (StepRun.invariant_reaches (P := fun s' => s'.Sound ∧ s.shared.Later s'.shared)
    (fun _ _ _ hP hstep => ⟨(step_effect hstep).sound hP.1,
      hP.2.trans ((step_effect hstep).consistent hP.1).2⟩) ⟨hs, .refl _⟩ h).2

/-! ## The correlation theorem -/

/-- What excludes itself later on comes once at most. -/
theorem countP_le_one {Alpha : Type*} {p : Alpha → Bool} {l : List Alpha}
    (h : l.Pairwise fun a b => p a = true → ¬ p b = true) : l.countP p ≤ 1 := by
  induction h with
  | nil => simp
  | cons hhead _ ih =>
    rw [List.countP_cons]
    split_ifs with ha
    · rw [List.countP_eq_zero.mpr fun b hb => hhead b hb ha]
    · exact ih

/-- With fewer than 2^64 commands issued, no two have the same command id. -/
theorem Sound.commandId_injective {s : Server} (hs : s.Sound)
    (hbound : s.shared.waiters.length < 2 ^ 64) {rx rx' : ℕ} {w w' : Waiter}
    (hw : s.shared.waiters[rx]? = some w) (hw' : s.shared.waiters[rx']? = some w')
    (hid : w'.request.commandId = w.request.commandId) : rx' = rx := by
  have hlt := (List.getElem?_eq_some_iff.mp hw).1
  have hlt' := (List.getElem?_eq_some_iff.mp hw').1
  rw [hs.consistent.commandId rx w hw, hs.consistent.commandId rx' w' hw'] at hid
  have hnat := congrArg UInt64.toNat hid
  simp only [UInt64.toNat_ofNat'] at hnat
  omega

/-- **Correlation of commands and responses.**  In every reachable state with
fewer than 2^64 commands issued: a task that got the receiver `rx` for a
command in the session `sid` has in the request `w.request` an id of its own;
the receiver is awaited at most once; a response awaited from it, and one that
lies in the channel, has that command id and was handled for that session; and
once there is a response in the channel, no further run puts another there. -/
theorem response_correlation {svc : SmartcardService} {s : Server} (hs : s.Reachable svc)
    (hbound : s.shared.waiters.length < 2 ^ 64) {e : LogEntry} (he : e ∈ s.log)
    {sid : String} {command : Command} {readerName : String} {rx : ℕ}
    (hsend : e.event = ⟨.sendCommand sid command readerName, some (.ok rx)⟩) :
    ∃ w, s.shared.waiters[rx]? = some w ∧ w.sessionId = sid ∧
      w.request = ⟨w.request.commandId, some command, readerName⟩ ∧
      (∀ rx' w', s.shared.waiters[rx']? = some w' →
        w'.request.commandId = w.request.commandId → rx' = rx) ∧
      (∀ r, w.oneshot.sender = .sent r →
        r.commandId = w.request.commandId ∧ (sid, r) ∈ s.shared.handled ∧
        ∀ s', StepRun.Reaches (step svc) s s' →
          ∃ w', s'.shared.waiters[rx]? = some w' ∧ w'.oneshot.sender = .sent r) ∧
      (∀ f ∈ s.log, ∀ r, f.event = ⟨.recvResponse rx, .ok r⟩ → w.oneshot.sender = .sent r) ∧
      (s.log.countP fun f => decide (f.Awaits rx)) ≤ 1 := by
  obtain ⟨w, hw, hsid, hcommand, hreader⟩ := hs.sound.asked e he sid command readerName rx hsend
  refine ⟨w, hw, hsid, ?_, fun rx' w' hw' hid => hs.sound.commandId_injective hbound hw hw' hid,
    fun r hr => ?_, fun f hf r hev => ?_, ?_⟩
  · rw [← hcommand, ← hreader]
  · obtain ⟨hid, hhandled⟩ := hs.sound.consistent.answered rx w r hw hr
    refine ⟨hid, hsid ▸ hhandled, fun s' hs' => ?_⟩
    obtain ⟨w', hw', hlater⟩ := (hs.sound.later_of_reaches hs').waiters rx w hw
    exact ⟨w', hw', by rw [hlater.sender (by simp [hr]), hr]⟩
  · obtain ⟨w', hw', -, hsent⟩ := hs.sound.answered f hf rx _ hev
    obtain rfl := Option.some.inj (hw.symm.trans hw')
    exact hsent r rfl
  · refine countP_le_one (hs.sound.once.imp fun hdiff hew hfw => ?_)
    exact hdiff rx (of_decide_eq_true hew) (of_decide_eq_true hfw)

/-- One exchange from its beginning to its end: a client connects, registers a
reader and its command channel, vpcd sends an APDU, the client answers it, the
response is written. -/
def exchangeRun : List Action :=
  [.establishSession "s" ⟨"client", "1"⟩, .updateReaderInfo ⟨"s", "r", [0x3B], true⟩,
    .startClient 0, .commandChannel, .streamNext 0 (some (.ok ⟨0, "s", true, "", none⟩)),
    .streamTurn 0, .taskConnect 0 (.ok ⟨[[0, 2, 0x00], [0xA4]], .unexpectedEof⟩)] ++
  List.replicate 5 (.taskRun 0 .proceed) ++
  [.takeCommand 0,
    .streamNext 0 (some (.ok ⟨1, "s", true, "", some (.apdu ⟨[], 0x90, 0x00⟩)⟩)),
    .streamTurn 0] ++
  List.replicate 5 (.taskRun 0 .proceed)

/-- The state after `exchangeRun`. -/
def exchangeState : Server :=
  (StepRun.run (step ⟨"127.0.0.1", 35963, true⟩) init exchangeRun).getD init

theorem run_exchangeRun :
    StepRun.run (step ⟨"127.0.0.1", 35963, true⟩) init exchangeRun = some exchangeState := by
  have h : (StepRun.run (step ⟨"127.0.0.1", 35963, true⟩) init exchangeRun).isSome := by decide
  obtain ⟨s, hs⟩ := Option.isSome_iff_exists.mp h
  rw [exchangeState, hs]
  rfl

theorem reachable_exchangeState : exchangeState.Reachable ⟨"127.0.0.1", 35963, true⟩ :=
  ⟨exchangeRun, run_exchangeRun⟩

/-- The response of the exchange. -/
theorem response_correlation_exchange :
    ∃ w, exchangeState.shared.waiters[0]? = some w ∧
      w.oneshot.sender = .sent ⟨1, "s", true, "", some (.apdu ⟨[], 0x90, 0x00⟩)⟩ ∧
      w.request.commandId = 1 ∧ (exchangeState.log.countP fun f => decide (f.Awaits 0)) ≤ 1 := by
  obtain ⟨w, hw, -, -, -, hsent, hrecv, honce⟩ :=
    response_correlation reachable_exchangeState (by decide)
      (e := ⟨0, 1, ⟨.sendCommand "s" (.apdu ⟨[0x00, 0xA4]⟩) "r", some (.ok 0)⟩⟩)
      (List.mem_of_getElem? (i := 4) rfl) rfl
  have hr := hrecv ⟨0, 1, ⟨.recvResponse 0,
    .ok ⟨1, "s", true, "", some (.apdu ⟨[], 0x90, 0x00⟩)⟩⟩⟩
      (List.mem_of_getElem? (i := 5) rfl) _ rfl
  exact ⟨w, hw, hr, (hsent _ hr).1.symm, honce⟩

end Server

end RemoteSmartcard
