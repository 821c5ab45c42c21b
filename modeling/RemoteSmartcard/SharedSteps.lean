/-
# What can happen to the shared state

`Shared.Step` lists everything a task of the server can do to the session table
and the oneshot channels.  Two facts about all of it carry the statements about
runs: `Consistent` is preserved, and the heap of channels only develops —
`Later` says that a waiter keeps its session, its request and its stream, that
a value sent stays, that a dropped sender and a dropped receiver stay dropped.
-/
import Mathlib.Logic.Relation
import RemoteSmartcard.SharedInvariant

namespace RemoteSmartcard

/-! ## The development of a waiter -/

/-- `w'` is `w` at a later time. -/
structure Waiter.Later (w w' : Waiter) : Prop where
  sessionId : w'.sessionId = w.sessionId
  request : w'.request = w.request
  stream : w'.stream = w.stream
  sender : w.oneshot.sender ≠ .held → w'.oneshot.sender = w.oneshot.sender
  receiver : w.oneshot.receiverAlive = false → w'.oneshot.receiverAlive = false

theorem Waiter.Later.refl (w : Waiter) : w.Later w := ⟨rfl, rfl, rfl, fun _ => rfl, fun h => h⟩

/-- Development is transitive: what a sender has sent stays sent. -/
theorem Waiter.Later.trans {w w' w'' : Waiter} (h : w.Later w') (h' : w'.Later w'') :
    w.Later w'' where
  sessionId := h'.sessionId.trans h.sessionId
  request := h'.request.trans h.request
  stream := h'.stream.trans h.stream
  sender := by
    intro hs
    rw [h'.sender (by rw [h.sender hs]; exact hs), h.sender hs]
  receiver := fun hr => h'.receiver (h.receiver hr)

/-- A change of the oneshot channel is a development if it leaves a used sender as it is and
brings no receiver back. -/
theorem Waiter.later_mapOneshot {w : Waiter}
    {f : Oneshot CommandResponse → Oneshot CommandResponse}
    (hs : w.oneshot.sender ≠ .held → (f w.oneshot).sender = w.oneshot.sender)
    (hr : (f w.oneshot).receiverAlive = true → w.oneshot.receiverAlive = true) :
    w.Later (w.mapOneshot f) where
  sessionId := rfl
  request := rfl
  stream := rfl
  sender := hs
  receiver := by
    intro h
    by_contra hne
    rw [Bool.not_eq_false] at hne
    rw [hr hne] at h
    cases h

/-- Dropping the sender is a development of the waiter. -/
theorem Waiter.later_dropSender (w : Waiter) : w.Later (w.mapOneshot Oneshot.dropSender) := by
  refine later_mapOneshot (fun h => ?_) fun h => by simpa using h
  unfold Oneshot.dropSender
  cases hw : w.oneshot.sender <;> simp_all

/-- So is dropping the receiver. -/
theorem Waiter.later_dropReceiver (w : Waiter) :
    w.Later (w.mapOneshot Oneshot.dropReceiver) :=
  later_mapOneshot (fun _ => rfl) fun h => by simp at h

/-- So is sending a value, with a sender still held. -/
theorem Waiter.later_send {w : Waiter} (hheld : w.oneshot.sender = .held)
    (response : CommandResponse) :
    w.Later (w.mapOneshot fun c => (c.send response).2) :=
  later_mapOneshot (fun h => absurd hheld h) fun h => by simpa using h

namespace Shared

/-- `t'` is `t` at a later time. -/
structure Later (t t' : Shared) : Prop where
  waiters : ∀ (rx : ℕ) (w : Waiter), t.waiters[rx]? = some w →
    ∃ w', t'.waiters[rx]? = some w' ∧ w.Later w'
  handled : ∀ e ∈ t.handled, e ∈ t'.handled

theorem Later.refl (t : Shared) : t.Later t :=
  ⟨fun _ w hw => ⟨w, hw, .refl w⟩, fun _ he => he⟩

/-- A heap that has developed twice has developed. -/
theorem Later.trans {t t' t'' : Shared} (h : t.Later t') (h' : t'.Later t'') : t.Later t'' where
  waiters := by
    intro rx w hw
    obtain ⟨w', hw', hl⟩ := h.waiters rx w hw
    obtain ⟨w'', hw'', hl'⟩ := h'.waiters rx w' hw'
    exact ⟨w'', hw'', hl.trans hl'⟩
  handled := fun e he => h'.handled e (h.handled e he)

/-! ## The steps -/

/-- One operation on the shared state that leaves every session in the table and
every command channel where it is. -/
inductive Traffic : Shared → Shared → Prop
  | updateSession (t : Shared) (sid : String) {f : Session → Session}
      (hf : ∀ s, (f s).commandChannel = s.commandChannel) : Traffic t (t.updateSession sid f)
  | handleResponse (t : Shared) (sid : String) (response : CommandResponse) :
      Traffic t (t.handleResponse sid response).2
  | issue {t : Shared} {sid : String} {command : Command} {readerName : String}
      {issued : Issued} (hi : t.issue sid command readerName = some (.ok issued)) :
      Traffic t issued.shared
  | dropReceiver (t : Shared) (rx : ℕ) : Traffic t (t.dropReceiver rx)

/-- One operation of some task on the shared state, the creation of a session
apart. -/
inductive Step : Shared → Shared → Prop
  | traffic {t t' : Shared} (h : Traffic t t') : Step t t'
  | setCommandChannel (t : Shared) (sid : String) (tx : ℕ) : Step t (t.setCommandChannel sid tx)
  | clearCommandChannel (t : Shared) (sid : String) : Step t (t.clearCommandChannel sid)
  | removeSession (t : Shared) (sid : String) : Step t (t.removeSession sid)

/-- Traffic keeps the senders and the pending maps in step. -/
theorem Traffic.consistent {t t' : Shared} (h : Traffic t t') (hc : t.Consistent) :
    t'.Consistent := by
  cases h with
  | updateSession sid hf => exact consistent_updateSession hc sid hf
  | handleResponse sid response => exact consistent_handleResponse hc sid response
  | issue hi => exact consistent_issue hc hi
  | dropReceiver rx => exact consistent_dropReceiver hc rx

/-- Every operation does. -/
theorem Step.consistent {t t' : Shared} (h : Step t t') (hc : t.Consistent) :
    t'.Consistent := by
  cases h with
  | traffic h => exact h.consistent hc
  | setCommandChannel sid tx => exact consistent_setCommandChannel hc sid tx
  | clearCommandChannel sid => exact consistent_clearCommandChannel hc sid
  | removeSession sid => exact consistent_removeSession hc sid

/-- A change of the channels one by one is a development if it is one for each. -/
theorem Later.of_map {t t' : Shared} (hhandled : ∀ e ∈ t.handled, e ∈ t'.handled)
    (f : ℕ → Oneshot CommandResponse → Oneshot CommandResponse)
    (hwaiters : ∀ rx, t'.waiters[rx]? = t.waiters[rx]?.map (Waiter.mapOneshot (f rx)))
    (hf : ∀ (rx : ℕ) (w : Waiter), t.waiters[rx]? = some w → w.Later (w.mapOneshot (f rx))) :
    t.Later t' :=
  ⟨fun rx w hw => ⟨_, by rw [hwaiters, hw]; rfl, hf rx w hw⟩, hhandled⟩

/-- Closing the senders of a pending map is a development of the heap. -/
theorem later_closeSenders (t : Shared) (m : SessionManager) (pending : PendingMap) :
    t.Later ⟨m, t.commandIdCounter, closeSenders pending t.waiters, t.handled⟩ := by
  refine .of_map (fun _ he => he) _ (fun rx => getElem?_closeSenders ..) ?_
  intro rx w hw
  split_ifs
  · exact w.later_dropSender
  · exact .refl w

/-- So is a response: the sender it goes to is still held. -/
theorem later_handleResponse {t : Shared} (hc : t.Consistent) (sid : String)
    (response : CommandResponse) : t.Later (t.handleResponse sid response).2 := by
  rcases handleResponse_cases t sid response with
    heq | heq | ⟨session, channel, tx, hs, hch, hl, heq⟩
  · rw [heq]
    exact .refl t
  · rw [heq]
    exact ⟨(Later.refl t).waiters, fun _ he => List.mem_cons_of_mem _ he⟩
  · rw [heq]
    refine .of_map (fun _ he => List.mem_cons_of_mem _ he) _
      (fun rx => getElem?_modifyOneshot ..) ?_
    intro rx w hw
    split_ifs with hrx
    · -- a stored sender is still held
      subst hrx
      obtain ⟨w', hw', -, -, -, hheld⟩ :=
        hc.pending sid _ _ tx ⟨session, channel, hs, hch, rfl, hl⟩
      obtain rfl := Option.some.inj (hw.symm.trans hw')
      exact w.later_send hheld response
    · exact .refl w

/-- So is a command issued; a sender that it replaces is dropped. -/
theorem later_issue {t : Shared} {sid : String} {command : Command} {readerName : String}
    {issued : Issued} (hi : t.issue sid command readerName = some (.ok issued)) :
    t.Later issued.shared := by
  obtain ⟨session, channel, -, -, -, -, -, hshared⟩ := issue_eq_ok hi
  rw [hshared]
  refine ⟨fun rx w hw => ?_, fun _ he => he⟩
  have hlt : rx < t.waiters.length := (List.getElem?_eq_some_iff.mp hw).1
  dsimp only
  rw [List.getElem?_append_left (by rw [length_closeSender]; exact hlt), getElem?_closeSender, hw]
  refine ⟨_, rfl, ?_⟩
  split_ifs
  · exact w.later_dropSender
  · exact .refl w

/-- **Traffic** develops the heap. -/
theorem Traffic.later {t t' : Shared} (h : Traffic t t') (hc : t.Consistent) :
    t.Later t' := by
  cases h with
  | updateSession sid hf =>
    unfold Shared.updateSession
    split
    · exact ⟨(Later.refl t).waiters, fun _ he => he⟩
    · exact .refl t
  | handleResponse sid response => exact later_handleResponse hc sid response
  | issue hi => exact later_issue hi
  | dropReceiver rx =>
    refine .of_map (fun _ he => he) _ (fun rx' => getElem?_modifyOneshot ..) ?_
    intro rx' w _
    split_ifs
    · exact w.later_dropReceiver
    · exact .refl w

/-- **Every operation** does. -/
theorem Step.later {t t' : Shared} (h : Step t t') (hc : t.Consistent) : t.Later t' := by
  cases h with
  | traffic h => exact h.later hc
  | setCommandChannel sid tx =>
    unfold Shared.setCommandChannel
    split
    · exact later_closeSenders ..
    · exact .refl t
  | clearCommandChannel sid =>
    unfold Shared.clearCommandChannel
    split
    · exact later_closeSenders ..
    · exact .refl t
  | removeSession sid =>
    cases hs : t.getSession sid with
    | none =>
      rw [removeSession_of_none hs]
      exact ⟨(Later.refl t).waiters, fun _ he => he⟩
    | some session =>
      rw [removeSession_of_some hs]
      exact later_closeSenders ..

/-- A new session does not touch the heap. -/
theorem later_createSession (t : Shared) (id : String) (now : ℕ) (clientId : String) :
    t.Later (t.createSession id now clientId) :=
  ⟨(Later.refl t).waiters, fun _ he => he⟩

/-! ## The channel of a session -/

/-- The stream whose queue the session `sid` sends to. -/
def channelOf (t : Shared) (sid : String) : Option ℕ :=
  (t.getSession sid).bind fun session => session.commandChannel.map (·.commandTx)

/-- Putting a session back changes the table at its id alone. -/
theorem getSession_putSession (t : Shared) {t' : Shared} (id : String) {session : Session}
    (hm : t'.sessions = t.sessions.putSession id session) (sid : String) :
    t'.getSession sid = if sid = id then some session else t.getSession sid := by
  unfold getSession
  rw [hm, SessionManager.getSession_putSession]

/-- Writing back a session with the queue it had changes no session's queue. -/
theorem channelOf_putSession {t t' : Shared} {id : String} {session session' : Session}
    (hs : t.getSession id = some session)
    (hm : t'.sessions = t.sessions.putSession id session')
    (htx : session'.commandChannel.map (·.commandTx) = session.commandChannel.map (·.commandTx))
    (sid : String) :
    t'.channelOf sid = t.channelOf sid ∧
      ((t'.getSession sid).isSome ↔ (t.getSession sid).isSome) := by
  unfold channelOf
  rw [getSession_putSession t id hm]
  split_ifs with hid
  · subst hid
    rw [hs]
    exact ⟨htx, by simp⟩
  · exact ⟨rfl, Iff.rfl⟩

/-- Traffic moves no command channel and leaves every session in the table. -/
theorem Traffic.channelOf {t t' : Shared} (h : Traffic t t') (sid : String) :
    t'.channelOf sid = t.channelOf sid ∧
      ((t'.getSession sid).isSome ↔ (t.getSession sid).isSome) := by
  cases h with
  | updateSession id hf =>
    unfold Shared.updateSession
    cases hs : t.getSession id with
    | none => exact ⟨rfl, Iff.rfl⟩
    | some session => exact channelOf_putSession hs rfl (by rw [hf]) sid
  | handleResponse id response =>
    rcases handleResponse_cases t id response with
      heq | heq | ⟨session, channel, tx, hs, hch, -, heq⟩
    · rw [heq]
      exact ⟨rfl, Iff.rfl⟩
    · rw [heq]
      exact ⟨rfl, Iff.rfl⟩
    · rw [heq]
      exact channelOf_putSession hs rfl (by rw [hch]; rfl) sid
  | issue hi =>
    obtain ⟨session, channel, hs, hch, -, -, -, hshared⟩ := issue_eq_ok hi
    rw [hshared]
    exact channelOf_putSession hs rfl (by rw [hch]; rfl) sid
  | dropReceiver rx => exact ⟨rfl, Iff.rfl⟩

/-- A registration gives the session its channel, and leaves the sessions and the other
channels as they are. -/
theorem channelOf_setCommandChannel {t : Shared} {id : String}
    (hs : (t.getSession id).isSome) (tx : ℕ) (sid : String) :
    (t.setCommandChannel id tx).channelOf sid =
        (if sid = id then some tx else t.channelOf sid) ∧
      (((t.setCommandChannel id tx).getSession sid).isSome ↔ (t.getSession sid).isSome) := by
  obtain ⟨session, hs⟩ := Option.isSome_iff_exists.mp hs
  unfold Shared.setCommandChannel Shared.channelOf
  rw [hs]
  dsimp only
  rw [getSession_putSession t id rfl]
  split_ifs with hid
  · subst hid
    exact ⟨rfl, by simp [hs]⟩
  · exact ⟨rfl, Iff.rfl⟩

/-- A clean-up takes the channel of the session away, and leaves everything else. -/
theorem channelOf_clearCommandChannel (t : Shared) (id sid : String) :
    (t.clearCommandChannel id).channelOf sid = (if sid = id then none else t.channelOf sid) ∧
      (((t.clearCommandChannel id).getSession sid).isSome ↔ (t.getSession sid).isSome) := by
  unfold Shared.clearCommandChannel Shared.channelOf
  cases hs : t.getSession id with
  | none =>
    dsimp only
    split_ifs with hid
    · subst hid
      simp [hs]
    · exact ⟨rfl, Iff.rfl⟩
  | some session =>
    dsimp only
    rw [getSession_putSession t id rfl]
    split_ifs with hid
    · subst hid
      exact ⟨rfl, by simp [hs]⟩
    · exact ⟨rfl, Iff.rfl⟩

/-- A removal takes the session out of the table, and leaves the others. -/
theorem getSession_removeSession (t : Shared) (id sid : String) :
    (t.removeSession id).getSession sid = if sid = id then none else t.getSession sid := by
  have hm : (t.removeSession id).sessions = (t.sessions.removeSession id).2 := by
    cases hs : t.getSession id with
    | none => rw [removeSession_of_none hs]
    | some session => rw [removeSession_of_some hs]
  unfold getSession
  rw [hm, SessionManager.getSession_removeSession]

/-- No operation but the creation brings a session into the table. -/
theorem Step.getSession_isSome {t t' : Shared} (h : Step t t') {sid : String}
    (hs : (t'.getSession sid).isSome) : (t.getSession sid).isSome := by
  cases h with
  | traffic h => exact (h.channelOf sid).2.mp hs
  | setCommandChannel id tx =>
    by_cases hid : (t.getSession id).isSome
    · exact (channelOf_setCommandChannel hid tx sid).2.mp hs
    · rw [Option.not_isSome_iff_eq_none] at hid
      unfold Shared.setCommandChannel at hs
      rwa [hid] at hs
  | clearCommandChannel id => exact (channelOf_clearCommandChannel t id sid).2.mp hs
  | removeSession id =>
    rw [getSession_removeSession] at hs
    split_ifs at hs with hid
    · cases hs
    · exact hs

/-! ## Runs of operations -/

/-- Several operations one after the other. -/
abbrev Steps : Shared → Shared → Prop := Relation.ReflTransGen Step

theorem Steps.of_traffic {t t' : Shared} (h : Relation.ReflTransGen Traffic t t') :
    Steps t t' :=
  Relation.ReflTransGen.mono (fun _ _ h => Step.traffic h) _ _ h

/-- **Everything that happens to the shared state** preserves the invariant and
is a development of the channels. -/
theorem Steps.preserve {t t' : Shared} (h : Steps t t') (hc : t.Consistent) :
    t'.Consistent ∧ t.Later t' := by
  induction h with
  | refl => exact ⟨hc, .refl t⟩
  | tail _ hstep ih =>
    obtain ⟨hcons, hlater⟩ := ih
    exact ⟨hstep.consistent hcons, hlater.trans (hstep.later hcons)⟩

/-- Several operations bring none into it either. -/
theorem Steps.getSession_isSome {t t' : Shared} (h : Steps t t') {sid : String}
    (hs : (t'.getSession sid).isSome) : (t.getSession sid).isSome := by
  induction h with
  | refl => exact hs
  | tail _ hstep ih => exact ih (hstep.getSession_isSome hs)

end Shared

end RemoteSmartcard
