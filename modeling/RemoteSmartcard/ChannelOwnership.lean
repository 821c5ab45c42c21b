/-
# Who owns the command channel of a session

A client that reconnects opens a second `CommandChannel` stream for its session
while the handler task of the first may still have to clean up.  The clean-up
clears the channel of the session whatever stream it belongs to.  `Owned` is
what holds as long as every clean-up comes before the next registration has
anything to lose: the channel of a session is that of the stream registered
most recently, until that stream itself is cleaned up, and the senders pending
on it are not dropped.
-/
import RemoteSmartcard.Correlation

namespace RemoteSmartcard

namespace Shared

/-! ## Waiters under the operations -/

/-- The waiter `w` of `t` still waits, but its sender has been dropped; and that
not because its command id was used a second time. -/
def Lost (t : Shared) (w : Waiter) : Prop :=
  w.oneshot.receiverAlive = true ∧ w.oneshot.sender = .dropped ∧ t.waiters.length < 2 ^ 64

/-- Where the waiters of `t'` come from: a waiter of `t`, lost before if it is
lost now, or a new one. -/
def Origin (t t' : Shared) : Prop :=
  ∀ (rx : ℕ) (w' : Waiter), t'.waiters[rx]? = some w' →
    (∃ w, t.waiters[rx]? = some w ∧ w'.sessionId = w.sessionId ∧ w'.stream = w.stream ∧
      (t'.Lost w' → t.Lost w)) ∨
    (¬ t'.Lost w' ∧ t.channelOf w'.sessionId = some w'.stream)

/-- Where the waiters are the same, they are where they come from. -/
theorem Origin.of_waiters {t t' : Shared} (h : t'.waiters = t.waiters) : t.Origin t' := by
  intro rx w' hw'
  rw [h] at hw'
  exact Or.inl ⟨w', hw', rfl, rfl, fun hl => ⟨hl.1, hl.2.1, h ▸ hl.2.2⟩⟩

/-- A change of the channels one by one loses no waiter that it does not lose. -/
theorem Origin.of_map {t t' : Shared} (hlength : t.waiters.length ≤ t'.waiters.length)
    (f : ℕ → Oneshot CommandResponse → Oneshot CommandResponse)
    (hwaiters : ∀ rx, t'.waiters[rx]? = t.waiters[rx]?.map (Waiter.mapOneshot (f rx)))
    (hf : ∀ rx (o : Oneshot CommandResponse), (f rx o).receiverAlive = true →
      (f rx o).sender = .dropped → o.receiverAlive = true ∧ o.sender = .dropped) :
    t.Origin t' := by
  intro rx w' hw'
  rw [hwaiters, Option.map_eq_some_iff] at hw'
  obtain ⟨w, hw, rfl⟩ := hw'
  refine Or.inl ⟨w, hw, rfl, rfl, ?_⟩
  rintro ⟨halive, hdrop, hbound⟩
  obtain ⟨halive', hdrop'⟩ := hf rx w.oneshot halive hdrop
  exact ⟨halive', hdrop', by omega⟩

/-- A response loses no waiter: its value goes into the channel of a live receiver. -/
theorem origin_handleResponse (t : Shared) (sid : String) (response : CommandResponse) :
    t.Origin (t.handleResponse sid response).2 := by
  rcases handleResponse_cases t sid response with heq | heq | ⟨_, _, tx, -, -, -, heq⟩
  · rw [heq]
    exact .of_waiters rfl
  · rw [heq]
    exact .of_waiters rfl
  · rw [heq]
    refine .of_map (List.length_modify ..).ge _ (fun rx => getElem?_modifyOneshot ..) ?_
    intro rx o
    split_ifs
    · intro ha hd
      -- with the receiver alive, the value goes into the channel
      have halive : o.receiverAlive = true := by simpa using ha
      simp [Oneshot.send, halive] at hd
    · exact fun ha hd => ⟨ha, hd⟩

/-- A command issued adds a waiter, and replaces the sender of another only if its id has
come round. -/
theorem origin_issue {t : Shared} (hc : t.Consistent) {sid : String} {command : Command}
    {readerName : String} {issued : Issued}
    (hi : t.issue sid command readerName = some (.ok issued)) : t.Origin issued.shared := by
  obtain ⟨session, channel, hs, hch, hst, -, hreq, hshared⟩ := issue_eq_ok hi
  have hw : issued.shared.waiters = closeSender (channel.pending.lookup t.commandIdCounter)
      t.waiters ++ [Waiter.new sid issued.request issued.stream] := by rw [hshared]
  have hlength : issued.shared.waiters.length = t.waiters.length + 1 := by
    rw [hw, List.length_append, length_closeSender, List.length_singleton]
  intro rx w' hw'
  rw [hw, StepRun.getElem?_concat] at hw'
  split_ifs at hw' with hnew
  · cases hw'
    refine Or.inr ⟨fun hl => (by cases hl.2.1), ?_⟩
    unfold channelOf
    simp [Waiter.new, hs, hch, hst]
  · rw [getElem?_closeSender, Option.map_eq_some_iff] at hw'
    obtain ⟨w, hwt, rfl⟩ := hw'
    refine Or.inl ⟨w, hwt, rfl, rfl, ?_⟩
    rintro ⟨halive, hdrop, hbound⟩
    split_ifs at halive hdrop with hl
    · -- an id in use again: not before 2^64 commands
      obtain ⟨w₁, hw₁, -, -, hid, -⟩ :=
        hc.pending sid _ _ rx ⟨session, channel, hs, hch, rfl, hl⟩
      have hlt := (List.getElem?_eq_some_iff.mp hwt).1
      rw [hc.commandId rx w₁ hw₁, hc.counter] at hid
      have hnat := congrArg UInt64.toNat hid
      simp only [UInt64.toNat_ofNat'] at hnat
      omega
    · exact ⟨halive, hdrop, by omega⟩

/-- **Traffic** loses no waiter. -/
theorem Traffic.origin {t t' : Shared} (h : Traffic t t') (hc : t.Consistent) :
    t.Origin t' := by
  cases h with
  | updateSession sid hf =>
    unfold Shared.updateSession
    split
    · exact .of_waiters rfl
    · exact .of_waiters rfl
  | handleResponse sid response => exact origin_handleResponse t sid response
  | issue hi => exact origin_issue hc hi
  | dropReceiver rx =>
    refine .of_map (List.length_modify ..).ge _ (fun rx' => getElem?_modifyOneshot ..) ?_
    intro rx' o
    split_ifs
    · exact fun ha => by simp at ha
    · exact fun ha hd => ⟨ha, hd⟩

/-- Two developments in sequence, between which the channels stay. -/
theorem Origin.trans {t t' t'' : Shared} (h : t.Origin t') (h' : t'.Origin t'')
    (hchannel : ∀ sid, t'.channelOf sid = t.channelOf sid) : t.Origin t'' := by
  intro rx w'' hw''
  rcases h' rx w'' hw'' with ⟨w', hw', hsid', hst', hlost'⟩ | ⟨hlost', hch⟩
  · rcases h rx w' hw' with ⟨w, hw, hsid, hst, hlost⟩ | ⟨hlost, hch⟩
    · exact Or.inl ⟨w, hw, hsid'.trans hsid, hst'.trans hst, fun hl => hlost (hlost' hl)⟩
    · exact Or.inr ⟨fun hl => hlost (hlost' hl), by rw [hsid', hst', hch]⟩
  · exact Or.inr ⟨hlost', by rw [← hchannel]; exact hch⟩

/-- **Traffic** leaves the channels and the sessions where they are, and loses no
waiter. -/
theorem traffic_spec {t t' : Shared} (h : Relation.ReflTransGen Traffic t t')
    (hc : t.Consistent) :
    (∀ sid, t'.channelOf sid = t.channelOf sid ∧
      ((t'.getSession sid).isSome ↔ (t.getSession sid).isSome)) ∧ t.Origin t' := by
  induction h with
  | refl => exact ⟨fun _ => ⟨rfl, Iff.rfl⟩, .of_waiters rfl⟩
  | @tail t₁ t₂ hsteps hstep ih =>
    obtain ⟨hchannel, horigin⟩ := ih
    have hc₁ := ((Steps.of_traffic hsteps).preserve hc).1
    exact ⟨fun sid => ⟨(hstep.channelOf sid).1.trans (hchannel sid).1,
      (hstep.channelOf sid).2.trans (hchannel sid).2⟩,
      horigin.trans (hstep.origin hc₁) fun sid => (hchannel sid).1⟩

/-- The waiters of `t'` are those of `t`, and outside the session `sid` those
lost now were lost before. -/
def OriginOutside (sid : String) (t t' : Shared) : Prop :=
  ∀ (rx : ℕ) (w' : Waiter), t'.waiters[rx]? = some w' →
    ∃ w, t.waiters[rx]? = some w ∧ w'.sessionId = w.sessionId ∧ w'.stream = w.stream ∧
      (w.sessionId ≠ sid → t'.Lost w' → t.Lost w)

theorem OriginOutside.of_waiters {t t' : Shared} (sid : String) (h : t'.waiters = t.waiters) :
    OriginOutside sid t t' := by
  intro rx w' hw'
  rw [h] at hw'
  exact ⟨w', hw', rfl, rfl, fun _ hl => ⟨hl.1, hl.2.1, h ▸ hl.2.2⟩⟩

/-- Closing all senders of the session `sid` concerns its own waiters only. -/
theorem originOutside_closeSenders {t t' : Shared} (hc : t.Consistent) {sid : String}
    {session : Session} (hs : t.getSession sid = some session)
    (hw : t'.waiters = closeSenders session.pending t.waiters) : OriginOutside sid t t' := by
  intro rx w' hw'
  have hlength : t'.waiters.length = t.waiters.length := by rw [hw, length_closeSenders]
  rw [hw, getElem?_closeSenders, Option.map_eq_some_iff] at hw'
  obtain ⟨w, hwt, rfl⟩ := hw'
  refine ⟨w, hwt, rfl, rfl, ?_⟩
  rintro hne ⟨halive, hdrop, hbound⟩
  split_ifs at halive hdrop with hh
  · -- a sender in the pending map belongs to a waiter of the session
    obtain ⟨st, c, hst⟩ := (holds_pending_iff hs).mp hh
    obtain ⟨w₁, hw₁, hsid, -⟩ := hc.pending _ _ _ _ hst
    obtain rfl := Option.some.inj (hwt.symm.trans hw₁)
    exact absurd hsid hne
  · exact ⟨halive, hdrop, by omega⟩

/-- A registration loses waiters of its own session only. -/
theorem originOutside_setCommandChannel {t : Shared} (hc : t.Consistent) (sid : String)
    (tx : ℕ) : OriginOutside sid t (t.setCommandChannel sid tx) := by
  unfold setCommandChannel
  cases hs : t.getSession sid with
  | none => exact .of_waiters sid rfl
  | some session => exact originOutside_closeSenders hc hs rfl

/-- So does a clean-up. -/
theorem originOutside_clearCommandChannel {t : Shared} (hc : t.Consistent) (sid : String) :
    OriginOutside sid t (t.clearCommandChannel sid) := by
  unfold clearCommandChannel
  cases hs : t.getSession sid with
  | none => exact .of_waiters sid rfl
  | some session => exact originOutside_closeSenders hc hs rfl

/-- So does the removal of a session. -/
theorem originOutside_removeSession {t : Shared} (hc : t.Consistent) (sid : String) :
    OriginOutside sid t (t.removeSession sid) := by
  cases hs : t.getSession sid with
  | none =>
    rw [removeSession_of_none hs]
    exact .of_waiters sid rfl
  | some session =>
    rw [removeSession_of_some hs]
    exact originOutside_closeSenders hc hs rfl

end Shared

namespace Server

/-! ## Registrations -/

/-- The stream registered most recently for the session `sid`. -/
def latest (s : Server) (sid : String) : Option ℕ :=
  (s.registrations.find? fun r => r.1 = sid).map (·.2)

/-- The binding of the stream `t`. -/
def bindingOf (s : Server) (t : ℕ) : Option (Option String × StreamPhase) :=
  s.streams[t]?.map CommandStream.binding

/-- The stream `t` has ended: its handler task has left the loop. -/
def Ended (s : Server) (t : ℕ) : Prop :=
  ∃ x, s.bindingOf t = some (x, .cleanup) ∨ s.bindingOf t = some (x, .finished)

/-- The handler task of the stream `t` has finished, its clean-up included. -/
def CleanedUp (s : Server) (t : ℕ) : Prop := ∃ x, s.bindingOf t = some (x, .finished)

/-- The latest stream of a session has registered. -/
theorem latest_mem {s : Server} {sid : String} {t : ℕ} (h : s.latest sid = some t) :
    (sid, t) ∈ s.registrations := by
  unfold latest at h
  rw [Option.map_eq_some_iff] at h
  obtain ⟨⟨sid', t'⟩, hfind, rfl⟩ := h
  have hsid : sid' = sid := by simpa using List.find?_some hfind
  exact hsid ▸ List.mem_of_find?_eq_some hfind

/-- A registration makes the stream the latest of its session. -/
theorem latest_register {s s' : Server} {sid : String} {t : ℕ}
    (h : s'.registrations = (sid, t) :: s.registrations) (sid' : String) :
    s'.latest sid' = if sid' = sid then some t else s.latest sid' := by
  unfold latest
  rw [h, List.find?_cons]
  by_cases hsid : sid' = sid
  · simp [hsid]
  · simp [hsid, Ne.symm hsid]

/-! ## The invariant -/

/-- What ties the registrations to the streams, the channels and the waiters, in
every run; and the ownership of the channels, in the runs in which clean-ups
come in order (`owner`, `cleaned`, `kept`). -/
structure Owned (s : Server) : Prop where
  bound : ∀ i x r, s.bindingOf i = some (x, .registering r) → x = some r.sessionId
  registered : ∀ sid t, (sid, t) ∈ s.registrations → sid ∈ s.created ∧
    ∃ p, s.bindingOf t = some (some sid, p) ∧ ∀ r, p ≠ .registering r
  channel : ∀ sid t, s.shared.channelOf sid = some t → (sid, t) ∈ s.registrations
  issued : ∀ (rx : ℕ) (w : Waiter), s.shared.waiters[rx]? = some w →
    (w.sessionId, w.stream) ∈ s.registrations
  owner : ∀ sid t, s.latest sid = some t → ¬ s.CleanedUp t →
    (s.shared.getSession sid).isSome → s.shared.channelOf sid = some t
  cleaned : ∀ sid t, s.latest sid = some t → s.CleanedUp t → s.shared.channelOf sid = none
  kept : ∀ (rx : ℕ) (w : Waiter), s.shared.waiters[rx]? = some w →
    s.latest w.sessionId = some w.stream → ¬ s.CleanedUp w.stream →
      (s.shared.getSession w.sessionId).isSome → ¬ s.shared.Lost w

/-- At the start nothing has registered. -/
theorem owned_init : init.Owned where
  bound := by intro i x r h; simp [bindingOf, init] at h
  registered := by intro sid t h; simp [init] at h
  channel := by intro sid t h; simp [init, Shared.init, Shared.channelOf, Shared.getSession] at h
  issued := by intro rx w h; simp [init, Shared.init] at h
  owner := by intro sid t h; simp [latest, init] at h
  cleaned := by intro sid t h; simp [latest, init] at h
  kept := by intro rx w h; simp [init, Shared.init] at h

/-- A step of a handler task changes the binding of its own stream. -/
theorem bindingOf_set {s s' : Server} {i : ℕ} {st st' : CommandStream}
    (hi : s.streams[i]? = some st) (h : s'.streams = s.streams.set i st') (t : ℕ) :
    s'.bindingOf t = if t = i then some st'.binding else s.bindingOf t := by
  unfold bindingOf
  rw [h, StepRun.map_getElem?_set CommandStream.binding hi]
  simp only [eq_comm]

theorem bindingOf_of_getElem? {s : Server} {i : ℕ} {st : CommandStream}
    (hi : s.streams[i]? = some st) : s.bindingOf i = some (st.sessionId, st.phase) := by
  unfold bindingOf
  rw [hi]
  rfl

/-- A new stream is bound to no session yet. -/
theorem bindingOf_commandChannel (s : Server) (t : ℕ) : s.commandChannel.bindingOf t =
    if t = s.streams.length then some (none, .waiting) else s.bindingOf t := by
  unfold bindingOf commandChannel
  rw [StepRun.getElem?_concat]
  split_ifs
  · rfl
  · rfl

/-- A stream with a known phase is cleaned up if that phase says so. -/
theorem cleanedUp_iff_of_binding {s : Server} {t : ℕ} {x : Option String} {p : StreamPhase}
    (h : s.bindingOf t = some (x, p)) : s.CleanedUp t ↔ p = .finished := by
  unfold CleanedUp
  rw [h]
  simp

/-- A stream is cleaned up if its handler task has just finished, or was before. -/
theorem cleanedUp_set {s s' : Server} {i : ℕ} {st st' : CommandStream}
    (hi : s.streams[i]? = some st) (h : s'.streams = s.streams.set i st') (t : ℕ) :
    s'.CleanedUp t ↔ if t = i then st'.phase = .finished else s.CleanedUp t := by
  unfold CleanedUp
  rw [bindingOf_set hi h]
  split_ifs
  · simp [CommandStream.binding]
  · rfl

/-- A stream about to register is bound to the session it registers for, whatever
becomes of another. -/
theorem Owned.bound_set {s s' : Server} (h : s.Owned) {i : ℕ} {st st' : CommandStream}
    (hi : s.streams[i]? = some st) (hset : s'.streams = s.streams.set i st')
    (hbound : ∀ r, st'.phase = .registering r → st'.sessionId = some r.sessionId)
    (j : ℕ) (x : Option String) (r : CommandResponse)
    (hj : s'.bindingOf j = some (x, .registering r)) : x = some r.sessionId := by
  rw [bindingOf_set hi hset] at hj
  split_ifs at hj
  · simp only [CommandStream.binding, Option.some.injEq, Prod.mk.injEq] at hj
    rw [← hj.1]
    exact hbound r hj.2
  · exact h.bound j x r hj

/-- **Traffic keeps the ownership**, and so do the steps of the handler tasks
that leave the registered streams registered and those cleaned up as they are. -/
theorem Owned.of_traffic {s s' : Server} (h : s.Owned) (hc : s.shared.Consistent)
    (ht : Relation.ReflTransGen Shared.Traffic s.shared s'.shared)
    (hreg : s'.registrations = s.registrations) (hcreated : s'.created = s.created)
    (hbound : ∀ i x r, s'.bindingOf i = some (x, .registering r) → x = some r.sessionId)
    (hkeep : ∀ t sid p, s.bindingOf t = some (some sid, p) → (∀ r, p ≠ .registering r) →
      ∃ p', s'.bindingOf t = some (some sid, p') ∧ (∀ r, p' ≠ .registering r) ∧
        (p' = .finished ↔ p = .finished)) : s'.Owned := by
  obtain ⟨hchannel, horigin⟩ := Shared.traffic_spec ht hc
  have hlatest : ∀ sid, s'.latest sid = s.latest sid := fun sid => by unfold latest; rw [hreg]
  have hcleaned : ∀ sid t, (sid, t) ∈ s.registrations → (s'.CleanedUp t ↔ s.CleanedUp t) := by
    intro sid t hmem
    obtain ⟨-, p, hp, hne⟩ := h.registered sid t hmem
    obtain ⟨p', hp', -, hfin⟩ := hkeep t sid p hp hne
    rw [cleanedUp_iff_of_binding hp, cleanedUp_iff_of_binding hp', hfin]
  constructor
  case bound => exact hbound
  case registered =>
    intro sid t hmem
    obtain ⟨hcr, p, hp, hne⟩ := h.registered sid t (hreg ▸ hmem)
    obtain ⟨p', hp', hne', -⟩ := hkeep t sid p hp hne
    exact ⟨hcreated ▸ hcr, p', hp', hne'⟩
  case channel =>
    intro sid t hch
    rw [hreg]
    exact h.channel sid t ((hchannel sid).1 ▸ hch)
  case issued =>
    intro rx w' hw'
    rw [hreg]
    rcases horigin rx w' hw' with ⟨w, hw, hsid, hst, -⟩ | ⟨-, hch⟩
    · rw [hsid, hst]
      exact h.issued rx w hw
    · -- a new waiter is issued on the channel of its session
      exact h.channel _ _ hch
  case owner =>
    intro sid t hl hcl hsome
    rw [(hchannel sid).1]
    rw [hlatest] at hl
    have hcl₀ : ¬ s.CleanedUp t := fun hc' => hcl ((hcleaned sid t (latest_mem hl)).mpr hc')
    have hsome₀ : (s.shared.getSession sid).isSome := (hchannel sid).2.mp hsome
    exact h.owner sid t hl hcl₀ hsome₀
  case cleaned =>
    intro sid t hl hcl
    rw [(hchannel sid).1]
    rw [hlatest] at hl
    exact h.cleaned sid t hl ((hcleaned sid t (latest_mem hl)).mp hcl)
  case kept =>
    intro rx w' hw' hl hcl hsome hlost
    rcases horigin rx w' hw' with ⟨w, hw, hsid, hst, hlost'⟩ | ⟨hlost', -⟩
    · rw [hsid, hst, hlatest] at hl
      rw [hst] at hcl
      rw [hsid] at hsome
      have hcl₀ : ¬ s.CleanedUp w.stream :=
        fun hc' => hcl ((hcleaned _ _ (latest_mem hl)).mpr hc')
      have hsome₀ : (s.shared.getSession w.sessionId).isSome := (hchannel _).2.mp hsome
      exact h.kept rx w hw hl hcl₀ hsome₀ (hlost' hlost)
    · exact hlost' hlost

/-- The waiters stay waiters of registered streams, whatever is done to the senders
of one session. -/
theorem Owned.issued_of_outside {s s' : Server} (h : s.Owned) {sid : String}
    (horigin : Shared.OriginOutside sid s.shared s'.shared)
    (hsub : s.registrations ⊆ s'.registrations) (rx : ℕ) (w' : Waiter)
    (hw' : s'.shared.waiters[rx]? = some w') : (w'.sessionId, w'.stream) ∈ s'.registrations := by
  obtain ⟨w, hw, hws, hwt, -⟩ := horigin rx w' hw'
  rw [hws, hwt]
  exact hsub (h.issued rx w hw)

/-- Traffic with the bindings of all streams unchanged. -/
theorem Owned.of_sameBindings {s s' : Server} (h : s.Owned) (hc : s.shared.Consistent)
    (ht : Relation.ReflTransGen Shared.Traffic s.shared s'.shared)
    (hreg : s'.registrations = s.registrations) (hcreated : s'.created = s.created)
    (hbind : ∀ t, s'.bindingOf t = s.bindingOf t) : s'.Owned := by
  apply h.of_traffic hc ht hreg hcreated
  · intro i x r hi
    exact h.bound i x r (hbind i ▸ hi)
  · intro t sid p hp hne
    exact ⟨p, (hbind t).trans hp, hne, Iff.rfl⟩

/-- A step of the handler task of one stream. -/
theorem Owned.of_handler {s s' : Server} (h : s.Owned) (hc : s.shared.Consistent)
    (ht : Relation.ReflTransGen Shared.Traffic s.shared s'.shared)
    (hreg : s'.registrations = s.registrations) (hcreated : s'.created = s.created)
    {i : ℕ} {st st' : CommandStream} (hi : s.streams[i]? = some st)
    (hset : s'.streams = s.streams.set i st')
    (hbound : ∀ r, st'.phase = .registering r → st'.sessionId = some r.sessionId)
    (hkeep : ∀ sid, st.sessionId = some sid → (∀ r, st.phase ≠ .registering r) →
      st'.sessionId = some sid ∧ (∀ r, st'.phase ≠ .registering r) ∧
        (st'.phase = .finished ↔ st.phase = .finished)) : s'.Owned := by
  apply h.of_traffic hc ht hreg hcreated
  · exact h.bound_set hi hset hbound
  · intro t sid p hp hne
    rw [bindingOf_set hi hset]
    split_ifs with hti
    · subst hti
      rw [bindingOf_of_getElem? hi] at hp
      simp only [Option.some.injEq, Prod.mk.injEq] at hp
      obtain ⟨hsid, rfl⟩ := hp
      obtain ⟨hsid', hne', hfin⟩ := hkeep sid hsid hne
      exact ⟨st'.phase, by rw [CommandStream.binding, hsid'], hne', hfin⟩
    · exact ⟨p, hp, hne, Iff.rfl⟩

/-- After its registration a stream does not register again, and has not ended. -/
theorem afterRegistration_ne (response : CommandResponse) :
    (∀ r, afterRegistration response ≠ .registering r) ∧
      afterRegistration response ≠ .finished ∧ afterRegistration response ≠ .cleanup := by
  unfold afterRegistration
  split <;> simp

/-! ## A registration -/

/-- What changes when the stream `i` registers for the session `sid`: it had not registered
before, and from now on the channel of the session is its own. -/
structure StreamRegisters (s s' : Server) (i : ℕ) (sid : String) : Prop where
  created : s'.created = s.created
  registrations : s'.registrations = (sid, i) :: s.registrations
  known : sid ∈ s.created
  first : ∀ sid', (sid', i) ∉ s.registrations
  bound : ∃ p, s'.bindingOf i = some (some sid, p) ∧ ∀ r, p ≠ .registering r
  others : ∀ t, t ≠ i → s'.bindingOf t = s.bindingOf t
  live : ¬ s.CleanedUp i
  cleanedUp : ∀ t, s'.CleanedUp t ↔ s.CleanedUp t
  channel : ∀ sid', s'.shared.channelOf sid' =
    if sid' = sid then some i else s.shared.channelOf sid'
  sessions : ∀ sid', (s'.shared.getSession sid').isSome ↔ (s.shared.getSession sid').isSome
  origin : Shared.OriginOutside sid s.shared s'.shared

/-- The handler task that sets the channel of its session registers its stream. -/
theorem Owned.streamRegisters {s s' : Server} (h : s.Owned) (hs : s.Sound) {i : ℕ}
    {st : CommandStream} {response : CommandResponse} (hi : s.streams[i]? = some st)
    (hp : st.phase = .registering response)
    (hsome : (s.shared.getSession response.sessionId).isSome)
    (hshared : s'.shared = s.shared.setCommandChannel response.sessionId i)
    (hset : s'.streams = s.streams.set i { st with phase := afterRegistration response })
    (hreg : s'.registrations = (response.sessionId, i) :: s.registrations)
    (hcreated : s'.created = s.created) : StreamRegisters s s' i response.sessionId := by
  have hbi : s.bindingOf i = some (st.sessionId, .registering response) := by
    rw [bindingOf_of_getElem? hi, hp]
  have hsid : st.sessionId = some response.sessionId := h.bound i _ _ hbi
  obtain ⟨hnot, hfinished, -⟩ := afterRegistration_ne response
  have hbi' : s'.bindingOf i = some (some response.sessionId, afterRegistration response) := by
    rw [bindingOf_set hi hset, if_pos rfl, CommandStream.binding, hsid]
  have hlive : ¬ s.CleanedUp i := by
    rw [cleanedUp_iff_of_binding hbi]
    exact nofun
  have hchannel := Shared.channelOf_setCommandChannel hsome i
  rw [← hshared] at hchannel
  refine ⟨hcreated, hreg, hs.created _ hsome, fun sid hmem => ?_, ⟨_, hbi', hnot⟩,
    fun t ht => by rw [bindingOf_set hi hset, if_neg ht], hlive, fun t => ?_,
    fun sid => (hchannel sid).1, fun sid => (hchannel sid).2,
    hshared ▸ Shared.originOutside_setCommandChannel hs.consistent _ i⟩
  · -- a stream that has registered is no longer about to register
    obtain ⟨-, p, hp', hne⟩ := h.registered sid i hmem
    rw [hbi, Option.some.injEq, Prod.mk.injEq] at hp'
    exact hne response hp'.2.symm
  · rw [cleanedUp_set hi hset]
    split_ifs with ht
    · subst ht
      exact iff_of_false hfinished hlive
    · rfl

namespace StreamRegisters

variable {s s' : Server} {i : ℕ} {sid : String}

/-- A stream that registers is the latest of its session. -/
theorem latest (hr : StreamRegisters s s' i sid) (sid' : String) :
    s'.latest sid' = if sid' = sid then some i else s.latest sid' :=
  latest_register hr.registrations sid'

/-- Every registered stream is bound to its session. -/
theorem registered (hr : StreamRegisters s s' i sid) (h : s.Owned) {sid' : String} {t : ℕ}
    (hmem : (sid', t) ∈ s'.registrations) : sid' ∈ s'.created ∧
      ∃ p, s'.bindingOf t = some (some sid', p) ∧ ∀ r, p ≠ .registering r := by
  rw [hr.registrations, List.mem_cons, Prod.mk.injEq] at hmem
  rw [hr.created]
  rcases hmem with ⟨rfl, rfl⟩ | hmem
  · exact ⟨hr.known, hr.bound⟩
  · have hti : t ≠ i := fun hti => hr.first sid' (hti ▸ hmem)
    rw [hr.others t hti]
    exact h.registered sid' t hmem

/-- The latest stream of a session has its channel. -/
theorem owner (hr : StreamRegisters s s' i sid) (h : s.Owned) {sid' : String} {t : ℕ}
    (hl : s'.latest sid' = some t) (hcl : ¬ s'.CleanedUp t)
    (hsome : (s'.shared.getSession sid').isSome) : s'.shared.channelOf sid' = some t := by
  rw [hr.latest] at hl
  rw [hr.channel]
  split_ifs at hl ⊢ with hid
  · exact hl
  · have hcl₀ : ¬ s.CleanedUp t := fun hc => hcl ((hr.cleanedUp t).mpr hc)
    exact h.owner sid' t hl hcl₀ ((hr.sessions sid').mp hsome)

/-- A session whose latest stream has been cleaned up has no channel. -/
theorem cleaned (hr : StreamRegisters s s' i sid) (h : s.Owned) {sid' : String} {t : ℕ}
    (hl : s'.latest sid' = some t) (hcl : s'.CleanedUp t) : s'.shared.channelOf sid' = none := by
  rw [hr.latest] at hl
  rw [hr.channel]
  rw [hr.cleanedUp] at hcl
  split_ifs at hl ⊢ with hid
  · -- the stream that has just registered is not cleaned up
    cases hl
    exact absurd hcl hr.live
  · exact h.cleaned sid' t hl hcl

/-- The senders of the latest streams are kept. -/
theorem kept (hr : StreamRegisters s s' i sid) (h : s.Owned) {rx : ℕ} {w' : Waiter}
    (hw' : s'.shared.waiters[rx]? = some w') (hl : s'.latest w'.sessionId = some w'.stream)
    (hcl : ¬ s'.CleanedUp w'.stream) (hsome : (s'.shared.getSession w'.sessionId).isSome) :
    ¬ s'.shared.Lost w' := by
  obtain ⟨w, hw, hws, hwt, hlost⟩ := hr.origin rx w' hw'
  rw [hws, hwt, hr.latest] at hl
  split_ifs at hl with hid
  · -- no waiter was issued on a stream not yet registered
    injection hl with hl
    exact absurd (hl ▸ h.issued rx w hw) (hr.first w.sessionId)
  · rw [hwt] at hcl
    rw [hws] at hsome
    have hcl₀ : ¬ s.CleanedUp w.stream := fun hc => hcl ((hr.cleanedUp _).mpr hc)
    have hkept := h.kept rx w hw hl hcl₀ ((hr.sessions _).mp hsome)
    exact fun hlost' => hkept (hlost hid hlost')

/-- **A registration** keeps the ownership. -/
theorem owned (hr : StreamRegisters s s' i sid) (h : s.Owned) : s'.Owned where
  bound := by
    intro t x r ht
    obtain ⟨p, hp, hne⟩ := hr.bound
    by_cases hti : t = i
    · subst hti
      rw [hp, Option.some.injEq, Prod.mk.injEq] at ht
      exact absurd ht.2 (hne r)
    · exact h.bound t x r (hr.others t hti ▸ ht)
  registered _ _ hmem := hr.registered h hmem
  channel := by
    intro sid' t hch
    rw [hr.channel] at hch
    rw [hr.registrations, List.mem_cons, Prod.mk.injEq]
    split_ifs at hch with hid
    · cases hch
      exact Or.inl ⟨hid, rfl⟩
    · exact Or.inr (h.channel sid' t hch)
  issued := by
    refine h.issued_of_outside hr.origin ?_
    rw [hr.registrations]
    exact List.subset_cons_self _ _
  owner _ _ hl hcl hsome := hr.owner h hl hcl hsome
  cleaned _ _ hl hcl := hr.cleaned h hl hcl
  kept _ _ hw hl hcl hsome := hr.kept h hw hl hcl hsome

end StreamRegisters

/-! ## Clean-ups in order -/

/-- The guard of the runs: whenever the clean-up of a stream takes the lock and
finds its session in the table, the stream registered most recently for that
session is this one, or has been cleaned up before. -/
def CleanupInOrder (s : Server) (a : Action) : Prop :=
  ∀ i st sid, a = .streamTurn i → s.streams[i]? = some st → st.phase = .cleanup →
    st.sessionId = some sid → s.lock = none → (s.shared.getSession sid).isSome →
      ∀ t, s.latest sid = some t → t = i ∨ s.CleanedUp t

/-- What changes when the handler task of the stream `i` cleans up, in order: the channel of
its session `sid` is cleared, and the latest stream of the session is cleaned up then. -/
structure StreamCleansUp (s s' : Server) (i : ℕ) (sid : String) : Prop where
  created : s'.created = s.created
  registrations : s'.registrations = s.registrations
  ending : s.bindingOf i = some (some sid, .cleanup)
  bound : s'.bindingOf i = some (some sid, .finished)
  others : ∀ t, t ≠ i → s'.bindingOf t = s.bindingOf t
  cleanedUp : ∀ t, s'.CleanedUp t ↔ t = i ∨ s.CleanedUp t
  inOrder : ∀ t, (s.shared.getSession sid).isSome → s.latest sid = some t → s'.CleanedUp t
  channel : ∀ sid', s'.shared.channelOf sid' =
    if sid' = sid then none else s.shared.channelOf sid'
  sessions : ∀ sid', (s'.shared.getSession sid').isSome ↔ (s.shared.getSession sid').isSome
  origin : Shared.OriginOutside sid s.shared s'.shared

/-- The clean-up of a handler task does this, if it comes in order. -/
theorem CleanupInOrder.streamCleansUp {s s' : Server} {i : ℕ}
    (hG : s.CleanupInOrder (.streamTurn i)) (hs : s.Sound) {st : CommandStream} {sid : String}
    (hi : s.streams[i]? = some st) (hp : st.phase = .cleanup) (hsid : st.sessionId = some sid)
    (hlock : s.lock = none) (hshared : s'.shared = s.shared.clearCommandChannel sid)
    (hset : s'.streams = s.streams.set i { st with phase := .finished })
    (hreg : s'.registrations = s.registrations) (hcreated : s'.created = s.created) :
    StreamCleansUp s s' i sid := by
  have hcleaned : ∀ t, s'.CleanedUp t ↔ t = i ∨ s.CleanedUp t := by
    intro t
    rw [cleanedUp_set hi hset]
    split_ifs with ht <;> simp [ht]
  have hchannel := Shared.channelOf_clearCommandChannel s.shared sid
  rw [← hshared] at hchannel
  exact ⟨hcreated, hreg, by rw [bindingOf_of_getElem? hi, hp, hsid],
    by rw [bindingOf_set hi hset, if_pos rfl, CommandStream.binding, hsid],
    fun t ht => by rw [bindingOf_set hi hset, if_neg ht], hcleaned,
    fun t hsome hl => (hcleaned t).mpr (hG i st sid rfl hi hp hsid hlock hsome t hl),
    fun sid' => (hchannel sid').1, fun sid' => (hchannel sid').2,
    hshared ▸ Shared.originOutside_clearCommandChannel hs.consistent sid⟩

namespace StreamCleansUp

variable {s s' : Server} {i : ℕ} {sid : String}

/-- A clean-up registers nothing. -/
theorem latest (hc : StreamCleansUp s s' i sid) (sid' : String) :
    s'.latest sid' = s.latest sid' := by
  unfold Server.latest
  rw [hc.registrations]

/-- Every registered stream stays bound to its session. -/
theorem registered (hc : StreamCleansUp s s' i sid) (h : s.Owned) {sid' : String} {t : ℕ}
    (hmem : (sid', t) ∈ s'.registrations) : sid' ∈ s'.created ∧
      ∃ p, s'.bindingOf t = some (some sid', p) ∧ ∀ r, p ≠ .registering r := by
  rw [hc.registrations] at hmem
  rw [hc.created]
  obtain ⟨hcr, p, hp, hne⟩ := h.registered sid' t hmem
  refine ⟨hcr, ?_⟩
  by_cases hti : t = i
  · subst hti
    rw [hc.ending] at hp
    cases hp
    exact ⟨.finished, hc.bound, by simp⟩
  · exact ⟨p, (hc.others t hti).trans hp, hne⟩

/-- The latest stream of a session has its channel, unless the session is the one whose
channel is cleared: its latest stream is cleaned up. -/
theorem owner (hc : StreamCleansUp s s' i sid) (h : s.Owned) {sid' : String} {t : ℕ}
    (hl : s'.latest sid' = some t) (hcl : ¬ s'.CleanedUp t)
    (hsome : (s'.shared.getSession sid').isSome) : s'.shared.channelOf sid' = some t := by
  rw [hc.latest] at hl
  have hsome₀ := (hc.sessions sid').mp hsome
  rw [hc.channel]
  split_ifs with hid
  · subst hid
    exact absurd (hc.inOrder t hsome₀ hl) hcl
  · have hcl₀ : ¬ s.CleanedUp t := fun hc' => hcl ((hc.cleanedUp t).mpr (Or.inr hc'))
    exact h.owner sid' t hl hcl₀ hsome₀

/-- A session whose latest stream has been cleaned up has no channel. -/
theorem cleaned (hc : StreamCleansUp s s' i sid) (h : s.Owned) {sid' : String} {t : ℕ}
    (hl : s'.latest sid' = some t) (hcl : s'.CleanedUp t) : s'.shared.channelOf sid' = none := by
  rw [hc.latest] at hl
  rw [hc.channel]
  split_ifs with hid
  · rfl
  · rcases (hc.cleanedUp t).mp hcl with rfl | hcl
    · -- a stream registers for one session only
      obtain ⟨-, p, hp, -⟩ := h.registered sid' t (latest_mem hl)
      rw [hc.ending] at hp
      cases hp
      exact absurd rfl hid
    · exact h.cleaned sid' t hl hcl

/-- The senders of the latest streams are kept. -/
theorem kept (hc : StreamCleansUp s s' i sid) (h : s.Owned) {rx : ℕ} {w' : Waiter}
    (hw' : s'.shared.waiters[rx]? = some w') (hl : s'.latest w'.sessionId = some w'.stream)
    (hcl : ¬ s'.CleanedUp w'.stream) (hsome : (s'.shared.getSession w'.sessionId).isSome) :
    ¬ s'.shared.Lost w' := by
  obtain ⟨w, hw, hws, hwt, hlost⟩ := hc.origin rx w' hw'
  rw [hws, hwt, hc.latest] at hl
  rw [hwt] at hcl
  rw [hws] at hsome
  have hsome₀ := (hc.sessions _).mp hsome
  by_cases hid : w.sessionId = sid
  · -- the senders of the session are dropped, but its latest stream is cleaned up now
    exact absurd (hc.inOrder _ (hid ▸ hsome₀) (hid ▸ hl)) hcl
  · have hcl₀ : ¬ s.CleanedUp w.stream := fun hc' => hcl ((hc.cleanedUp _).mpr (Or.inr hc'))
    have hkept := h.kept rx w hw hl hcl₀ hsome₀
    exact fun hlost' => hkept (hlost hid hlost')

/-- **A clean-up** that comes in order keeps the ownership. -/
theorem owned (hc : StreamCleansUp s s' i sid) (h : s.Owned) : s'.Owned where
  bound := by
    intro t x r ht
    by_cases hti : t = i
    · subst hti
      rw [hc.bound] at ht
      cases ht
    · exact h.bound t x r (hc.others t hti ▸ ht)
  registered _ _ hmem := hc.registered h hmem
  channel := by
    intro sid' t hch
    rw [hc.channel] at hch
    rw [hc.registrations]
    split_ifs at hch
    exact h.channel sid' t hch
  issued := h.issued_of_outside hc.origin (hc.registrations ▸ List.Subset.refl _)
  owner _ _ hl hcl hsome := hc.owner h hl hcl hsome
  cleaned _ _ hl hcl := hc.cleaned h hl hcl
  kept _ _ hw hl hcl hsome := hc.kept h hw hl hcl hsome

end StreamCleansUp

/-! ## Sessions that begin and end -/

/-- A new session has no channel, and the others keep theirs. -/
theorem channelOf_createSession (t : Shared) {id : String} (now : ℕ) (clientId : String)
    (hfresh : t.getSession id = none) (sid : String) :
    (t.createSession id now clientId).channelOf sid = t.channelOf sid := by
  unfold Shared.channelOf
  rw [Shared.createSession, Shared.getSession_putSession t id rfl]
  split_ifs with hid
  · subst hid
    rw [hfresh]
    rfl
  · rfl

/-- **A new session** keeps the ownership: no stream has registered for it. -/
theorem Owned.establish {s : Server} (h : s.Owned) (hs : s.Sound) {id : String}
    (req : ConnectRequest) (hfresh : s.FreshId id) : (s.establishSession id req).Owned := by
  have hchannel : ∀ sid, (s.establishSession id req).shared.channelOf sid =
      s.shared.channelOf sid :=
    channelOf_createSession s.shared s.now req.clientId (getSession_of_fresh hs.created hfresh)
  -- no stream has registered for the new session
  have hold : ∀ sid t, s.latest sid = some t → sid ≠ id := by
    rintro sid t hl rfl
    exact hfresh.1 (h.registered sid t (latest_mem hl)).1
  have hsome : ∀ sid, sid ≠ id → ((s.establishSession id req).shared.getSession sid).isSome →
      (s.shared.getSession sid).isSome := by
    intro sid hid hsm
    rw [establishSession, Shared.getSession_putSession s.shared id rfl, if_neg hid] at hsm
    exact hsm
  constructor
  case bound => exact h.bound
  case registered =>
    intro sid t hmem
    obtain ⟨hcr, hrest⟩ := h.registered sid t hmem
    exact ⟨List.mem_cons_of_mem _ hcr, hrest⟩
  case channel =>
    intro sid t hch
    exact h.channel sid t (hchannel sid ▸ hch)
  case issued => exact h.issued
  case owner =>
    intro sid t hl hcl hsm
    rw [hchannel]
    exact h.owner sid t hl hcl (hsome sid (hold sid t hl) hsm)
  case cleaned =>
    intro sid t hl hcl
    rw [hchannel]
    exact h.cleaned sid t hl hcl
  case kept =>
    intro rx w hw hl hcl hsm
    exact h.kept rx w hw hl hcl (hsome _ (hold _ _ hl) hsm)

/-- **The removal of a session** keeps the ownership of the others. -/
theorem Owned.remove {s : Server} (h : s.Owned) (hs : s.Sound) (id : String) :
    ({ s with shared := s.shared.removeSession id } : Server).Owned := by
  have horigin := Shared.originOutside_removeSession hs.consistent id
  have hsome : ∀ sid, ((s.shared.removeSession id).getSession sid).isSome →
      sid ≠ id ∧ (s.shared.getSession sid).isSome := by
    intro sid hsm
    rw [Shared.getSession_removeSession] at hsm
    split_ifs at hsm with hid
    · cases hsm
    · exact ⟨hid, hsm⟩
  have hchannel : ∀ sid, (s.shared.removeSession id).channelOf sid =
      if sid = id then none else s.shared.channelOf sid := by
    intro sid
    unfold Shared.channelOf
    rw [Shared.getSession_removeSession]
    split_ifs <;> rfl
  constructor
  case bound => exact h.bound
  case registered => exact h.registered
  case channel =>
    intro sid t hch
    rw [hchannel] at hch
    split_ifs at hch
    exact h.channel sid t hch
  case issued => exact h.issued_of_outside horigin (List.Subset.refl _)
  case owner =>
    intro sid t hl hcl hsm
    obtain ⟨hid, hsm'⟩ := hsome sid hsm
    rw [hchannel, if_neg hid]
    exact h.owner sid t hl hcl hsm'
  case cleaned =>
    intro sid t hl hcl
    rw [hchannel]
    split_ifs
    · rfl
    · exact h.cleaned sid t hl hcl
  case kept =>
    intro rx w' hw' hl hcl hsm hlost
    obtain ⟨w, hw, hws, hwt, hlost'⟩ := horigin rx w' hw'
    rw [hws] at hsm
    obtain ⟨hid, hsm'⟩ := hsome _ hsm
    rw [hws, hwt] at hl
    rw [hwt] at hcl
    exact h.kept rx w hw hl hcl hsm' (hlost' hid hlost)

/-- **The ownership is kept** by every step, as long as clean-ups come in
order. -/
theorem Effect.owned {s s' : Server} {a : Action} (h : Effect s a s') (hs : s.Sound)
    (ho : s.Owned) (hG : s.CleanupInOrder a) : s'.Owned := by
  -- an operation of a vpcd task is traffic, and touches no binding
  have hperf : ∀ {i : ℕ} {outcome : Outcome} {stream stream' : TcpStream} {o : VpcdOp}
      {answer : Option (VpcdRet o)} {s₁ : Server},
      s.perform i stream outcome o = some (answer, stream', s₁) →
        Relation.ReflTransGen Shared.Traffic s.shared s₁.shared ∧
          s₁.registrations = s.registrations ∧ s₁.created = s.created ∧
          ∀ t, s₁.bindingOf t = s.bindingOf t := by
    intro i outcome stream stream' o answer s₁ h
    obtain ⟨shared, streams, lock, rfl, ht, hbind⟩ := perform_frame h
    exact ⟨ht, rfl, rfl, hbind⟩
  cases h with
  | service ha h => exact ho.of_sameBindings hs.consistent h rfl rfl fun _ => rfl
  | establish hfresh => exact ho.establish hs _ hfresh
  | remove => exact ho.remove hs _
  | newStream =>
    refine ho.of_traffic hs.consistent .refl rfl rfl ?_ ?_
    · intro i x r hi
      rw [bindingOf_commandChannel] at hi
      split_ifs at hi
      · cases hi
      · exact ho.bound i x r hi
    · intro t sid p hp hne
      refine ⟨p, ?_, hne, Iff.rfl⟩
      rw [bindingOf_commandChannel, if_neg, hp]
      rintro rfl
      simp [bindingOf] at hp
  | @item i st item hi hp =>
    refine ho.of_handler hs.consistent .refl rfl rfl hi rfl ?_ ?_
    · intro r hr
      unfold streamNext at hr ⊢
      split at hr
      · split at hr
        · simp only [StreamPhase.registering.injEq] at hr
          subst hr
          rfl
        · exact absurd hr ((afterRegistration_ne _).1 r)
      · cases hr
      · cases hr
    · intro sid hsid hne
      have hafter := afterRegistration_ne
      unfold streamNext
      split
      · simp only [hsid, hp]
        exact ⟨trivial, (hafter _).1, by simp [(hafter _).2.1]⟩
      · simp [hsid, hp]
      · simp [hsid, hp]
  | take hi hr =>
    exact ho.of_sameBindings hs.consistent .refl rfl rfl (sameBindings_set hi rfl)
  | close hi =>
    exact ho.of_sameBindings hs.consistent .refl rfl rfl (sameBindings_set hi rfl)
  | register hi hp hsome =>
    exact StreamRegisters.owned (ho.streamRegisters hs hi hp hsome rfl rfl rfl rfl) ho
  | @unknown i st response hi hp hnone =>
    refine ho.of_handler hs.consistent .refl rfl rfl hi rfl (by simp) ?_
    intro sid hsid hne
    exact absurd hp (hne response)
  | respond hi hp hsid =>
    refine ho.of_handler hs.consistent (.single (.handleResponse ..)) rfl rfl hi rfl (by simp) ?_
    intro sid hsid' hne
    simp [hsid', hp]
  | cleanup hi hp hsid hlock =>
    exact StreamCleansUp.owned (hG.streamCleansUp hs hi hp hsid hlock rfl rfl rfl rfl) ho
  | unbound hi hp hsid =>
    refine ho.of_handler hs.consistent .refl rfl rfl hi rfl (by simp) ?_
    intro sid hsid' hne
    rw [hsid] at hsid'
    cases hsid'
  | suspend ht hp h =>
    obtain ⟨htr, hreg, hcr, hbind⟩ := hperf h
    exact ho.of_sameBindings hs.consistent htr hreg hcr hbind
  | answer ht hp h =>
    obtain ⟨htr, hreg, hcr, hbind⟩ := hperf h
    exact ho.of_sameBindings hs.consistent htr hreg hcr hbind
  | _ => exact ho.of_sameBindings hs.consistent .refl rfl rfl fun _ => rfl

/-! ## The ownership theorem -/

/-- A step from `s` by the action `a` respects the ownership of the channels:
the end of a stream takes the channel of a session away only if the stream is
the one registered most recently, and afterwards every session of the table
whose most recent stream has not ended has a channel to that stream, with no
sender of a waiting command dropped. -/
def KeepsOwnership (svc : SmartcardService) (s : Server) (a : Action) : Prop :=
  ∀ s', step svc s a = some s' →
    (∀ i st sid, a = .streamTurn i → s.streams[i]? = some st → st.phase = .cleanup →
      st.sessionId = some sid → (s.shared.channelOf sid).isSome →
        s'.shared.channelOf sid = none → s.latest sid = some i) ∧
    ∀ sid t, s'.latest sid = some t → ¬ s'.Ended t → (s'.shared.getSession sid).isSome →
      s'.shared.channelOf sid = some t ∧
        ∀ (rx : ℕ) (w : Waiter), s'.shared.waiters[rx]? = some w → w.sessionId = sid →
          w.stream = t → ¬ s'.shared.Lost w

/-- A step in order respects the ownership. -/
theorem keepsOwnership_of_cleanupInOrder {svc : SmartcardService} {s : Server} {a : Action}
    (hs : s.Sound) (ho : s.Owned) (hG : s.CleanupInOrder a) : KeepsOwnership svc s a := by
  intro s' hstep
  have ho' := (step_effect hstep).owned hs ho hG
  have hended : ∀ t, ¬ s'.Ended t → ¬ s'.CleanedUp t := by
    rintro t ht ⟨x, hx⟩
    exact ht ⟨x, Or.inr hx⟩
  refine ⟨?_, fun sid t hl ht hsome => ⟨ho'.owner sid t hl (hended t ht) hsome, ?_⟩⟩
  · intro i st sid ha hi hp hsid hsome hnone
    obtain ⟨x, hx⟩ := Option.isSome_iff_exists.mp hsome
    have hlock : s.lock = none := by
      by_contra hlock
      simp [ha, step, hi, streamTurn, hp, hsid, Option.isSome_iff_ne_none.mpr hlock] at hstep
    have hin : (s.shared.getSession sid).isSome := by
      unfold Shared.channelOf at hx
      cases hg : s.shared.getSession sid with
      | none => simp [hg] at hx
      | some session => rfl
    cases hl : s.latest sid with
    | none =>
      -- a channel is always that of a registered stream
      have hmem := ho.channel sid x hx
      unfold latest at hl
      rw [Option.map_eq_none_iff, List.find?_eq_none] at hl
      simpa using hl _ hmem
    | some t =>
      rcases hG i st sid ha hi hp hsid hlock hin t hl with rfl | hcl
      · rfl
      · rw [ho.cleaned sid t hl hcl] at hx
        cases hx
  · rintro rx w hw rfl rfl
    exact ho'.kept rx w hw hl (hended _ ht) hsome

/-- A step that respects the ownership is in order: a clean-up out of order takes a channel
away that it does not own. -/
theorem cleanupInOrder_of_keepsOwnership {svc : SmartcardService} {s : Server} {a : Action}
    (ho : s.Owned) (hK : KeepsOwnership svc s a) : s.CleanupInOrder a := by
  rintro i st sid rfl hi hp hsid hlock hsome t hl
  -- otherwise this clean-up takes away the channel of the stream `t`
  by_contra hne
  rw [not_or] at hne
  have hch : s.shared.channelOf sid = some t := ho.owner sid t hl hne.2 hsome
  have hstep : step svc s (.streamTurn i) = some { s with
      shared := s.shared.clearCommandChannel sid
      streams := s.streams.set i { st with phase := .finished } } := by
    simp [step, hi, streamTurn, hp, hsid, hlock]
  have hlatest := (hK _ hstep).1 i st sid rfl hi hp hsid (by simp [hch])
    (by rw [(Shared.channelOf_clearCommandChannel s.shared sid sid).1, if_pos rfl])
  rw [hl] at hlatest
  exact hne.1 (Option.some.inj hlatest)

/-- **Ownership of the command channels.**  The steps of a run from the start all
respect the ownership exactly if all clean-ups of the run come in order. -/
theorem keepsOwnership_iff_cleanupInOrder (svc : SmartcardService) (as : List Action) :
    StepRun.StepsMeet (step svc) (KeepsOwnership svc) init as ↔
      StepRun.StepsMeet (step svc) CleanupInOrder init as := by
  symm
  refine StepRun.stepsMeet_congr (P := fun s => s.Sound ∧ s.Owned) ?_ ?_
    ⟨sound_init, owned_init⟩ as
  · rintro s a s' ⟨hs, ho⟩ hG hstep
    exact ⟨(step_effect hstep).sound hs, (step_effect hstep).owned hs ho hG⟩
  · rintro s a ⟨hs, ho⟩
    exact ⟨keepsOwnership_of_cleanupInOrder hs ho, cleanupInOrder_of_keepsOwnership ho⟩

/-- A client reconnects: its second stream registers, then the first one ends
and its handler task cleans up. -/
def reconnectRun : List Action :=
  [.establishSession "s" ⟨"client", "1"⟩,
    .commandChannel, .streamNext 0 (some (.ok ⟨0, "s", true, "", none⟩)), .streamTurn 0,
    .commandChannel, .streamNext 1 (some (.ok ⟨0, "s", true, "", none⟩)), .streamTurn 1,
    .streamNext 0 none]

/-- The state after `reconnectRun`. -/
def reconnectState : Server :=
  (StepRun.run (step ⟨"127.0.0.1", 35963, true⟩) init reconnectRun).getD init

theorem run_reconnectRun :
    StepRun.run (step ⟨"127.0.0.1", 35963, true⟩) init reconnectRun = some reconnectState := by
  have h : (StepRun.run (step ⟨"127.0.0.1", 35963, true⟩) init reconnectRun).isSome := by decide
  obtain ⟨s, hs⟩ := Option.isSome_iff_exists.mp h
  rw [reconnectState, hs]
  rfl

/-- The clean-up of the first stream takes the channel of the second away, which
is registered most recently and has not ended. -/
theorem not_keepsOwnership_reconnectRun :
    ¬ StepRun.StepsMeet (step ⟨"127.0.0.1", 35963, true⟩)
      (KeepsOwnership ⟨"127.0.0.1", 35963, true⟩) init (reconnectRun ++ [.streamTurn 0]) := by
  intro h
  have hlast := h.last run_reconnectRun
  have hstep : (step ⟨"127.0.0.1", 35963, true⟩ reconnectState (.streamTurn 0)).isSome := by
    decide
  obtain ⟨s', hs'⟩ := Option.isSome_iff_exists.mp hstep
  have hafter : ((step ⟨"127.0.0.1", 35963, true⟩ reconnectState (.streamTurn 0)).map fun s' =>
      (s'.latest "s", s'.bindingOf 1, (s'.shared.getSession "s").isSome,
        s'.shared.channelOf "s")) = some (some 1, some (some "s", .waiting), true, none) := by
    decide
  rw [hs'] at hafter
  simp only [Option.map_some, Option.some.injEq, Prod.mk.injEq] at hafter
  obtain ⟨hlatest, hopen, hsome, hnone⟩ := hafter
  have hchannel := ((hlast s' hs').2 "s" 1 hlatest (by simp [Ended, hopen]) hsome).1
  rw [hnone] at hchannel
  cases hchannel

end Server

end RemoteSmartcard
