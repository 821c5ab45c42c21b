/-
# The streams a session has had

A stream registers for a session with its first message and never again.  So the
channel of a session, and every channel a command was ever issued on, is that of a
stream bound to the session and done with its registration (`Settled`); and once
the channel of the session is another one, or there is none, that stream never gets
it back.
-/
import RemoteSmartcard.ChannelOwnership

namespace RemoteSmartcard

namespace Server

/-- The stream `t` is bound to the session `sid` and not about to register. -/
def Settled (s : Server) (sid : String) (t : ℕ) : Prop :=
  ∃ p, s.bindingOf t = some (some sid, p) ∧ ∀ r, p ≠ .registering r

/-- One handler task takes a step, and the others stand where they stood. -/
theorem settled_set {s s' : Server} {i : ℕ} {st st' : CommandStream}
    (hi : s.streams[i]? = some st) (hset : s'.streams = s.streams.set i st')
    (hkeep : ∀ sid, st.sessionId = some sid → (∀ r, st.phase ≠ .registering r) →
      st'.sessionId = some sid ∧ ∀ r, st'.phase ≠ .registering r) {sid : String} {t : ℕ}
    (h : s.Settled sid t) : s'.Settled sid t := by
  obtain ⟨p, hp, hne⟩ := h
  unfold Settled
  rw [bindingOf_set hi hset]
  split_ifs with hti
  · subst hti
    rw [bindingOf_of_getElem? hi] at hp
    obtain ⟨hsid, hphase⟩ := Prod.mk.injEq .. ▸ Option.some.inj hp
    subst hphase
    obtain ⟨hsid', hne'⟩ := hkeep sid hsid hne
    exact ⟨st'.phase, by rw [CommandStream.binding, hsid'], hne'⟩
  · exact ⟨p, hp, hne⟩

theorem settled_of_sameBindings {s s' : Server} (h : ∀ t, s'.bindingOf t = s.bindingOf t)
    {sid : String} {t : ℕ} : s'.Settled sid t ↔ s.Settled sid t := by
  unfold Settled
  rw [h]

theorem perform_bindingOf {s s' : Server} {i : ℕ} {stream stream' : TcpStream} {outcome : Outcome}
    {o : VpcdOp} {answer : Option (VpcdRet o)}
    (h : s.perform i stream outcome o = some (answer, stream', s')) (t : ℕ) :
    s'.bindingOf t = s.bindingOf t := by
  obtain ⟨shared, streams, lock, rfl, -, hbind⟩ := perform_frame h
  exact hbind t

/-- **A stream that has settled stays so.** -/
theorem Effect.settled {s s' : Server} {a : Action} (h : Effect s a s') {sid : String} {t : ℕ}
    (hs : s.Settled sid t) : s'.Settled sid t := by
  cases h with
  | newStream =>
    obtain ⟨p, hp, hne⟩ := hs
    refine ⟨p, ?_, hne⟩
    have hlt : t < s.streams.length := by
      by_contra hge
      simp [bindingOf, List.getElem?_eq_none (Nat.not_lt.mp hge)] at hp
    rw [← hp]
    exact congrArg (Option.map _) (List.getElem?_append_left hlt)
  | @item i st item hi hp =>
    refine settled_set hi rfl (fun sid hsid _ => ?_) hs
    unfold streamNext
    split
    · simp only [hsid]
      exact ⟨trivial, (afterRegistration_ne _).1⟩
    · exact ⟨hsid, by simp⟩
    · exact ⟨hsid, by simp⟩
  | take hi hr =>
    refine settled_set hi rfl ?_ hs
    exact fun sid hsid hne => ⟨hsid, hne⟩
  | close hi =>
    refine settled_set hi rfl ?_ hs
    exact fun sid hsid hne => ⟨hsid, hne⟩
  | register hi hp hsome =>
    refine settled_set hi rfl ?_ hs
    exact fun sid hsid _ => ⟨hsid, (afterRegistration_ne _).1⟩
  | unknown hi hp hnone =>
    refine settled_set hi rfl ?_ hs
    exact fun sid hsid _ => ⟨hsid, by simp⟩
  | respond hi hp hbound =>
    refine settled_set hi rfl ?_ hs
    exact fun sid hsid _ => ⟨hsid, by simp⟩
  | cleanup hi hp hbound hlock =>
    refine settled_set hi rfl ?_ hs
    exact fun sid hsid _ => ⟨hsid, by simp⟩
  | unbound hi hp hbound =>
    refine settled_set hi rfl ?_ hs
    exact fun sid hsid _ => ⟨hsid, by simp⟩
  | suspend ht hp h => exact (settled_of_sameBindings (perform_bindingOf h)).mpr hs
  | answer ht hp h =>
    have hsame := (settled_of_sameBindings (perform_bindingOf h)).mpr hs
    exact hsame
  | _ => exact hs

/-- A channel that a session has after a step it had before, or its stream registers
in the step. -/
theorem Effect.channel {s s' : Server} {a : Action} (h : Effect s a s') (hs : s.Sound)
    {sid : String} {t : ℕ} (hch : s'.shared.channelOf sid = some t) :
    s.shared.channelOf sid = some t ∨
      ∃ st r, a = .streamTurn t ∧ s.streams[t]? = some st ∧ st.phase = .registering r ∧
        r.sessionId = sid ∧
        s'.streams = s.streams.set t { st with phase := afterRegistration r } := by
  have htraffic : ∀ {shared : Shared}, Relation.ReflTransGen Shared.Traffic s.shared shared →
      shared.channelOf sid = some t → s.shared.channelOf sid = some t := by
    intro shared h hch
    rw [← hch]
    exact ((Shared.traffic_spec h hs.consistent).1 sid).1.symm
  cases h with
  | service ha h => exact Or.inl (htraffic h hch)
  | @establish id req hfresh =>
    have hfree := getSession_of_fresh hs.created hfresh
    exact Or.inl ((channelOf_createSession s.shared s.now req.clientId hfree sid).symm.trans hch)
  | @remove id =>
    left
    unfold Shared.channelOf at hch ⊢
    rw [Shared.getSession_removeSession] at hch
    split_ifs at hch
    · cases hch
    · exact hch
  | @register i st r hi hp hsome =>
    rw [(Shared.channelOf_setCommandChannel hsome i sid).1] at hch
    split_ifs at hch with hsid
    · cases hch
      exact Or.inr ⟨st, r, rfl, hi, hp, hsid.symm, rfl⟩
    · exact Or.inl hch
  | cleanup hi hp hsid hlock =>
    rw [(Shared.channelOf_clearCommandChannel ..).1] at hch
    split_ifs at hch
    exact Or.inl hch
  | respond hi hp hsid => exact Or.inl (htraffic (.single (.handleResponse ..)) hch)
  | suspend ht hp h =>
    obtain ⟨shared, streams, lock, rfl, ht, -⟩ := perform_frame h
    exact Or.inl (htraffic ht hch)
  | answer ht hp h =>
    obtain ⟨shared, streams, lock, rfl, ht, -⟩ := perform_frame h
    exact Or.inl (htraffic ht hch)
  | _ => exact Or.inl hch

/-- A command there is after a step was there before, or is issued on the channel of
its session. -/
theorem Effect.waiter {s s' : Server} {a : Action} (h : Effect s a s') (hs : s.Sound) {rx : ℕ}
    {w' : Waiter} (hw' : s'.shared.waiters[rx]? = some w') :
    (∃ w, s.shared.waiters[rx]? = some w ∧ w'.sessionId = w.sessionId ∧ w'.stream = w.stream) ∨
      s.shared.channelOf w'.sessionId = some w'.stream := by
  have htraffic : ∀ {shared : Shared}, Relation.ReflTransGen Shared.Traffic s.shared shared →
      shared.waiters[rx]? = some w' →
      (∃ w, s.shared.waiters[rx]? = some w ∧ w'.sessionId = w.sessionId ∧
        w'.stream = w.stream) ∨ s.shared.channelOf w'.sessionId = some w'.stream := by
    intro shared h hw'
    rcases (Shared.traffic_spec h hs.consistent).2 rx w' hw' with
      ⟨w, hw, hsid, hst, -⟩ | ⟨-, hch⟩
    · exact Or.inl ⟨w, hw, hsid, hst⟩
    · exact Or.inr hch
  have houtside : ∀ {sid : String} {shared : Shared}, Shared.OriginOutside sid s.shared shared →
      shared.waiters[rx]? = some w' →
      ∃ w, s.shared.waiters[rx]? = some w ∧ w'.sessionId = w.sessionId ∧
        w'.stream = w.stream := by
    intro sid shared h hw'
    obtain ⟨w, hw, hsid, hst, -⟩ := h rx w' hw'
    exact ⟨w, hw, hsid, hst⟩
  cases h with
  | service ha h => exact htraffic h hw'
  | remove => exact Or.inl (houtside (Shared.originOutside_removeSession hs.consistent _) hw')
  | register hi hp hsome =>
    exact Or.inl (houtside (Shared.originOutside_setCommandChannel hs.consistent _ _) hw')
  | cleanup hi hp hsid hlock =>
    exact Or.inl (houtside (Shared.originOutside_clearCommandChannel hs.consistent _) hw')
  | respond hi hp hsid => exact htraffic (.single (.handleResponse ..)) hw'
  | suspend ht hp h =>
    obtain ⟨shared, streams, lock, rfl, ht, -⟩ := perform_frame h
    exact htraffic ht hw'
  | answer ht hp h =>
    obtain ⟨shared, streams, lock, rfl, ht, -⟩ := perform_frame h
    exact htraffic ht hw'
  | _ => exact Or.inl ⟨w', hw', rfl, rfl⟩

/-! ## The invariant -/

/-- The streams the sessions have had; see the head of the file. -/
structure History (s : Server) : Prop where
  registering : ∀ i x r, s.bindingOf i = some (x, .registering r) → x = some r.sessionId
  channel : ∀ sid t, s.shared.channelOf sid = some t → s.Settled sid t
  issued : ∀ (rx : ℕ) (w : Waiter), s.shared.waiters[rx]? = some w →
    s.Settled w.sessionId w.stream

/-- At the start no stream has registered. -/
theorem history_init : init.History where
  registering := by intro i x r h; simp [bindingOf, init] at h
  channel := by intro sid t h; simp [init, Shared.init, Shared.channelOf, Shared.getSession] at h
  issued := by intro rx w h; simp [init, Shared.init] at h

/-- A stream about to register is bound to the session its message names. -/
theorem Effect.registering {s s' : Server} {a : Action} (h : Effect s a s')
    (hr : ∀ i x r, s.bindingOf i = some (x, .registering r) → x = some r.sessionId) :
    ∀ i x r, s'.bindingOf i = some (x, .registering r) → x = some r.sessionId := by
  -- one handler task takes a step
  have hset : ∀ {s₁ : Server} {i : ℕ} {st st' : CommandStream}, s.streams[i]? = some st →
      s₁.streams = s.streams.set i st' →
      (∀ r, st'.phase = .registering r → st'.sessionId = some r.sessionId) →
      ∀ j x r, s₁.bindingOf j = some (x, .registering r) → x = some r.sessionId := by
    intro s₁ i st st' hi hset hst' j x r hj
    rw [bindingOf_set hi hset] at hj
    split_ifs at hj
    · obtain ⟨rfl, hphase⟩ := Prod.mk.injEq .. ▸ Option.some.inj hj
      exact hst' r hphase
    · exact hr j x r hj
  cases h with
  | newStream =>
    intro j x r hj
    rw [bindingOf_commandChannel] at hj
    split_ifs at hj
    · cases hj
    · exact hr j x r hj
  | @item i st item hi hp =>
    refine hset hi rfl fun r hphase => ?_
    unfold streamNext at hphase ⊢
    split at hphase
    · split at hphase
      · cases hphase
        rfl
      · exact absurd hphase ((afterRegistration_ne _).1 r)
    · cases hphase
    · cases hphase
  | take hi hrecv =>
    refine hset hi rfl fun r hphase => ?_
    exact hr _ _ r ((bindingOf_of_getElem? hi).trans (by rw [← hphase]))
  | close hi =>
    refine hset hi rfl fun r hphase => ?_
    exact hr _ _ r ((bindingOf_of_getElem? hi).trans (by rw [← hphase]))
  | register hi hp hsome =>
    exact hset hi rfl fun r hphase => absurd hphase ((afterRegistration_ne _).1 r)
  | unknown hi hp hnone => exact hset hi rfl fun r hphase => by cases hphase
  | respond hi hp hsid => exact hset hi rfl fun r hphase => by cases hphase
  | cleanup hi hp hsid hlock => exact hset hi rfl fun r hphase => by cases hphase
  | unbound hi hp hsid => exact hset hi rfl fun r hphase => by cases hphase
  | suspend ht hp h =>
    intro j x r hj
    exact hr j x r ((perform_bindingOf h j).symm.trans hj)
  | answer ht hp h =>
    intro j x r hj
    exact hr j x r ((perform_bindingOf h j).symm.trans hj)
  | _ => exact hr

/-- **Each step** goes on with the history of the channels. -/
theorem Effect.history {s s' : Server} {a : Action} (h : Effect s a s') (hs : s.Sound)
    (hh : s.History) : s'.History where
  registering := h.registering hh.registering
  channel := by
    intro sid t hch
    rcases h.channel hs hch with hch | ⟨st, r, -, ht, hp, rfl, hstreams⟩
    · exact h.settled (hh.channel sid t hch)
    · -- the stream has just registered
      have hbound := hh.registering t st.sessionId r
        ((bindingOf_of_getElem? ht).trans (by rw [hp]))
      refine ⟨afterRegistration r, ?_, (afterRegistration_ne r).1⟩
      rw [bindingOf_set ht hstreams, if_pos rfl, CommandStream.binding, hbound]
  issued := by
    intro rx w' hw'
    rcases h.waiter hs hw' with ⟨w, hw, hsid, hst⟩ | hch
    · rw [hsid, hst]
      exact h.settled (hh.issued rx w hw)
    · exact h.settled (hh.channel _ _ hch)

/-- In every reachable state the channels are what their history says. -/
theorem Reachable.history {svc : SmartcardService} {s : Server} (h : s.Reachable svc) :
    s.History :=
  (StepRun.invariant_reaches (P := fun s => s.Sound ∧ s.History)
    (fun _ _ _ hP hstep => ⟨(step_effect hstep).sound hP.1,
      (step_effect hstep).history hP.1 hP.2⟩) ⟨sound_init, history_init⟩ h).2

/-- **A settled stream never comes back** as the channel of its session. -/
theorem Effect.channel_of_settled {s s' : Server} {a : Action} (h : Effect s a s') (hs : s.Sound)
    {sid : String} {t : ℕ} (hsettled : s.Settled sid t)
    (hch : s'.shared.channelOf sid = some t) : s.shared.channelOf sid = some t := by
  refine (h.channel hs hch).resolve_right ?_
  rintro ⟨st, r, -, ht, hp, -, -⟩
  obtain ⟨p, hbound, hne⟩ := hsettled
  rw [bindingOf_of_getElem? ht] at hbound
  obtain ⟨-, hphase⟩ := Prod.mk.injEq .. ▸ Option.some.inj hbound
  exact hne r (hphase.symm.trans hp)

end Server

end RemoteSmartcard
