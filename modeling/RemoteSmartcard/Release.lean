/-
# Every waiter is released

A command accepted into the queue of a client has its sender in the pending map of
its session; or a response has been sent through it; or it has been dropped, which
happens only when the channel the command was issued on is replaced, cleared or
removed with its session (`Severed`), and then releases the waiter with an error.
Command ids wrap after 2^64 commands; a sender whose id is used again is dropped as
well.
-/
import RemoteSmartcard.ChannelHistory
import RemoteSmartcard.Receivers

namespace RemoteSmartcard

open Program hiding pure

namespace Shared

/-- The waiter finds its response, with the id of the command and handled for its
session. -/
def Resolved (t : Shared) (w : Waiter) : Prop :=
  ∃ r, w.oneshot.poll = some (.ok r) ∧ r.commandId = w.request.commandId ∧
    (w.sessionId, r) ∈ t.handled

/-- The waiter finds an error, since the channel its command was issued on is not the
channel of the session any more (or command ids have wrapped). -/
def Released (t : Shared) (w : Waiter) : Prop :=
  w.oneshot.poll = some (.error ()) ∧
    (t.channelOf w.sessionId ≠ some w.stream ∨ 2 ^ 64 ≤ t.waiters.length)

/-- A heap only grows. -/
theorem Later.length_le {t t' : Shared} (h : t.Later t') :
    t.waiters.length ≤ t'.waiters.length := by
  by_contra hlt
  have hw := List.getElem?_eq_getElem (Nat.not_le.mp hlt)
  obtain ⟨w', hw', -⟩ := h.waiters _ _ hw
  rw [List.getElem?_eq_none (le_refl _)] at hw'
  cases hw'

/-! ## The operations that take a channel away -/

/-- Between `t` and `t'` every command waiting in the session `sid` is released, it
was issued on the channel of that session, and the waiters of no other session are
touched. -/
def ReleasesOnly (t t' : Shared) (sid : String) : Prop :=
  ∀ (rx : ℕ) (w : Waiter), t.waiters[rx]? = some w → ∃ w', t'.waiters[rx]? = some w' ∧
    (w.sessionId = sid → w.oneshot.poll = none →
      t.channelOf sid = some w.stream ∧ w'.oneshot.poll = some (.error ())) ∧
    (w.sessionId ≠ sid → w' = w)

/-- Every session with a waiting command is in the table, with the channel of the
command. -/
theorem channelOf_of_held {t : Shared} (hc : t.Consistent) {rx : ℕ} {w : Waiter}
    (hw : t.waiters[rx]? = some w) (hheld : w.oneshot.sender = .held) :
    t.channelOf w.sessionId = some w.stream := by
  obtain ⟨session, channel, hs, hch, hst, -⟩ := hc.stored rx w hw hheld
  rw [channelOf, hs]
  simp [hch, hst]

/-- Closing the senders of a session releases its waiters that still wait, and touches no
others. -/
theorem releasesOnly_closeSenders {t t' : Shared} (hc : t.Consistent) {sid : String}
    {session : Session} (hs : t.getSession sid = some session)
    (hw : t'.waiters = closeSenders session.pending t.waiters) : t.ReleasesOnly t' sid := by
  intro rx w hrx
  refine ⟨_, by rw [hw, getElem?_closeSenders, hrx]; rfl, ?_, ?_⟩
  · rintro rfl hpoll
    have hheld := Oneshot.sender_eq_held_of_poll hpoll
    have hholds : session.pending.Holds rx :=
      (holds_pending_iff hs).mpr ⟨_, _, hc.stored rx w hrx hheld⟩
    refine ⟨channelOf_of_held hc hrx hheld, ?_⟩
    rw [if_pos hholds]
    simp [Waiter.mapOneshot, Oneshot.dropSender, hheld, Oneshot.poll]
  · intro hne
    have hfree : ¬ session.pending.Holds rx := by
      intro hholds
      obtain ⟨st, c, hst⟩ := (holds_pending_iff hs).mp hholds
      obtain ⟨w₁, hw₁, hsid, -⟩ := hc.pending _ _ _ _ hst
      obtain rfl := Option.some.inj (hrx.symm.trans hw₁)
      exact hne hsid
    rw [if_neg hfree]
    rfl

/-- Where there is no session nothing is released. -/
theorem releasesOnly_of_none {t t' : Shared} (hc : t.Consistent) {sid : String}
    (hs : t.getSession sid = none) (hw : t'.waiters = t.waiters) : t.ReleasesOnly t' sid := by
  intro rx w hrx
  refine ⟨w, by rw [hw, hrx], ?_, fun _ => rfl⟩
  rintro rfl hpoll
  obtain ⟨session, -, hs', -⟩ := hc.stored rx w hrx (Oneshot.sender_eq_held_of_poll hpoll)
  rw [hs] at hs'
  cases hs'

/-- A registration releases those who waited on the channel before. -/
theorem releasesOnly_setCommandChannel {t : Shared} (hc : t.Consistent) (sid : String) (tx : ℕ) :
    t.ReleasesOnly (t.setCommandChannel sid tx) sid := by
  unfold setCommandChannel
  cases hs : t.getSession sid with
  | none => exact releasesOnly_of_none hc hs rfl
  | some session => exact releasesOnly_closeSenders hc hs rfl

/-- A clean-up releases those who waited on the channel. -/
theorem releasesOnly_clearCommandChannel {t : Shared} (hc : t.Consistent) (sid : String) :
    t.ReleasesOnly (t.clearCommandChannel sid) sid := by
  unfold clearCommandChannel
  cases hs : t.getSession sid with
  | none => exact releasesOnly_of_none hc hs rfl
  | some session => exact releasesOnly_closeSenders hc hs rfl

/-- So does the removal of the session. -/
theorem releasesOnly_removeSession {t : Shared} (hc : t.Consistent) (sid : String) :
    t.ReleasesOnly (t.removeSession sid) sid := by
  cases hs : t.getSession sid with
  | none =>
    rw [removeSession_of_none hs]
    exact releasesOnly_of_none hc hs rfl
  | some session =>
    rw [removeSession_of_some hs]
    exact releasesOnly_closeSenders hc hs rfl

end Shared

namespace Server

/-! ## The invariant -/

/-- Senders are dropped with the channel of their command only. -/
structure Severed (s : Server) : Prop where
  lost : ∀ (rx : ℕ) (w : Waiter), s.shared.waiters[rx]? = some w → s.shared.Lost w →
    s.shared.channelOf w.sessionId ≠ some w.stream
  closed : ∀ e ∈ s.log, ∀ rx, e.event = ⟨.recvResponse rx, .error .closed⟩ →
    ∃ w, s.shared.waiters[rx]? = some w ∧ w.oneshot.sender = .dropped ∧
      (s.shared.waiters.length < 2 ^ 64 → s.shared.channelOf w.sessionId ≠ some w.stream)

/-- At the start no sender has been dropped. -/
theorem severed_init : init.Severed where
  lost := by intro rx w h; simp [init, Shared.init] at h
  closed := by intro e he; cases he

/-- A sender lost after a step was lost before, or its channel has just gone. -/
theorem Effect.lost {s s' : Server} {a : Action} (h : Effect s a s') (hs : s.Sound)
    (hh : s.History) {rx : ℕ} {w' : Waiter} (hw' : s'.shared.waiters[rx]? = some w')
    (hlost : s'.shared.Lost w') :
    (∃ w, s.shared.waiters[rx]? = some w ∧ w'.sessionId = w.sessionId ∧ w'.stream = w.stream ∧
        s.shared.Lost w) ∨
      s'.shared.channelOf w'.sessionId ≠ some w'.stream := by
  have htraffic : ∀ {shared : Shared}, Relation.ReflTransGen Shared.Traffic s.shared shared →
      shared.waiters[rx]? = some w' → shared.Lost w' →
      ∃ w, s.shared.waiters[rx]? = some w ∧ w'.sessionId = w.sessionId ∧
        w'.stream = w.stream ∧ s.shared.Lost w := by
    intro shared h hw' hlost
    rcases (Shared.traffic_spec h hs.consistent).2 rx w' hw' with
      ⟨w, hw, hsid, hst, hback⟩ | ⟨hnew, -⟩
    · exact ⟨w, hw, hsid, hst, hback hlost⟩
    · exact absurd hlost hnew
  cases h with
  | service ha h => exact Or.inl (htraffic h hw' hlost)
  | @remove sid =>
    obtain ⟨w, hw, hsid, hst, hback⟩ :=
      Shared.originOutside_removeSession hs.consistent sid rx w' hw'
    by_cases hid : w.sessionId = sid
    · right
      rw [Shared.channelOf, Shared.getSession_removeSession, if_pos (hsid.trans hid)]
      simp
    · exact Or.inl ⟨w, hw, hsid, hst, hback hid hlost⟩
  | @register i st r hi hp hsome =>
    obtain ⟨w, hw, hsid, hst, hback⟩ :=
      Shared.originOutside_setCommandChannel hs.consistent r.sessionId i rx w' hw'
    by_cases hid : w.sessionId = r.sessionId
    · right
      rw [(Shared.channelOf_setCommandChannel hsome ..).1, if_pos (hsid.trans hid), hst]
      rintro hself
      -- the stream of an old command does not register again
      obtain ⟨p, hbound, hne⟩ := hh.issued rx w hw
      rw [← Option.some.inj hself, bindingOf_of_getElem? hi] at hbound
      obtain ⟨-, hphase⟩ := Prod.mk.injEq .. ▸ Option.some.inj hbound
      exact hne r (hphase.symm.trans hp)
    · exact Or.inl ⟨w, hw, hsid, hst, hback hid hlost⟩
  | @cleanup i st sid hi hp hbound hlock =>
    obtain ⟨w, hw, hsid, hst, hback⟩ :=
      Shared.originOutside_clearCommandChannel hs.consistent sid rx w' hw'
    by_cases hid : w.sessionId = sid
    · right
      rw [(Shared.channelOf_clearCommandChannel ..).1, if_pos (hsid.trans hid)]
      simp
    · exact Or.inl ⟨w, hw, hsid, hst, hback hid hlost⟩
  | respond hi hp hsid => exact Or.inl (htraffic (.single (.handleResponse ..)) hw' hlost)
  | suspend ht hp h =>
    obtain ⟨shared, streams, lock, rfl, ht, -⟩ := perform_frame h
    exact Or.inl (htraffic ht hw' hlost)
  | answer ht hp h =>
    obtain ⟨shared, streams, lock, rfl, ht, -⟩ := perform_frame h
    exact Or.inl (htraffic ht hw' hlost)
  | _ => exact Or.inl ⟨w', hw', rfl, rfl, hlost⟩

/-- **Each step** drops a sender only along with its channel. -/
theorem Transition.severed {svc : SmartcardService} {s s' : Server} {a : Action}
    (h : Transition svc s a s') (hs : s.Sound) (hh : s.History) (hsev : s.Severed) :
    s'.Severed := by
  have hlater := (h.effect.consistent hs).2
  constructor
  case lost =>
    intro rx w' hw' hlost hch
    rcases h.effect.lost hs hh hw' hlost with ⟨w, hw, hsid, hst, hlost⟩ | hgone
    · rw [hsid, hst] at hch
      exact hsev.lost rx w hw hlost (h.effect.channel_of_settled hs (hh.issued rx w hw) hch)
    · exact hgone hch
  case closed =>
    intro e he rx hev
    have hold : e ∈ s.log → ∃ w, s'.shared.waiters[rx]? = some w ∧
        w.oneshot.sender = .dropped ∧ (s'.shared.waiters.length < 2 ^ 64 →
          s'.shared.channelOf w.sessionId ≠ some w.stream) := by
      intro he
      obtain ⟨w, hw, hdropped, hch⟩ := hsev.closed e he rx hev
      obtain ⟨w', hw', hl⟩ := hlater.waiters rx w hw
      refine ⟨w', hw', ?_, fun hbound hch' => ?_⟩
      · rw [hl.sender (by simp [hdropped]), hdropped]
      · rw [hl.sessionId, hl.stream] at hch'
        exact hch (hlater.length_le.trans_lt hbound)
          (h.effect.channel_of_settled hs (hh.issued rx w hw) hch')
    rcases h.log with hlog | ⟨i, outcome, o, r, s₁, connection, rfl, hop, hperf, hsh, -, hlog⟩
    · exact hold (hlog ▸ he)
    · rw [hlog, List.mem_append, List.mem_singleton] at he
      rcases he with he | rfl
      · exact hold he
      · cases hev
        cases hperf with
        | onConnection ho => exact absurd ho id
        | @released rx w hw halive hdropped =>
          refine ⟨w.mapOneshot Oneshot.dropReceiver, ?_, hdropped, fun hbound hch => ?_⟩
          · rw [hsh]
            simp [Shared.dropReceiver, hw]
          · rw [hsh] at hbound hch
            have hlength := Shared.length_dropReceiver s.shared rx
            exact hsev.lost rx w hw ⟨halive, hdropped, hlength ▸ hbound⟩ hch

/-- So it is in every reachable state. -/
theorem Reachable.severed {svc : SmartcardService} {s : Server} (h : s.Reachable svc) :
    s.Severed :=
  (StepRun.invariant_reaches (P := fun s => s.Sound ∧ s.History ∧ s.Severed)
    (fun _ _ _ hP hstep => ⟨(step_effect hstep).sound hP.1,
      (step_effect hstep).history hP.1 hP.2.1,
      (step_transition hstep).severed hP.1 hP.2.1 hP.2.2⟩)
    ⟨sound_init, history_init, severed_init⟩ h).2.2

/-! ## The theorem -/

/-- The session whose channel an action replaces, clears or removes. -/
def channelTaken (s : Server) : Action → Option String
  | .removeSession sid => some sid
  | .streamTurn i =>
    match s.streams[i]? with
    | some st =>
      match st.phase with
      | .registering response => some response.sessionId
      | .cleanup => st.sessionId
      | _ => none
    | none => none
  | _ => none

/-- A step that takes the channel of a session away releases its waiters, and no others. -/
theorem releasesOnly_of_channelTaken {svc : SmartcardService} {s s' : Server} {a : Action}
    (h : Transition svc s a s') (hc : s.shared.Consistent) {sid : String}
    (htaken : s.channelTaken a = some sid) : s.shared.ReleasesOnly s'.shared sid := by
  cases h with
  | remove hlock =>
    cases htaken
    exact Shared.releasesOnly_removeSession hc _
  | register hlock hi hp hs =>
    simp only [channelTaken, hi, hp, Option.some.injEq] at htaken
    subst htaken
    exact Shared.releasesOnly_setCommandChannel hc _ _
  | unknown hlock hi hp hs =>
    simp only [channelTaken, hi, hp, Option.some.injEq] at htaken
    subst htaken
    exact Shared.releasesOnly_of_none hc hs rfl
  | respond hlock hi hp hsid => simp [channelTaken, hi, hp] at htaken
  | cleanup hlock hi hp hsid =>
    simp only [channelTaken, hi, hp, hsid, Option.some.injEq] at htaken
    subst htaken
    exact Shared.releasesOnly_clearCommandChannel hc _
  | unbound hi hp hsid => simp [channelTaken, hi, hp, hsid] at htaken
  | _ => cases htaken

/-- A waiter that has not timed out, by the state of its sender. -/
theorem stored_or_resolved_or_released {s : Server} (hs : s.Sound) (hu : s.InUse)
    (hsev : s.Severed) {e : LogEntry} (he : e ∈ s.log) {rx : ℕ} (hacc : e.Accepts rx)
    (hwait : ∀ f ∈ s.log, f.event ≠ ⟨.recvResponse rx, .error .elapsed⟩) {w : Waiter}
    (hw : s.shared.waiters[rx]? = some w) :
    (w.oneshot.poll = none ∧ s.shared.Stored w.sessionId w.stream w.request.commandId rx) ∨
      s.shared.Resolved w ∨ s.shared.Released w := by
  cases hsender : w.oneshot.sender with
  | held =>
    refine Or.inl ⟨?_, hs.consistent.stored rx w hw hsender⟩
    rw [Oneshot.poll, hsender]
  | sent r =>
    refine Or.inr (Or.inl ⟨r, ?_, hs.consistent.answered rx w r hw hsender⟩)
    rw [Oneshot.poll, hsender]
  | dropped =>
    refine Or.inr (Or.inr ⟨by rw [Oneshot.poll, hsender], ?_⟩)
    by_cases hbound : s.shared.waiters.length < 2 ^ 64
    · left
      rcases hu e he rx hacc with ⟨⟨w₁, hw₁, halive⟩, -⟩ | ⟨⟨i, n, ⟨o, answer⟩⟩, hf, hawaits⟩
      · obtain rfl := Option.some.inj (hw.symm.trans hw₁)
        exact hsev.lost rx w hw ⟨halive, hsender, hbound⟩
      · -- awaited: not with a response, and not with the timeout
        cases (show o = .recvResponse rx from hawaits)
        rcases answer with (_ | _) | r
        · obtain ⟨w₁, hw₁, -, hch⟩ := hsev.closed _ hf rx rfl
          obtain rfl := Option.some.inj (hw.symm.trans hw₁)
          exact hch hbound
        · exact absurd rfl (hwait _ hf)
        · obtain ⟨w₁, hw₁, -, hsent⟩ := hs.answered _ hf rx _ rfl
          obtain rfl := Option.some.inj (hw.symm.trans hw₁)
          rw [hsent r rfl] at hsender
          cases hsender
    · exact Or.inr (Nat.not_lt.mp hbound)

/-- **No stranded waiter.**  In every reachable state a command that was accepted and
has not timed out is stored under its own id in the pending map of the current
channel of its session, or resolved with its response, or released, and only one of
the three.  Whatever takes the channel of a session away releases every command
waiting in it, and no other. -/
theorem no_stranded_waiter {svc : SmartcardService} {s : Server} (hs : s.Reachable svc) :
    (∀ e ∈ s.log, ∀ sid command readerName rx,
      e.event = ⟨.sendCommand sid command readerName, some (.ok rx)⟩ →
      (∀ f ∈ s.log, f.event ≠ ⟨.recvResponse rx, .error .elapsed⟩) →
      ∃ w, s.shared.waiters[rx]? = some w ∧ w.sessionId = sid ∧
        let stored := s.shared.Stored sid w.stream w.request.commandId rx
        let resolved := s.shared.Resolved w
        let released := s.shared.Released w
        (stored ∧ ¬ resolved ∧ ¬ released) ∨ (¬ stored ∧ resolved ∧ ¬ released) ∨
          (¬ stored ∧ ¬ resolved ∧ released)) ∧
    ∀ a s' sid, step svc s a = some s' → s.channelTaken a = some sid →
      s.shared.ReleasesOnly s'.shared sid := by
  constructor
  · intro e he sid command readerName rx hev hwait
    obtain ⟨w, hw, rfl, -, -⟩ := hs.sound.asked e he sid command readerName rx hev
    refine ⟨w, hw, rfl, ?_⟩
    have hpoll : s.shared.Stored w.sessionId w.stream w.request.commandId rx →
        w.oneshot.poll = none := by
      intro hstored
      obtain ⟨w₁, hw₁, -, -, -, hheld⟩ := hs.sound.consistent.pending _ _ _ _ hstored
      obtain rfl := Option.some.inj (hw.symm.trans hw₁)
      rw [Oneshot.poll, hheld]
    rcases stored_or_resolved_or_released hs.sound hs.inUse hs.severed he
      ⟨_, command, readerName, hev⟩ hwait hw with ⟨hnone, hstored⟩ | hres | ⟨hr, hrest⟩
    · refine Or.inl ⟨hstored, ?_, ?_⟩
      · rintro ⟨r, hr, -⟩
        rw [hnone] at hr
        cases hr
      · rintro ⟨hr, -⟩
        rw [hnone] at hr
        cases hr
    · obtain ⟨r, hr, hrest⟩ := hres
      refine Or.inr (Or.inl ⟨fun hst => ?_, ⟨r, hr, hrest⟩, ?_⟩)
      · rw [hpoll hst] at hr
        cases hr
      · rintro ⟨hr', -⟩
        rw [hr] at hr'
        cases hr'
    · refine Or.inr (Or.inr ⟨fun hst => ?_, ?_, hr, hrest⟩)
      · rw [hpoll hst] at hr
        cases hr
      · rintro ⟨r, hr', -⟩
        rw [hr] at hr'
        cases hr'
  · intro a s' sid hstep htaken
    exact releasesOnly_of_channelTaken (step_transition hstep) hs.sound.consistent htaken

/-- The state in the middle of `exchangeRun`, when the APDU has been sent to the
client. -/
def sentState : Server :=
  (StepRun.run (step ⟨"127.0.0.1", 35963, true⟩) init (exchangeRun.take 12)).getD init

theorem reachable_sentState : sentState.Reachable ⟨"127.0.0.1", 35963, true⟩ := by
  refine ⟨exchangeRun.take 12, ?_⟩
  have h : (StepRun.run (step ⟨"127.0.0.1", 35963, true⟩) init (exchangeRun.take 12)).isSome := by
    decide
  obtain ⟨s, hs⟩ := Option.isSome_iff_exists.mp h
  rw [sentState, hs]
  rfl

/-- The command of `sentState` is released when its session is removed. -/
theorem no_stranded_waiter_sentState :
    ∃ s' w', step ⟨"127.0.0.1", 35963, true⟩ sentState (.removeSession "s") = some s' ∧
      s'.shared.waiters[0]? = some w' ∧ w'.oneshot.poll = some (.error ()) := by
  have hstep : (step ⟨"127.0.0.1", 35963, true⟩ sentState (.removeSession "s")).isSome := by decide
  obtain ⟨s', hs'⟩ := Option.isSome_iff_exists.mp hstep
  have hwaiter : (sentState.shared.waiters[0]?.map fun w => (w.sessionId, w.oneshot.poll)) =
      some ("s", none) := by decide
  obtain ⟨w, hw, hwaiting⟩ := Option.map_eq_some_iff.mp hwaiter
  obtain ⟨hsid, hpoll⟩ := Prod.mk.injEq .. ▸ hwaiting
  obtain ⟨w', hw', hreleased, -⟩ :=
    (no_stranded_waiter reachable_sentState).2 _ s' "s" hs' rfl 0 w hw
  exact ⟨s', w', hs', hw', (hreleased hsid hpoll).2⟩

end Server

end RemoteSmartcard
