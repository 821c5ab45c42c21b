/-
# The pending map and the waiters that have given up

An entry of the pending map is taken out by the response to its command, and with
the command channel.  A vpcd task that gives up, after 30 seconds or because the
queue has no receiver any more, leaves its entry behind.  As long as neither
happens, every entry belongs to a task that is still waiting (`PendingLive`).
-/
import RemoteSmartcard.Receivers

namespace RemoteSmartcard

namespace Server

/-! ## The property -/

/-- The receivers of commands in the session `sid` that tasks wait for, one for
each of these tasks. -/
def waitingOn (s : Server) (sid : String) : List ℕ :=
  s.waiting.filter fun rx => (s.shared.waiters[rx]?.map (·.sessionId)) = some sid

/-- Every entry of a pending map belongs to a task that has not given up; if its
command was accepted into the queue, to a task that awaits its receiver.  No pending
map has more entries than tasks wait on its session. -/
def PendingLive (s : Server) : Prop :=
  ∀ sid session channel, s.shared.getSession sid = some session →
    session.commandChannel = some channel →
      (∀ c rx, channel.pending.lookup c = some rx → rx ∈ s.waitingOn sid ∧
        ((∃ e ∈ s.log, e.Accepts rx) →
          ∃ (i : ℕ) (t : VpcdTask), s.tasks[i]? = some t ∧ t.awaiting = some rx)) ∧
      channel.pending.keys.card ≤ (s.waitingOn sid).length

/-- No waiter gives up in the step: it is not the timeout of a command without
response, and hands no command to a queue without receiver. -/
def inTime (s : Server) : Action → Bool
  | .taskRun i outcome =>
    match s.nextOp i, outcome with
    | some (.recvResponse rx), .fail _ =>
      s.shared.waiters[rx]?.map (·.oneshot.sender) != some .held
    | some (.sendCommand sid _ _), _ =>
      (s.targetStream sid).all fun j => s.streams[j]?.map (·.queue.receiverAlive) != some false
    | _, _ => true
  | _ => true

/-! ## The invariant -/

/-- The receiver of every sender still held is alive. -/
def Live (s : Server) : Prop :=
  ∀ (rx : ℕ) (w : Waiter), s.shared.waiters[rx]? = some w → w.oneshot.sender = .held →
    s.shared.Alive rx

theorem live_init : init.Live := by
  intro rx w hw
  simp [init, Shared.init] at hw

/-- A step in time drops no receiver whose sender is held. -/
theorem not_drops_of_inTime {s : Server} {a : Action} (hG : s.inTime a = true) {rx : ℕ}
    (hheld : ∀ w, s.shared.waiters[rx]? = some w → w.oneshot.sender = .held) :
    ¬ Drops s a rx := by
  intro hdrops
  cases hdrops with
  | awaited hop hw houtcome =>
    obtain ⟨text, rfl⟩ := houtcome (hheld _ hw)
    simp [inTime, hop, hw, hheld _ hw] at hG
  | @refused i outcome sid command readerName b st hop hb hst hclosed =>
    have htarget : s.targetStream sid = some b.stream := by
      unfold targetStream
      rcases hb with hb | ⟨hb, hch, -⟩
      · rw [hb]
      · rw [hb]
        exact hch
    simp [inTime, hop, htarget, hst, hclosed] at hG

theorem Transition.live {svc : SmartcardService} {s s' : Server} {a : Action}
    (h : Transition svc s a s') (hs : s.Sound) (hl : s.Live) (hG : s.inTime a = true) :
    s'.Live := by
  have hlater := (h.effect.consistent hs).2
  intro rx w' hw' hheld
  have hlt' : rx < s'.shared.waiters.length := (List.getElem?_eq_some_iff.mp hw').1
  -- a sender held now was held before, or is new
  have hbefore : ∀ w, s.shared.waiters[rx]? = some w → w.oneshot.sender = .held := by
    intro w hw
    obtain ⟨w₁, hw₁, hdev⟩ := hlater.waiters rx w hw
    obtain rfl := Option.some.inj (hw'.symm.trans hw₁)
    by_contra hne
    exact hne ((hdev.sender hne).symm.trans hheld)
  refine (h.alive_or_drops ?_).resolve_right (not_drops_of_inTime hG hbefore)
  by_cases hlt : rx < s.shared.waiters.length
  · have hw := List.getElem?_eq_getElem hlt
    exact Or.inl (hl rx _ hw (hbefore _ hw))
  · exact Or.inr ⟨Nat.not_lt.mp hlt, hlt'⟩

/-! ## From the invariant to the pending maps -/

/-- An entry of a pending map is that of a task waiting on the session. -/
theorem mem_waitingOn_of_stored {s : Server} (hs : s.Sound) (ha : s.Attended) (hl : s.Live)
    {sid : String} {st rx : ℕ} {c : UInt64} (h : s.shared.Stored sid st c rx) :
    rx ∈ s.waitingOn sid := by
  obtain ⟨w, hw, hsid, -, -, hheld⟩ := hs.consistent.pending _ _ _ _ h
  unfold waitingOn
  rw [List.mem_filter]
  refine ⟨(ha.alive rx).mpr (hl rx w hw hheld), ?_⟩
  rw [hw, ← hsid]
  exact decide_eq_true rfl

theorem pendingLive_of_live {s : Server} (hs : s.Sound) (ha : s.Attended) (hu : s.InUse)
    (hl : s.Live) : s.PendingLive := by
  intro sid session channel hsession hch
  have hstored : ∀ {c rx}, channel.pending.lookup c = some rx →
      s.shared.Stored sid channel.commandTx c rx :=
    fun hlookup => ⟨session, channel, hsession, hch, rfl, hlookup⟩
  constructor
  · intro c rx hlookup
    refine ⟨mem_waitingOn_of_stored hs ha hl (hstored hlookup), ?_⟩
    rintro ⟨e, he, hacc⟩
    obtain ⟨w, hw, -, -, -, hheld⟩ := hs.consistent.pending _ _ _ _ (hstored hlookup)
    have halive := hl rx w hw hheld
    have hmem := (ha.alive rx).mpr halive
    rcases hu e he rx hacc with ⟨-, hfree⟩ | ⟨⟨i, connection, ⟨o, answer⟩⟩, hf, hawaits⟩
    · obtain ⟨t, ht, hawaiting⟩ :=
        List.mem_filterMap.mp ((List.mem_append.mp hmem).resolve_right hfree)
      obtain ⟨i, hi⟩ := List.mem_iff_getElem?.mp ht
      exact ⟨i, t, hi, hawaiting⟩
    · -- a receiver that has been awaited is gone
      cases (show o = .recvResponse rx from hawaits)
      obtain ⟨w₁, hw₁, hdead, -⟩ := hs.answered _ hf rx answer rfl
      obtain ⟨w₂, hw₂, halive⟩ := halive
      obtain rfl := Option.some.inj (hw₁.symm.trans hw₂)
      rw [hdead] at halive
      cases halive
  · -- two entries have two receivers, since a receiver has one command id
    have hlookup : ∀ c ∈ channel.pending.keys, ∃ rx, channel.pending.lookup c = some rx :=
      fun c hc => Finmap.mem_iff.mp (Finmap.mem_keys.mp hc)
    have hcard : channel.pending.keys.card ≤ (s.waitingOn sid).toFinset.card := by
      refine Finset.card_le_card_of_injOn (fun c => (channel.pending.lookup c).getD 0) ?_ ?_
      · intro c hc
        obtain ⟨rx, hrx⟩ := hlookup c hc
        simp only [hrx, Option.getD_some, List.coe_toFinset, Set.mem_ofPred_eq]
        exact mem_waitingOn_of_stored hs ha hl (hstored hrx)
      · intro c hc c' hc' heq
        obtain ⟨rx, hrx⟩ := hlookup c hc
        obtain ⟨rx', hrx'⟩ := hlookup c' hc'
        simp only [hrx, hrx', Option.getD_some] at heq
        subst heq
        obtain ⟨w, hw, -, -, hid, -⟩ := hs.consistent.pending _ _ _ _ (hstored hrx)
        obtain ⟨w', hw', -, -, hid', -⟩ := hs.consistent.pending _ _ _ _ (hstored hrx')
        obtain rfl := Option.some.inj (hw.symm.trans hw')
        exact hid.symm.trans hid'
    exact hcard.trans (List.toFinset_card_le _)

/-! ## The theorem on runs -/

/-- **The pending maps hold only live waiters** in every state of a run in whose
steps no waiter gives up. -/
theorem pendingLive_of_inTime (svc : SmartcardService) (as : List Action) {s : Server}
    (hG : StepRun.StepsMeet (step svc) (fun s a => s.inTime a = true) init as)
    (hrun : StepRun.run (step svc) init as = some s) : s.PendingLive := by
  have hlive : s.Sound ∧ s.Live := by
    refine StepRun.invariant_run_of_guard (P := fun s => s.Sound ∧ s.Live) ?_
      ⟨sound_init, live_init⟩ hG hrun
    rintro s a s' ⟨hs, hl⟩ hG hstep
    exact ⟨(step_effect hstep).sound hs, (step_transition hstep).live hs hl hG⟩
  have hreach : s.Reachable svc := ⟨as, hrun⟩
  exact pendingLive_of_live hreach.sound hreach.attended hreach.inUse hlive.2

/-- In `exchangeRun` the one command is answered in time. -/
theorem pendingLive_exchangeState : exchangeState.PendingLive :=
  pendingLive_of_inTime ⟨"127.0.0.1", 35963, true⟩ exchangeRun (by decide) run_exchangeRun

/-- An APDU whose response does not come within 30 seconds. -/
def timeoutRun : List Action :=
  [.establishSession "s" ⟨"client", "1"⟩, .updateReaderInfo ⟨"s", "r", [0x3B], true⟩,
    .startClient 0, .commandChannel, .streamNext 0 (some (.ok ⟨0, "s", true, "", none⟩)),
    .streamTurn 0, .taskConnect 0 (.ok ⟨[[0, 2, 0x00], [0xA4]], .unexpectedEof⟩)] ++
  List.replicate 5 (.taskRun 0 .proceed) ++ [.taskRun 0 (.fail "deadline has elapsed")]

/-- The command that has timed out stays in the pending map, and nobody waits. -/
theorem not_pendingLive_timeoutRun :
    ∃ s, StepRun.run (step ⟨"127.0.0.1", 35963, true⟩) init timeoutRun = some s ∧
      ¬ s.PendingLive := by
  have hstate : (StepRun.run (step ⟨"127.0.0.1", 35963, true⟩) init timeoutRun).map (fun s =>
      (((s.shared.getSession "s").bind (·.commandChannel)).map (·.pending.keys.card),
        s.waitingOn "s")) = some (some 1, []) := by decide
  obtain ⟨s, hs, hstate⟩ := Option.map_eq_some_iff.mp hstate
  obtain ⟨hcard, hwaiting⟩ := Prod.mk.injEq .. ▸ hstate
  refine ⟨s, hs, fun hlive => ?_⟩
  obtain ⟨channel, hchannel, hcard⟩ := Option.map_eq_some_iff.mp hcard
  obtain ⟨session, hsession, hch⟩ := Option.bind_eq_some_iff.mp hchannel
  have hsize := (hlive "s" session channel hsession hch).2
  rw [hcard, hwaiting] at hsize
  exact absurd hsize (by decide)

end Server

end RemoteSmartcard
