/-
# Senders, pending maps and waiters

The ownership invariant of the shared state.  `Stored t sid st c rx` says that
the pending map of the session `sid`, whose channel belongs to the stream `st`,
has the sender `rx` under the command id `c`.  `Consistent` ties this table to
the heap of oneshot channels:

* command ids are handed out in sequence, so `rx` has the id `rx + 1`
  (modulo 2^64);
* a sender is held exactly where it is stored, under the id, the session and
  the stream it was issued for (`pending`, `stored`);
* a value in a oneshot channel is a response with the id of the command,
  handled for its session (`answered`).

Every operation of `Shared` preserves it.  All operations but `issue` only take
entries out of the table, and `Consistent.of_release` treats them at once.
-/
import RemoteSmartcard.Shared
import RemoteSmartcard.StepRun

namespace RemoteSmartcard

/-! ## The heap under the operations -/

@[simp] theorem mapOneshot_id : Waiter.mapOneshot id = id := rfl

/-- Closing the senders of a pending map drops those that it holds. -/
theorem getElem?_closeSenders (pending : PendingMap) (ws : List Waiter) (rx : ℕ) :
    (closeSenders pending ws)[rx]? =
      ws[rx]?.map (Waiter.mapOneshot
        (if pending.Holds rx then Oneshot.dropSender else id)) := by
  unfold closeSenders
  rw [List.getElem?_mapIdx]
  split_ifs <;> rfl

@[simp] theorem length_closeSenders (pending : PendingMap) (ws : List Waiter) :
    (closeSenders pending ws).length = ws.length := by
  unfold closeSenders
  exact List.length_mapIdx

/-- Closing one sender drops this one. -/
theorem getElem?_closeSender (tx : Option ℕ) (ws : List Waiter) (rx : ℕ) :
    (closeSender tx ws)[rx]? =
      ws[rx]?.map (Waiter.mapOneshot (if tx = some rx then Oneshot.dropSender else id)) := by
  unfold closeSender
  cases tx with
  | none => simp
  | some tx =>
    rw [List.getElem?_modify]
    by_cases h : tx = rx <;> simp [h]

@[simp] theorem length_closeSender (tx : Option ℕ) (ws : List Waiter) :
    (closeSender tx ws).length = ws.length := by
  unfold closeSender
  cases tx with
  | none => rfl
  | some tx => exact List.length_modify ..

/-- A change of one oneshot channel leaves the others. -/
theorem getElem?_modifyOneshot (tx : ℕ) (f : Oneshot CommandResponse → Oneshot CommandResponse)
    (ws : List Waiter) (rx : ℕ) :
    (ws.modify tx (Waiter.mapOneshot f))[rx]? =
      ws[rx]?.map (Waiter.mapOneshot (if tx = rx then f else id)) := by
  rw [List.getElem?_modify]
  by_cases h : tx = rx <;> simp [h]

namespace Shared

/-! ## The table of stored senders -/

/-- The sender `rx` is stored under the command id `c` in the pending map of
the session `sid`, whose channel is that of the stream `st`. -/
def Stored (t : Shared) (sid : String) (st : ℕ) (c : UInt64) (rx : ℕ) : Prop :=
  ∃ session channel, t.getSession sid = some session ∧
    session.commandChannel = some channel ∧ channel.commandTx = st ∧
    channel.pending.lookup c = some rx

/-- The senders that a session holds are those stored for it. -/
theorem holds_pending_iff {t : Shared} {sid : String} {session : Session} {rx : ℕ}
    (hs : t.getSession sid = some session) :
    session.pending.Holds rx ↔ ∃ st c, t.Stored sid st c rx := by
  rw [PendingMap.holds_iff]
  unfold Session.pending
  constructor
  · rintro ⟨c, hc⟩
    cases hch : session.commandChannel with
    | none => simp [hch] at hc
    | some channel =>
      rw [hch] at hc
      exact ⟨channel.commandTx, c, session, channel, hs, hch, rfl, hc⟩
  · rintro ⟨st, c, session', channel, hs', hch, -, hl⟩
    obtain rfl := Option.some.inj (hs.symm.trans hs')
    exact ⟨c, by rw [hch]; exact hl⟩

/-- What is stored in the pending map of a session with a channel. -/
theorem stored_iff {t : Shared} {sid : String} {session : Session} {channel : CommandChannel}
    (hs : t.getSession sid = some session) (hch : session.commandChannel = some channel)
    (st : ℕ) (c : UInt64) (rx : ℕ) :
    t.Stored sid st c rx ↔ channel.commandTx = st ∧ channel.pending.lookup c = some rx := by
  constructor
  · rintro ⟨session', channel', hs', hch', hst, hl⟩
    obtain rfl : session = session' := Option.some.inj (hs.symm.trans hs')
    obtain rfl : channel = channel' := Option.some.inj (hch.symm.trans hch')
    exact ⟨hst, hl⟩
  · rintro ⟨hst, hl⟩
    exact ⟨session, channel, hs, hch, hst, hl⟩

/-- Writing back a session changes the table at that session only. -/
theorem stored_putSession_iff (t : Shared) {t' : Shared} (id : String) {session : Session}
    (hm : t'.sessions = t.sessions.putSession id session)
    (sid : String) (st : ℕ) (c : UInt64) (rx : ℕ) :
    t'.Stored sid st c rx ↔
      if sid = id then
        ∃ channel, session.commandChannel = some channel ∧ channel.commandTx = st ∧
          channel.pending.lookup c = some rx
      else t.Stored sid st c rx := by
  unfold Stored getSession
  rw [hm, SessionManager.getSession_putSession]
  split_ifs with h
  · constructor
    · rintro ⟨session', channel, hs, hrest⟩
      cases hs
      exact ⟨channel, hrest⟩
    · rintro ⟨channel, hrest⟩
      exact ⟨session, channel, rfl, hrest⟩
  · rfl

theorem stored_congr (t t' : Shared) (hm : t'.sessions = t.sessions) (sid : String) (st : ℕ)
    (c : UInt64) (rx : ℕ) : t'.Stored sid st c rx ↔ t.Stored sid st c rx := by
  unfold Stored getSession
  rw [hm]

/-! ## The invariant -/

/-- The ownership invariant; see the head of the file. -/
structure Consistent (t : Shared) : Prop where
  counter : t.commandIdCounter = UInt64.ofNat (t.waiters.length + 1)
  commandId : ∀ (rx : ℕ) (w : Waiter), t.waiters[rx]? = some w →
    w.request.commandId = UInt64.ofNat (rx + 1)
  pending : ∀ sid st c rx, t.Stored sid st c rx → ∃ w, t.waiters[rx]? = some w ∧
    w.sessionId = sid ∧ w.stream = st ∧ w.request.commandId = c ∧ w.oneshot.sender = .held
  stored : ∀ (rx : ℕ) (w : Waiter), t.waiters[rx]? = some w → w.oneshot.sender = .held →
    t.Stored w.sessionId w.stream w.request.commandId rx
  answered : ∀ (rx : ℕ) (w : Waiter) (r : CommandResponse),
    t.waiters[rx]? = some w → w.oneshot.sender = .sent r →
    r.commandId = w.request.commandId ∧ (w.sessionId, r) ∈ t.handled

/-- At the start nothing is stored, and nobody waits. -/
theorem consistent_init : init.Consistent where
  counter := rfl
  commandId := by intro rx w h; simp [init] at h
  pending := by
    rintro sid st c rx ⟨session, channel, hs, -⟩
    simp [getSession, init] at hs
  stored := by intro rx w h; simp [init] at h
  answered := by intro rx w r h; simp [init] at h

/-- **The release rule.**  An operation that takes the entries `D` out of the
table, closes or uses exactly the senders stored there, and leaves every other
sender alone, preserves the invariant. -/
theorem Consistent.of_release {t t' : Shared} (h : t.Consistent) (D : String → UInt64 → Prop)
    (hcounter : t'.commandIdCounter = t.commandIdCounter)
    (hhandled : ∀ e ∈ t.handled, e ∈ t'.handled)
    (hstored : ∀ sid st c rx, t'.Stored sid st c rx ↔ t.Stored sid st c rx ∧ ¬ D sid c)
    (hlength : t'.waiters.length = t.waiters.length)
    (f : ℕ → Oneshot CommandResponse → Oneshot CommandResponse)
    (hwaiters : ∀ rx, t'.waiters[rx]? = t.waiters[rx]?.map (Waiter.mapOneshot (f rx)))
    (hkept : ∀ (rx : ℕ) (w : Waiter), t.waiters[rx]? = some w →
      ¬ (D w.sessionId w.request.commandId ∧ w.oneshot.sender = .held) →
      (f rx w.oneshot).sender = w.oneshot.sender)
    (hreleased : ∀ (rx : ℕ) (w : Waiter), t.waiters[rx]? = some w →
      D w.sessionId w.request.commandId →
      w.oneshot.sender = .held → (f rx w.oneshot).sender ≠ .held ∧
        ∀ r, (f rx w.oneshot).sender = .sent r →
          r.commandId = w.request.commandId ∧ (w.sessionId, r) ∈ t'.handled) :
    t'.Consistent := by
  have hback : ∀ rx (w' : Waiter), t'.waiters[rx]? = some w' →
      ∃ w : Waiter, t.waiters[rx]? = some w ∧ w' = w.mapOneshot (f rx) := by
    intro rx w' hw'
    rw [hwaiters, Option.map_eq_some_iff] at hw'
    obtain ⟨w, hw, rfl⟩ := hw'
    exact ⟨w, hw, rfl⟩
  constructor
  case counter =>
    rw [hcounter, hlength]
    exact h.counter
  case commandId =>
    intro rx w' hw'
    obtain ⟨w, hw, rfl⟩ := hback rx w' hw'
    exact h.commandId rx w hw
  case pending =>
    intro sid st c rx hst
    obtain ⟨hst, hD⟩ := (hstored sid st c rx).mp hst
    obtain ⟨w, hw, rfl, rfl, rfl, hheld⟩ := h.pending sid st c rx hst
    refine ⟨w.mapOneshot (f rx), by rw [hwaiters, hw]; rfl, rfl, rfl, rfl, ?_⟩
    rw [← hheld]
    exact hkept rx w hw fun hc => hD hc.1
  case stored =>
    intro rx w' hw' hheld'
    obtain ⟨w, hw, rfl⟩ := hback rx w' hw'
    -- a sender still held was held before and has not been released
    by_cases hrel : D w.sessionId w.request.commandId ∧ w.oneshot.sender = .held
    · exact absurd hheld' (hreleased rx w hw hrel.1 hrel.2).1
    · have hheld : w.oneshot.sender = .held := by
        rw [← hkept rx w hw hrel]
        exact hheld'
      exact (hstored _ _ _ _).mpr ⟨h.stored rx w hw hheld, fun hD => hrel ⟨hD, hheld⟩⟩
  case answered =>
    intro rx w' r hw' hsent
    obtain ⟨w, hw, rfl⟩ := hback rx w' hw'
    by_cases hrel : D w.sessionId w.request.commandId ∧ w.oneshot.sender = .held
    · exact (hreleased rx w hw hrel.1 hrel.2).2 r hsent
    · have hsent' : w.oneshot.sender = .sent r := by
        rw [← hkept rx w hw hrel]
        exact hsent
      obtain ⟨hid, hmem⟩ := h.answered rx w r hw hsent'
      exact ⟨hid, hhandled _ hmem⟩

/-- The release rule when nothing is released: the table and all senders stay. -/
theorem Consistent.of_same {t t' : Shared} (h : t.Consistent)
    (hcounter : t'.commandIdCounter = t.commandIdCounter)
    (hhandled : ∀ e ∈ t.handled, e ∈ t'.handled)
    (hstored : ∀ sid st c rx, t'.Stored sid st c rx ↔ t.Stored sid st c rx)
    (hwaiters : t'.waiters = t.waiters) : t'.Consistent := by
  refine h.of_release (fun _ _ => False) hcounter hhandled ?_ (by rw [hwaiters]) (fun _ => id)
    ?_ ?_ ?_
  · intro sid st c rx
    rw [hstored]
    simp
  · intro rx
    rw [hwaiters]
    simp
  · intro rx w _ _
    rfl
  · intro rx w _ hD
    exact hD.elim

/-! ## The operations preserve the invariant -/

/-- A new session has no channel, so nothing is stored for it. -/
theorem consistent_createSession {t : Shared} (h : t.Consistent) {id : String} (now : ℕ)
    (clientId : String) (hfresh : t.getSession id = none) :
    (t.createSession id now clientId).Consistent := by
  refine h.of_same rfl (fun _ he => he) ?_ rfl
  intro sid st c rx
  rw [stored_putSession_iff t id rfl]
  split_ifs with hid
  · subst hid
    constructor
    · rintro ⟨channel, hc, -⟩
      cases hc
    · rintro ⟨session, channel, hs, -⟩
      rw [hfresh] at hs
      cases hs
  · rfl

/-- A change of a session that leaves its channel alone changes nothing that is stored. -/
theorem consistent_updateSession {t : Shared} (h : t.Consistent) (sid : String)
    {f : Session → Session} (hf : ∀ s, (f s).commandChannel = s.commandChannel) :
    (t.updateSession sid f).Consistent := by
  unfold updateSession
  cases hs : t.getSession sid with
  | none => exact h
  | some session =>
    refine h.of_same rfl (fun _ he => he) ?_ rfl
    intro sid' st c rx
    rw [stored_putSession_iff t sid rfl, hf]
    split_ifs with hid
    · subst hid
      constructor
      · rintro ⟨channel, hc⟩
        exact ⟨session, channel, hs, hc⟩
      · rintro ⟨session', channel, hs', hc⟩
        obtain rfl := Option.some.inj (hs.symm.trans hs')
        exact ⟨channel, hc⟩
    · rfl

/-- Closing all senders of a session, and taking its entries out of the table,
preserves the invariant. -/
theorem Consistent.of_closeSenders {t : Shared} (h : t.Consistent) {sid : String}
    {session : Session} (hs : t.getSession sid = some session) {m : SessionManager}
    (hm : ∀ sid' st c rx, (⟨m, t.commandIdCounter, closeSenders session.pending t.waiters,
        t.handled⟩ : Shared).Stored sid' st c rx ↔ t.Stored sid' st c rx ∧ ¬ sid' = sid) :
    (⟨m, t.commandIdCounter, closeSenders session.pending t.waiters, t.handled⟩ :
      Shared).Consistent := by
  refine h.of_release (fun sid' _ => sid' = sid) rfl (fun _ he => he) hm (length_closeSenders ..)
    (fun rx => if session.pending.Holds rx then Oneshot.dropSender else id)
    (fun rx => getElem?_closeSenders ..) ?_ ?_
  · -- a sender that is not released is not in the pending map, or used up already
    intro rx w hw hkept
    split_ifs with hh
    · obtain ⟨st, c, hst⟩ := (holds_pending_iff hs).mp hh
      obtain ⟨w', hw', hsid, -, -, hheld⟩ := h.pending _ _ _ _ hst
      obtain rfl := Option.some.inj (hw.symm.trans hw')
      exact absurd ⟨hsid, hheld⟩ hkept
    · rfl
  · -- a sender still held is in the pending map, and dropped with it
    intro rx w hw hsid hheld
    have hh : session.pending.Holds rx :=
      (holds_pending_iff hs).mpr ⟨_, _, hsid ▸ h.stored rx w hw hheld⟩
    rw [if_pos hh]
    refine ⟨Oneshot.sender_dropSender_ne_held _, fun r hr => ?_⟩
    rw [Oneshot.sender_dropSender_eq_sent_iff, hheld] at hr
    cases hr

/-- A registration replaces the channel, with an empty pending map, and drops the senders of
the one before. -/
theorem consistent_setCommandChannel {t : Shared} (h : t.Consistent) (sid : String) (tx : ℕ) :
    (t.setCommandChannel sid tx).Consistent := by
  unfold setCommandChannel
  cases hs : t.getSession sid with
  | none => exact h
  | some session =>
    refine h.of_closeSenders hs fun sid' st c rx => ?_
    rw [stored_putSession_iff t sid rfl]
    split_ifs with hid
    · -- the new channel starts with an empty pending map
      simp only [hid, not_true_eq_false, and_false, iff_false]
      rintro ⟨channel, hc, -, hl⟩
      cases hc
      simp at hl
    · simp [hid]

/-- A clean-up takes the channel away and drops its senders. -/
theorem consistent_clearCommandChannel {t : Shared} (h : t.Consistent) (sid : String) :
    (t.clearCommandChannel sid).Consistent := by
  unfold clearCommandChannel
  cases hs : t.getSession sid with
  | none => exact h
  | some session =>
    refine h.of_closeSenders hs fun sid' st c rx => ?_
    rw [stored_putSession_iff t sid rfl]
    split_ifs with hid
    · simp only [hid, not_true_eq_false, and_false, iff_false]
      rintro ⟨channel, hc, -⟩
      cases hc
    · simp [hid]

/-- Removing a session drops the senders of its channel. -/
theorem removeSession_of_some {t : Shared} {sid : String} {session : Session}
    (hs : t.getSession sid = some session) :
    t.removeSession sid =
      { t with
        sessions := (t.sessions.removeSession sid).2
        waiters := closeSenders session.pending t.waiters } := by
  have hs' : t.sessions.getSession sid = some session := hs
  unfold removeSession SessionManager.removeSession
  rw [hs']

/-- Removing a session that is not there changes nothing. -/
theorem removeSession_of_none {t : Shared} {sid : String} (hs : t.getSession sid = none) :
    t.removeSession sid = { t with sessions := (t.sessions.removeSession sid).2 } := by
  have hs' : t.sessions.getSession sid = none := hs
  unfold removeSession SessionManager.removeSession
  rw [hs']

/-- Removing a session takes its entries out of the table, and no others. -/
theorem stored_removed_iff (t : Shared) {t' : Shared} (id : String)
    (hm : t'.sessions = (t.sessions.removeSession id).2) (sid : String) (st : ℕ) (c : UInt64)
    (rx : ℕ) : t'.Stored sid st c rx ↔ t.Stored sid st c rx ∧ ¬ sid = id := by
  unfold Stored getSession
  rw [hm, SessionManager.getSession_removeSession]
  split_ifs with h <;> simp [h]

/-- A removal drops what was stored for the session. -/
theorem consistent_removeSession {t : Shared} (h : t.Consistent) (sid : String) :
    (t.removeSession sid).Consistent := by
  cases hs : t.getSession sid with
  | none =>
    rw [removeSession_of_none hs]
    refine h.of_same rfl (fun _ he => he) ?_ rfl
    intro sid' st c rx
    rw [stored_removed_iff t sid rfl, and_iff_left_iff_imp]
    rintro ⟨session, channel, hs', -⟩ rfl
    rw [hs] at hs'
    cases hs'
  | some session =>
    rw [removeSession_of_some hs]
    exact h.of_closeSenders hs fun sid' st c rx => stored_removed_iff t sid rfl sid' st c rx

/-- Dropping a receiver does not concern the senders. -/
theorem consistent_dropReceiver {t : Shared} (h : t.Consistent) (rx : ℕ) :
    (t.dropReceiver rx).Consistent := by
  refine h.of_release (fun _ _ => False) rfl (fun _ he => he) ?_ (List.length_modify ..) _
    (fun rx' => getElem?_modifyOneshot ..) ?_ ?_
  · intro sid st c rx'
    rw [stored_congr t (t.dropReceiver rx) rfl]
    simp
  · intro rx' w _ _
    split_ifs <;> rfl
  · intro _ _ _ hD
    exact hD.elim

/-- Taking one entry out of the table, with its sender used up by `g`, preserves
the invariant. -/
theorem Consistent.of_erase {t : Shared} (h : t.Consistent) {sid : String} {session : Session}
    {channel : CommandChannel} {c : UInt64} (hs : t.getSession sid = some session)
    (hch : session.commandChannel = some channel) {ws : List Waiter}
    {hd : List (String × CommandResponse)}
    (g : Oneshot CommandResponse → Oneshot CommandResponse)
    (hlength : ws.length = t.waiters.length)
    (hws : ∀ rx, ws[rx]? = t.waiters[rx]?.map
      (Waiter.mapOneshot (if channel.pending.lookup c = some rx then g else id)))
    (hhandled : ∀ e ∈ t.handled, e ∈ hd)
    (hg : ∀ o : Oneshot CommandResponse, o.sender = .held → (g o).sender ≠ .held ∧
      ∀ r, (g o).sender = .sent r → r.commandId = c ∧ (sid, r) ∈ hd) :
    (⟨t.sessions.putSession sid { session with
        commandChannel := some { channel with pending := channel.pending.erase c } },
      t.commandIdCounter, ws, hd⟩ : Shared).Consistent := by
  have hlookup := stored_iff hs hch
  refine h.of_release (fun sid' c' => sid' = sid ∧ c' = c) rfl hhandled ?_ hlength
    (fun rx => if channel.pending.lookup c = some rx then g else id) hws ?_ ?_
  · intro sid' st c' rx
    rw [stored_putSession_iff t sid rfl]
    split_ifs with hid
    · subst hid
      by_cases hc : c' = c
      · -- the entry taken out
        subst hc
        simp
      · simp only [Option.some.injEq, exists_eq_left', hc, and_false, not_false_eq_true, and_true]
        rw [Finmap.lookup_erase_ne hc]
        exact (hlookup st c' rx).symm
    · simp [hid]
  · intro rx w hw hkept
    split_ifs with hl
    · obtain ⟨w', hw', hsid, -, hc, hheld⟩ := h.pending _ _ _ _ ((hlookup _ _ _).mpr ⟨rfl, hl⟩)
      obtain rfl := Option.some.inj (hw.symm.trans hw')
      exact absurd ⟨⟨hsid, hc⟩, hheld⟩ hkept
    · rfl
  · rintro rx w hw ⟨rfl, rfl⟩ hheld
    have hl := ((hlookup _ _ _).mp (h.stored rx w hw hheld)).2
    rw [if_pos hl]
    exact hg _ hheld

/-- Storing the sender of a new waiter, under an id that was free, preserves the
invariant. -/
theorem Consistent.of_append {t t' : Shared} (h : t.Consistent) {sid : String} {st : ℕ}
    {request : CommandRequest} (hid : request.commandId = t.commandIdCounter)
    (hcounter : t'.commandIdCounter = t.commandIdCounter + 1)
    (hhandled : t'.handled = t.handled)
    (hwaiters : t'.waiters = t.waiters ++ [Waiter.new sid request st])
    (hstored : ∀ sid' st' c rx, t'.Stored sid' st' c rx ↔ t.Stored sid' st' c rx ∨
      (sid' = sid ∧ st' = st ∧ c = request.commandId ∧ rx = t.waiters.length)) :
    t'.Consistent := by
  have hcases : ∀ rx (w : Waiter), t'.waiters[rx]? = some w →
      t.waiters[rx]? = some w ∨ rx = t.waiters.length ∧ w = Waiter.new sid request st := by
    intro rx w hw
    rw [hwaiters, StepRun.getElem?_concat] at hw
    split_ifs at hw with hrx
    · exact Or.inr ⟨hrx, (Option.some.inj hw).symm⟩
    · exact Or.inl hw
  constructor
  case counter =>
    rw [hcounter, hwaiters, h.counter, List.length_append]
    simp [UInt64.ofNat_add]
  case commandId =>
    intro rx w hw
    rcases hcases rx w hw with hw | ⟨rfl, rfl⟩
    · exact h.commandId rx w hw
    · exact hid.trans h.counter
  case pending =>
    intro sid' st' c rx hst
    rw [hwaiters]
    rcases (hstored _ _ _ _).mp hst with hst | ⟨rfl, rfl, rfl, rfl⟩
    · obtain ⟨w, hw, hrest⟩ := h.pending _ _ _ _ hst
      exact ⟨w, by rw [List.getElem?_append_left (List.getElem?_eq_some_iff.mp hw).1, hw], hrest⟩
    · exact ⟨Waiter.new sid' request st', by simp, rfl, rfl, rfl, rfl⟩
  case stored =>
    intro rx w hw hheld
    rw [hstored]
    rcases hcases rx w hw with hw | ⟨rfl, rfl⟩
    · exact Or.inl (h.stored rx w hw hheld)
    · exact Or.inr ⟨rfl, rfl, rfl, rfl⟩
  case answered =>
    intro rx w r hw hsent
    rw [hhandled]
    rcases hcases rx w hw with hw | ⟨rfl, rfl⟩
    · exact h.answered rx w r hw hsent
    · cases hsent

/-- What `handle_response` can do: nothing, record a response that no command
waits for, or use up the sender stored under the id of the response. -/
theorem handleResponse_cases (t : Shared) (sid : String) (response : CommandResponse) :
    (t.handleResponse sid response).2 = t ∨
      (t.handleResponse sid response).2 =
        ⟨t.sessions, t.commandIdCounter, t.waiters, (sid, response) :: t.handled⟩ ∨
      ∃ session channel tx, t.getSession sid = some session ∧
        session.commandChannel = some channel ∧
        channel.pending.lookup response.commandId = some tx ∧
        t.handleResponse sid response = (some (.ok ()),
          ⟨t.sessions.putSession sid { session with commandChannel := some { channel with
              pending := channel.pending.erase response.commandId } },
            t.commandIdCounter,
            t.waiters.modify tx (Waiter.mapOneshot fun c => (c.send response).2),
            (sid, response) :: t.handled⟩) := by
  unfold handleResponse Session.handleResponse
  cases hs : t.getSession sid with
  | none => exact Or.inl rfl
  | some session =>
    cases hch : session.commandChannel with
    | none => exact Or.inr (Or.inl (by simp only [hch]))
    | some channel =>
      cases hl : channel.pending.lookup response.commandId with
      | none => exact Or.inr (Or.inl (by simp only [hch, hl]))
      | some tx =>
        exact Or.inr (Or.inr ⟨session, channel, tx, rfl, hch, hl, by simp only [hch, hl]⟩)

/-- A response takes its sender out of the pending map and uses it. -/
theorem consistent_handleResponse {t : Shared} (h : t.Consistent) (sid : String)
    (response : CommandResponse) : (t.handleResponse sid response).2.Consistent := by
  rcases handleResponse_cases t sid response with
    heq | heq | ⟨session, channel, tx, hs, hch, hl, heq⟩
  · rw [heq]
    exact h
  · rw [heq]
    exact h.of_same rfl (fun _ he => List.mem_cons_of_mem _ he)
      (fun _ _ _ _ => stored_congr _ _ rfl ..) rfl
  · rw [heq]
    refine h.of_erase hs hch (fun o => (o.send response).2) (List.length_modify ..) ?_
      (fun _ he => List.mem_cons_of_mem _ he) ?_
    · intro rx
      rw [hl, getElem?_modifyOneshot]
      by_cases hrx : tx = rx <;> simp [hrx]
    · intro o _
      refine ⟨Oneshot.sender_send_ne_held _ _, fun r hr => ?_⟩
      rw [Oneshot.eq_of_sender_send_eq_sent hr]
      exact ⟨rfl, by simp⟩

/-- What `issue` does when it gets as far as handing a request over. -/
theorem issue_eq_ok {t : Shared} {sid : String} {command : Command} {readerName : String}
    {issued : Issued} (hi : t.issue sid command readerName = some (.ok issued)) :
    ∃ session channel, t.getSession sid = some session ∧
      session.commandChannel = some channel ∧ issued.stream = channel.commandTx ∧
      issued.rx = t.waiters.length ∧
      issued.request = ⟨t.commandIdCounter, some command, readerName⟩ ∧
      issued.shared =
        ⟨t.sessions.putSession sid { session with commandChannel := some { channel with
            pending := channel.pending.insert t.commandIdCounter t.waiters.length } },
          t.commandIdCounter + 1,
          closeSender (channel.pending.lookup t.commandIdCounter) t.waiters ++
            [Waiter.new sid issued.request issued.stream],
          t.handled⟩ := by
  unfold issue Session.sendCommandAsync at hi
  cases hs : t.getSession sid with
  | none => simp [hs] at hi
  | some session =>
    cases hch : session.commandChannel with
    | none => simp [hs, hch] at hi
    | some channel =>
      simp only [hs, hch, Option.some.injEq, Except.ok.injEq] at hi
      subst hi
      refine ⟨session, channel, rfl, hch, rfl, rfl, rfl, ?_⟩
      simp [Session.pending, hch, nextCommandId]

/-- A command issued gets the next id, and its sender is stored under it. -/
theorem consistent_issue {t : Shared} (h : t.Consistent) {sid : String} {command : Command}
    {readerName : String} {issued : Issued}
    (hi : t.issue sid command readerName = some (.ok issued)) : issued.shared.Consistent := by
  obtain ⟨session, channel, hs, hch, hst, -, hreq, hshared⟩ := issue_eq_ok hi
  -- the id may be in use after 2^64 commands; then its entry goes first
  have herased := h.of_erase (c := t.commandIdCounter) hs hch Oneshot.dropSender
    (length_closeSender (channel.pending.lookup t.commandIdCounter) t.waiters)
    (fun rx => getElem?_closeSender ..) (fun _ he => he) (by
      intro o ho
      refine ⟨Oneshot.sender_dropSender_ne_held _, fun r hr => ?_⟩
      rw [Oneshot.sender_dropSender_eq_sent_iff, ho] at hr
      cases hr)
  rw [hshared]
  refine herased.of_append (by rw [hreq]) rfl rfl rfl ?_
  intro sid' st' c rx
  refine (stored_putSession_iff t sid rfl ..).trans (Iff.trans ?_
    (or_congr_left (stored_putSession_iff t sid rfl ..).symm))
  split_ifs with hid
  · subst hid
    simp only [Option.some.injEq, exists_eq_left', true_and, hreq]
    by_cases hc : c = t.commandIdCounter
    · subst hc
      simp only [Finmap.lookup_insert, Finmap.lookup_erase, Option.some.injEq, reduceCtorEq,
        and_false, false_or, true_and]
      rw [length_closeSender, hst, eq_comm (a := st'), eq_comm (a := rx)]
    · simp [Finmap.lookup_insert_of_ne _ hc, Finmap.lookup_erase_ne hc, hc]
  · simp [hid]

end Shared

end RemoteSmartcard
