/-
# The two paths of a response

A response comes in as a message of a command channel stream or as a call of
`send_command_response`.  Both end in `handle_response`: the stream path for the
session its first message named, the RPC for the session the response names.  The
RPC answers `success` when the command was pending, also when its waiter has given up.
-/
import RemoteSmartcard.PendingTable

namespace RemoteSmartcard

namespace Shared

/-! ## `handle_response` -/

/-- A response to a command that is not pending changes no session and no waiter. -/
theorem handleResponse_of_unknown {t : Shared} {sid : String} {response : CommandResponse}
    (h : ∀ st rx, ¬ t.Stored sid st response.commandId rx) :
    (t.handleResponse sid response).1 ≠ some (.ok ()) ∧
      (t.handleResponse sid response).2.sessions = t.sessions ∧
      (t.handleResponse sid response).2.waiters = t.waiters := by
  unfold handleResponse
  cases hs : t.getSession sid with
  | none => exact ⟨nofun, rfl, rfl⟩
  | some session =>
    cases hch : session.commandChannel with
    | none => simp [Session.handleResponse, hch]
    | some channel =>
      cases hl : channel.pending.lookup response.commandId with
      | none => simp [Session.handleResponse, hch, hl]
      | some tx => exact absurd ⟨session, channel, hs, hch, rfl, hl⟩ (h channel.commandTx tx)

/-- A response to a pending command uses up the sender stored for it. -/
theorem handleResponse_of_stored {t : Shared} {sid : String} {st rx : ℕ}
    {response : CommandResponse} (h : t.Stored sid st response.commandId rx) :
    (t.handleResponse sid response).1 = some (.ok ()) ∧
      (t.handleResponse sid response).2.waiters =
        t.waiters.modify rx (Waiter.mapOneshot fun c => (c.send response).2) ∧
      ∀ st' rx', ¬ (t.handleResponse sid response).2.Stored sid st' response.commandId rx' := by
  obtain ⟨session, channel, hs, hch, -, hl⟩ := h
  have heq : t.handleResponse sid response = (some (.ok ()),
      ⟨t.sessions.putSession sid { session with commandChannel := some { channel with
          pending := channel.pending.erase response.commandId } },
        t.commandIdCounter,
        t.waiters.modify rx (Waiter.mapOneshot fun c => (c.send response).2),
        (sid, response) :: t.handled⟩) := by
    simp [handleResponse, hs, Session.handleResponse, hch, hl]
  rw [heq]
  refine ⟨rfl, rfl, fun st' rx' hstored => ?_⟩
  rw [stored_putSession_iff t sid rfl, if_pos rfl] at hstored
  obtain ⟨channel', hch', -, hl'⟩ := hstored
  cases hch'
  simp at hl'

/-- Handling a response for one session leaves the pending commands of another. -/
theorem stored_handleResponse_of_ne {t : Shared} {named sid : String} (hne : sid ≠ named)
    (response : CommandResponse) (st : ℕ) (c : UInt64) (rx : ℕ) :
    (t.handleResponse named response).2.Stored sid st c rx ↔ t.Stored sid st c rx := by
  rcases handleResponse_cases t named response with heq | heq | ⟨session, channel, tx, -, -, -, heq⟩
  · rw [heq]
  · rw [heq]
    exact stored_congr _ _ rfl sid st c rx
  · rw [heq, stored_putSession_iff t named rfl, if_neg hne]

end Shared

namespace Server

/-! ## The acknowledgement -/

/-- The response has got to the waiter that awaits its command: the channel of the
waiter, open at both ends before, now holds it. -/
def Delivered (s s' : Server) (response : CommandResponse) : Prop :=
  ∃ (rx : ℕ) (w : Waiter), s.shared.waiters[rx]? = some w ∧ w.sessionId = response.sessionId ∧
    w.request.commandId = response.commandId ∧ w.oneshot = ⟨.held, true⟩ ∧
    s'.shared.waiters[rx]? = some { w with oneshot := ⟨.sent response, true⟩ }

/-- The acknowledgement says whether the response was delivered, and a response that
is refused changes no waiter. -/
structure Truthful (s : Server) (response : CommandResponse) : Prop where
  delivered : (s.sendCommandResponse response).1.success = true ↔
    s.Delivered (s.sendCommandResponse response).2 response
  unchanged : (s.sendCommandResponse response).1.success = false →
    (s.sendCommandResponse response).2.shared.waiters = s.shared.waiters

/-- The command of the response is still pending, and its waiter has given up. -/
def Abandoned (s : Server) (response : CommandResponse) : Prop :=
  ∃ st rx w, s.shared.Stored response.sessionId st response.commandId rx ∧
    s.shared.waiters[rx]? = some w ∧ w.oneshot.receiverAlive = false

/-- The RPC reports what `handle_response` returned. -/
theorem sendCommandResponse_success (s : Server) {response : CommandResponse}
    (hid : 0 < response.commandId) :
    (s.sendCommandResponse response).1.success = true ↔
      (s.shared.handleResponse response.sessionId response).1 = some (.ok ()) := by
  unfold sendCommandResponse
  rw [if_pos hid]
  split <;> rename_i heq <;> simp [heq]

theorem sendCommandResponse_shared (s : Server) {response : CommandResponse}
    (hid : 0 < response.commandId) :
    (s.sendCommandResponse response).2.shared =
      (s.shared.handleResponse response.sessionId response).2 := by
  rw [sendCommandResponse_snd s (UInt64.pos_iff_ne_zero.mp hid)]

/-- A response to a command that is not pending is refused, and truthfully so. -/
theorem truthful_of_unknown {s : Server} {response : CommandResponse}
    (hid : 0 < response.commandId)
    (h : ∀ st rx, ¬ s.shared.Stored response.sessionId st response.commandId rx) :
    s.Truthful response := by
  obtain ⟨hrefused, -, hwaiters⟩ := Shared.handleResponse_of_unknown h
  have hshared := s.sendCommandResponse_shared hid
  refine ⟨?_, fun _ => by rw [hshared, hwaiters]⟩
  rw [s.sendCommandResponse_success hid]
  refine ⟨fun hok => absurd hok hrefused, ?_⟩
  rintro ⟨rx, w, hw, -, -, hopen, hsent⟩
  -- the waiter is what it was, and it had no response
  rw [hshared, hwaiters, hw] at hsent
  have hsame := congrArg Waiter.oneshot (Option.some.inj hsent)
  rw [hopen] at hsame
  cases hsame

/-- A response to a pending command is accepted; it is delivered iff the waiter is
still there. -/
theorem truthful_iff_of_stored {s : Server} (hs : s.Sound) {response : CommandResponse}
    (hid : 0 < response.commandId) {st rx : ℕ} {w : Waiter}
    (hstored : s.shared.Stored response.sessionId st response.commandId rx)
    (hw : s.shared.waiters[rx]? = some w) :
    s.Truthful response ↔ w.oneshot.receiverAlive = true := by
  obtain ⟨hok, hwaiters, -⟩ := Shared.handleResponse_of_stored hstored
  obtain ⟨w', hw', hsid, -, hcommand, hheld⟩ := hs.consistent.pending _ _ _ _ hstored
  obtain rfl := Option.some.inj (hw.symm.trans hw')
  have hsuccess := (s.sendCommandResponse_success hid).mpr hok
  have hafter : ∀ rx', (s.sendCommandResponse response).2.shared.waiters[rx']? =
      s.shared.waiters[rx']?.map (Waiter.mapOneshot
        (if rx = rx' then fun c => (c.send response).2 else id)) := by
    intro rx'
    rw [s.sendCommandResponse_shared hid, hwaiters, getElem?_modifyOneshot]
  constructor
  · rintro ⟨hdelivered, -⟩
    obtain ⟨rx', w', hw', -, -, hopen, hsent⟩ := hdelivered.mp hsuccess
    rw [hafter, hw', Option.map_some] at hsent
    have hchannel := congrArg Waiter.oneshot (Option.some.inj hsent)
    by_cases hrx : rx = rx'
    · subst hrx
      obtain rfl := Option.some.inj (hw.symm.trans hw')
      rw [hopen]
    · -- only the channel of the command changes
      rw [if_neg hrx] at hchannel
      rw [mapOneshot_id, id, hopen] at hchannel
      cases hchannel
  · intro halive
    have hopen : w.oneshot = ⟨.held, true⟩ := by rw [← hheld, ← halive]
    refine ⟨iff_of_true hsuccess ⟨rx, w, hw, hsid, hcommand, hopen, ?_⟩, fun hrefused => ?_⟩
    · rw [hafter, hw, Option.map_some, if_pos rfl]
      simp [Waiter.mapOneshot, hopen, Oneshot.send]
    · rw [hsuccess] at hrefused
      cases hrefused

/-- **The acknowledgement of a response** is truthful exactly when the command is not
pending with its waiter gone. -/
theorem Reachable.truthful_iff {svc : SmartcardService} {s : Server} (hs : s.Reachable svc)
    {response : CommandResponse} (hid : 0 < response.commandId) :
    s.Truthful response ↔ ¬ s.Abandoned response := by
  by_cases hstored : ∃ st rx, s.shared.Stored response.sessionId st response.commandId rx
  · obtain ⟨st, rx, hstored⟩ := hstored
    obtain ⟨w, hw, -⟩ := hs.sound.consistent.pending _ _ _ _ hstored
    rw [truthful_iff_of_stored hs.sound hid hstored hw]
    constructor
    · rintro halive ⟨st', rx', w', hstored', hw', hgone⟩
      obtain ⟨session, channel, hsession, hch, -, hl⟩ := hstored
      obtain ⟨-, hl'⟩ := (Shared.stored_iff hsession hch _ _ _).mp hstored'
      obtain rfl := Option.some.inj (hl.symm.trans hl')
      obtain rfl := Option.some.inj (hw.symm.trans hw')
      rw [halive] at hgone
      cases hgone
    · intro hnot
      by_contra hgone
      exact hnot ⟨st, rx, w, hstored, hw, by simpa using hgone⟩
  · refine iff_of_true (truthful_of_unknown hid fun st rx h => hstored ⟨st, rx, h⟩) ?_
    rintro ⟨st, rx, w, h, -⟩
    exact hstored ⟨st, rx, h⟩

/-- A second response to the command of `exchangeRun` is refused. -/
theorem truthful_duplicate :
    exchangeState.Truthful ⟨1, "s", true, "", some (.apdu ⟨[], 0x90, 0x00⟩)⟩ := by
  refine (reachable_exchangeState.truthful_iff (by decide)).mpr ?_
  rintro ⟨st, rx, w, ⟨session, channel, hs, hch, -, hl⟩, -⟩
  have hanswered : ((exchangeState.shared.getSession "s").bind (·.commandChannel)).bind
      (·.pending.lookup 1) = none := by decide
  rw [hs, Option.bind_some, hch, Option.bind_some, hl] at hanswered
  cases hanswered

/-- A response that comes when the waiter has given up is acknowledged and not
delivered. -/
theorem not_truthful_timeoutRun :
    ∃ s, StepRun.run (step ⟨"127.0.0.1", 35963, true⟩) init timeoutRun = some s ∧
      ¬ s.Truthful ⟨1, "s", true, "", some (.apdu ⟨[], 0x90, 0x00⟩)⟩ := by
  have hstate : (StepRun.run (step ⟨"127.0.0.1", 35963, true⟩) init timeoutRun).map (fun s =>
      ((s.sendCommandResponse ⟨1, "s", true, "", some (.apdu ⟨[], 0x90, 0x00⟩)⟩).1.success,
        s.shared.waiters.map fun w => w.oneshot.receiverAlive)) = some (true, [false]) := by decide
  obtain ⟨s, hs, hstate⟩ := Option.map_eq_some_iff.mp hstate
  obtain ⟨hsuccess, hgone⟩ := Prod.mk.injEq .. ▸ hstate
  refine ⟨s, hs, fun htruthful => ?_⟩
  obtain ⟨rx, w, hw, -, -, hopen, -⟩ := htruthful.delivered.mp hsuccess
  have hmem := List.mem_map_of_mem (f := fun w => w.oneshot.receiverAlive) (List.mem_of_getElem? hw)
  rw [hgone, hopen, List.mem_singleton] at hmem
  cases hmem

/-! ## The two paths -/

/-- The handler task of a stream, when it comes to handle a message, changes the
session table and the waiters as the RPC would with the same response. -/
def PathsAgree (svc : SmartcardService) (s : Server) : Prop :=
  ∀ (i : ℕ) (st : CommandStream) (sid : String) (response : CommandResponse) (s' : Server),
    s.streams[i]? = some st → st.sessionId = some sid → st.phase = .responding response →
    0 < response.commandId → step svc s (.streamTurn i) = some s' →
    s'.shared.sessions = (s.sendCommandResponse response).2.shared.sessions ∧
      s'.shared.waiters = (s.sendCommandResponse response).2.shared.waiters

/-- The command of the response is pending in neither of the two sessions. -/
def Unknown (s : Server) (sid : String) (response : CommandResponse) : Prop :=
  ∀ id, id = sid ∨ id = response.sessionId → ∀ st rx,
    ¬ s.shared.Stored id st response.commandId rx

/-- The turn of a handler task that has a response handles it for its session. -/
theorem shared_of_responding {svc : SmartcardService} {s s' : Server} {i : ℕ}
    {st : CommandStream} {sid : String} {response : CommandResponse}
    (hi : s.streams[i]? = some st) (hsid : st.sessionId = some sid)
    (hp : st.phase = .responding response) (h : step svc s (.streamTurn i) = some s') :
    s'.shared = (s.shared.handleResponse sid response).2 := by
  simp only [step, hi, streamTurn, hp, hsid] at h
  split at h
  · cases h
  · cases h
    rfl

/-- **The two paths of a response** have the same effect on the session table and on
the waiters exactly when they mean the same session, or the command is pending in
neither of the two. -/
theorem paths_agree_iff {svc : SmartcardService} {s s' : Server} {i : ℕ} {st : CommandStream}
    {sid : String} {response : CommandResponse} (hi : s.streams[i]? = some st)
    (hsid : st.sessionId = some sid) (hp : st.phase = .responding response)
    (hid : 0 < response.commandId) (hstep : step svc s (.streamTurn i) = some s') :
    s'.shared.sessions = (s.sendCommandResponse response).2.shared.sessions ∧
        s'.shared.waiters = (s.sendCommandResponse response).2.shared.waiters ↔
      response.sessionId = sid ∨ s.Unknown sid response := by
  rw [shared_of_responding hi hsid hp hstep, s.sendCommandResponse_shared hid]
  constructor
  · rintro ⟨htable, -⟩
    by_contra hnot
    rw [not_or] at hnot
    obtain ⟨hne, hknown⟩ := hnot
    -- what the two tables have pending
    have hsame : ∀ id st rx, (s.shared.handleResponse sid response).2.Stored id st
        response.commandId rx ↔ (s.shared.handleResponse response.sessionId response).2.Stored id st
        response.commandId rx := fun id st rx => Shared.stored_congr _ _ htable id st _ rx
    refine hknown ?_
    rintro id (rfl | rfl) st rx hstored
    · have hkept := (Shared.stored_handleResponse_of_ne (Ne.symm hne) response st _ rx).mpr hstored
      exact (Shared.handleResponse_of_stored hstored).2.2 st rx ((hsame _ st rx).mpr hkept)
    · have hkept := (Shared.stored_handleResponse_of_ne hne response st _ rx).mpr hstored
      exact (Shared.handleResponse_of_stored hstored).2.2 st rx ((hsame _ st rx).mp hkept)
  · rintro (heq | hunknown)
    · rw [heq]
      exact ⟨rfl, rfl⟩
    · obtain ⟨-, hsessions, hwaiters⟩ :=
        Shared.handleResponse_of_unknown (hunknown sid (Or.inl rfl))
      obtain ⟨-, hsessions', hwaiters'⟩ :=
        Shared.handleResponse_of_unknown (hunknown response.sessionId (Or.inr rfl))
      rw [hsessions, hwaiters, hsessions', hwaiters']
      exact ⟨rfl, rfl⟩

/-- The response to a command comes in on the stream of the session `s`, and names the
session `named`. -/
def respondingRun (named : String) : List Action :=
  [.establishSession "s" ⟨"client", "1"⟩, .updateReaderInfo ⟨"s", "r", [0x3B], true⟩,
    .startClient 0, .commandChannel, .streamNext 0 (some (.ok ⟨0, "s", true, "", none⟩)),
    .streamTurn 0, .taskConnect 0 (.ok ⟨[[0, 2, 0x00], [0xA4]], .unexpectedEof⟩)] ++
  List.replicate 5 (.taskRun 0 .proceed) ++
  [.takeCommand 0,
    .streamNext 0 (some (.ok ⟨1, named, true, "", some (.apdu ⟨[], 0x90, 0x00⟩)⟩))]

/-- The response names the session of its stream. -/
theorem paths_agree_respondingRun :
    ∃ s s', StepRun.run (step ⟨"127.0.0.1", 35963, true⟩) init (respondingRun "s") = some s ∧
      step ⟨"127.0.0.1", 35963, true⟩ s (.streamTurn 0) = some s' ∧
      s'.shared.waiters = (s.sendCommandResponse
        ⟨1, "s", true, "", some (.apdu ⟨[], 0x90, 0x00⟩)⟩).2.shared.waiters := by
  have hrun : ((StepRun.run (step ⟨"127.0.0.1", 35963, true⟩) init (respondingRun "s")).bind
      fun s => step ⟨"127.0.0.1", 35963, true⟩ s (.streamTurn 0)).isSome := by decide
  obtain ⟨s', hs'⟩ := Option.isSome_iff_exists.mp hrun
  obtain ⟨s, hs, hstep⟩ := Option.bind_eq_some_iff.mp hs'
  refine ⟨s, s', hs, hstep, ?_⟩
  have hstream : (StepRun.run (step ⟨"127.0.0.1", 35963, true⟩) init (respondingRun "s")).map
      (fun s => s.streams[0]?.map CommandStream.binding) = some (some (some "s",
        .responding ⟨1, "s", true, "", some (.apdu ⟨[], 0x90, 0x00⟩)⟩)) := by decide
  rw [hs, Option.map_some, Option.some.injEq, Option.map_eq_some_iff] at hstream
  obtain ⟨st, hi, hbinding⟩ := hstream
  obtain ⟨hsid, hp⟩ := Prod.mk.inj hbinding
  exact ((paths_agree_iff hi hsid hp (by decide) hstep).mpr (Or.inl rfl)).2

/-- The stream delivers a response that names another session; the RPC would not. -/
theorem not_pathsAgree_respondingRun :
    ∃ s, StepRun.run (step ⟨"127.0.0.1", 35963, true⟩) init (respondingRun "t") = some s ∧
      ¬ s.PathsAgree ⟨"127.0.0.1", 35963, true⟩ := by
  have hstate : (StepRun.run (step ⟨"127.0.0.1", 35963, true⟩) init (respondingRun "t")).map
      (fun s => (s.streams[0]?.map CommandStream.binding,
        (step ⟨"127.0.0.1", 35963, true⟩ s (.streamTurn 0)).map
          fun s' => s'.shared.waiters.map fun w => w.oneshot.sender,
        (s.sendCommandResponse
          ⟨1, "t", true, "", some (.apdu ⟨[], 0x90, 0x00⟩)⟩).2.shared.waiters.map
            fun w => w.oneshot.sender)) =
      some (some (some "s", .responding ⟨1, "t", true, "", some (.apdu ⟨[], 0x90, 0x00⟩)⟩),
        some [.sent ⟨1, "t", true, "", some (.apdu ⟨[], 0x90, 0x00⟩)⟩], [.held]) := by decide
  obtain ⟨s, hs, hstate⟩ := Option.map_eq_some_iff.mp hstate
  obtain ⟨hstream, hturn, hrpc⟩ := by simpa only [Prod.mk.injEq] using hstate
  obtain ⟨st, hi, hbinding⟩ := Option.map_eq_some_iff.mp hstream
  obtain ⟨hsid, hp⟩ := Prod.mk.inj hbinding
  obtain ⟨s', hstep, hsent⟩ := Option.map_eq_some_iff.mp hturn
  refine ⟨s, hs, fun hagree => ?_⟩
  obtain ⟨-, hwaiters⟩ := hagree 0 st "s" _ s' hi hsid hp (by decide) hstep
  rw [hwaiters, hrpc] at hsent
  cases hsent

end Server

end RemoteSmartcard
