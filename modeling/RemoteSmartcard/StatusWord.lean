/-
# The status word of a forwarded APDU

A client reports the two bytes of the status word as `uint32` fields, and
`forward_apdu` keeps the low byte of each.  `expectedResult` is what it is to return:
the response of the card if the two fields are bytes, else 6F00.  The two agree as long
as the fields of a successful response fit.
-/
import RemoteSmartcard.MessageLoop

namespace RemoteSmartcard

open VpcdOp
open Program hiding pure

/-! ## One response -/

namespace VpcdClient

/-- What `forward_apdu` is to make of a response: data and status word of a success
whose two status fields are bytes, else 6F00. -/
def expectedResult (response : CommandResponse) : Bytes :=
  match response.success, response.response with
  | true, some (.apdu resp) =>
    if resp.sw1 ≤ 255 ∧ resp.sw2 ≤ 255 then resp.data ++ [resp.sw1.toUInt8, resp.sw2.toUInt8]
    else noPreciseDiagnosis
  | _, _ => noPreciseDiagnosis

/-- The last two bytes of a response. -/
def statusWord (out : Bytes) : Bytes := out.drop (out.length - 2)

theorem statusWord_append (data : Bytes) (sw1 sw2 : UInt8) :
    statusWord (data ++ [sw1, sw2]) = [sw1, sw2] := by
  simp [statusWord]

end VpcdClient

/-- The status fields of a successful APDU response are bytes, or cut to bytes they
are 6F00 without data, as if the response had been refused. -/
def CommandResponse.StatusFits (response : CommandResponse) : Prop :=
  ∀ resp, response.success = true → response.response = some (.apdu resp) →
    (resp.sw1 ≤ 255 ∧ resp.sw2 ≤ 255) ∨
      (resp.data = [] ∧ resp.sw1 % 256 = 0x6F ∧ resp.sw2 % 256 = 0)

/-- The low byte of a word. -/
theorem toUInt8_eq_iff (n : UInt32) (b : UInt8) : n.toUInt8 = b ↔ n % 256 = b.toUInt32 := by
  rw [← UInt8.toNat_inj, ← UInt32.toNat_inj]
  simp

/-- A word that fits is its low byte. -/
theorem eq_of_toUInt8_eq {n : UInt32} (hn : n ≤ 255) {b : UInt8} (h : n.toUInt8 = b) :
    n = b.toUInt32 := by
  rw [toUInt8_eq_iff] at h
  rw [← h, ← UInt32.toNat_inj, UInt32.toNat_mod]
  have hle : n.toNat ≤ 255 := UInt32.le_iff_toNat_le.mp hn
  exact (Nat.mod_eq_of_lt (Nat.lt_succ_of_le hle)).symm

/-- **One response** is passed on as it should be exactly when its status fits. -/
theorem apduResult_eq_expectedResult_iff (response : CommandResponse) :
    VpcdClient.apduResult response = VpcdClient.expectedResult response ↔
      response.StatusFits := by
  unfold VpcdClient.apduResult VpcdClient.expectedResult CommandResponse.StatusFits
  cases response.success with
  | false => simp
  | true =>
    cases response.response with
    | none => simp
    | some body =>
      cases body with
      | apdu resp =>
        simp only [if_true, Option.some.injEq, ResponseBody.apdu.injEq, forall_const,
          forall_eq']
        by_cases hfits : resp.sw1 ≤ 255 ∧ resp.sw2 ≤ 255
        · simp [hfits]
        · -- cut to bytes, the response can be 6F00 by accident
          rw [if_neg hfits]
          simp only [hfits, false_or]
          cases resp.data with
          | nil => simp [VpcdClient.noPreciseDiagnosis, toUInt8_eq_iff]
          | cons b data =>
            have hlong : ∀ x y : UInt8, data ++ [x, y] ≠ [0] := fun x y heq => by
              simpa using congrArg List.length heq
            simp [VpcdClient.noPreciseDiagnosis, hlong]
      | connect resp | disconnect resp | atr resp => simp

/-- A status word that is expected is the one the client reported. -/
theorem reported_of_expectedResult {response : CommandResponse} {sw1 sw2 : UInt8}
    (h : VpcdClient.statusWord (VpcdClient.expectedResult response) = [sw1, sw2])
    (hne : [sw1, sw2] ≠ VpcdClient.noPreciseDiagnosis) :
    ∃ resp, response.success = true ∧ response.response = some (.apdu resp) ∧
      resp.sw1 = sw1.toUInt32 ∧ resp.sw2 = sw2.toUInt32 := by
  unfold VpcdClient.expectedResult at h
  split at h
  · rename_i resp hsuccess hbody
    split_ifs at h with hfits
    · rw [VpcdClient.statusWord_append, List.cons.injEq, List.cons.injEq] at h
      exact ⟨resp, hsuccess, hbody, eq_of_toUInt8_eq hfits.1 h.1, eq_of_toUInt8_eq hfits.2 h.2.1⟩
    · exact absurd h.symm hne
  · exact absurd h.symm hne

/-! ## The call -/

/-- A run of `forward_apdu` passes on what it got: the expected result of a response,
6F00 without one, and 9000 only when the client reported it. -/
structure PassesOn (tr : List VpcdEvent) (out : Bytes) : Prop where
  response : ∀ rx r, (⟨recvResponse rx, .ok r⟩ : VpcdEvent) ∈ tr →
    out = VpcdClient.expectedResult r
  failure : (∀ rx r, (⟨recvResponse rx, .ok r⟩ : VpcdEvent) ∉ tr) →
    out = VpcdClient.noPreciseDiagnosis
  success : VpcdClient.statusWord out = [0x90, 0x00] → ∃ rx r resp,
    (⟨recvResponse rx, .ok r⟩ : VpcdEvent) ∈ tr ∧ r.success = true ∧
      r.response = some (.apdu resp) ∧ resp.sw1 = 0x90 ∧ resp.sw2 = 0x00

/-- Without a response there is nothing to get wrong. -/
theorem passesOn_failure {tr : List VpcdEvent}
    (h : ∀ rx r, (⟨recvResponse rx, .ok r⟩ : VpcdEvent) ∉ tr) :
    PassesOn tr VpcdClient.noPreciseDiagnosis where
  response := fun rx r hmem => absurd hmem (h rx r)
  failure := fun _ => rfl
  success := fun h => absurd h (by decide)

/-- **The status word of a forwarded APDU.**  Whatever response a client delivers, a
run of `forward_apdu` passes it on as it should exactly when the status fields of the
response fit. -/
theorem passesOn_iff_statusFits {c : VpcdClient} {apdu out : Bytes} {tr : List VpcdEvent}
    (h : (c.forwardApdu apdu).Yields tr out) :
    PassesOn tr out ↔ ∀ rx r, (⟨recvResponse rx, .ok r⟩ : VpcdEvent) ∈ tr → r.StatusFits := by
  by_cases hresponse : ∃ rx r, (⟨recvResponse rx, .ok r⟩ : VpcdEvent) ∈ tr
  · obtain ⟨rx, r, hmem⟩ := hresponse
    -- all responses of the run give the same result
    have hout : ∀ {rx' r'}, (⟨recvResponse rx', .ok r'⟩ : VpcdEvent) ∈ tr →
        out = VpcdClient.apduResult r' := fun hmem' =>
      (forwardApdu_response h hmem').choose_spec.choose_spec.2.2.2
    constructor
    · intro hpasses rx' r' hmem'
      rw [← apduResult_eq_expectedResult_iff, ← hout hmem']
      exact hpasses.response rx' r' hmem'
    · intro hfits
      have hexpected : ∀ rx' r', (⟨recvResponse rx', .ok r'⟩ : VpcdEvent) ∈ tr →
          out = VpcdClient.expectedResult r' := fun rx' r' hmem' =>
        (hout hmem').trans ((apduResult_eq_expectedResult_iff r').mpr (hfits rx' r' hmem'))
      refine ⟨hexpected, fun hnone => absurd hmem (hnone rx r), fun hstatus => ?_⟩
      rw [hexpected rx r hmem] at hstatus
      obtain ⟨resp, hsuccess, hbody, hsw1, hsw2⟩ := reported_of_expectedResult hstatus (by decide)
      exact ⟨rx, r, resp, hmem, hsuccess, hbody, hsw1, hsw2⟩
  · have hnone : ∀ rx r, (⟨recvResponse rx, .ok r⟩ : VpcdEvent) ∉ tr :=
      fun rx r hmem => hresponse ⟨rx, r, hmem⟩
    refine iff_of_true ?_ fun rx r hmem => absurd hmem (hnone rx r)
    rw [forwardApdu_failure h hnone]
    exact passesOn_failure hnone

/-- A session with an open command channel. -/
def openSession : Session := (Session.new "s" 0 "client").setCommandChannel 0

/-- A run of `forward_apdu` in which the client delivers the response. -/
def deliveredTrace (response : CommandResponse) : List VpcdEvent :=
  [⟨getSession "s", some openSession⟩, ⟨sendCommand "s" (.apdu ⟨[0x00, 0xA4]⟩) "r", some (.ok 0)⟩,
    ⟨recvResponse 0, .ok response⟩]

theorem yields_deliveredTrace (response : CommandResponse) :
    (VpcdClient.forwardApdu ⟨some "s", some "r", [], true⟩ [0x00, 0xA4]).Yields
      (deliveredTrace response) (VpcdClient.apduResult response) :=
  .head (.head (.head (.refl _)))

/-- A response of two data bytes and 9000 is passed on. -/
theorem passesOn_delivered :
    PassesOn (deliveredTrace ⟨1, "s", true, "", some (.apdu ⟨[0xCA, 0xFE], 0x90, 0x00⟩)⟩)
      [0xCA, 0xFE, 0x90, 0x00] := by
  refine (passesOn_iff_statusFits (yields_deliveredTrace
    ⟨1, "s", true, "", some (.apdu ⟨[0xCA, 0xFE], 0x90, 0x00⟩)⟩)).mpr ?_
  intro rx r hmem resp _ hbody
  simp only [deliveredTrace, List.mem_cons, List.not_mem_nil, or_false] at hmem
  rcases hmem with hmem | hmem | hmem <;> cases hmem
  cases hbody
  exact Or.inl (by decide)

/-- A client reports sw1 = 0x190, and vpcd sees 9000. -/
theorem not_passesOn_wideStatus :
    ∃ tr out, (VpcdClient.forwardApdu ⟨some "s", some "r", [], true⟩ [0x00, 0xA4]).Yields tr out ∧
      VpcdClient.statusWord out = [0x90, 0x00] ∧ ¬ PassesOn tr out := by
  refine ⟨_, _, yields_deliveredTrace ⟨1, "s", true, "", some (.apdu ⟨[], 0x190, 0x00⟩)⟩,
    by decide, fun hpasses => ?_⟩
  have hexpected := hpasses.response 0 _ (List.mem_of_getElem? (i := 2) rfl)
  exact absurd hexpected (by decide)

end RemoteSmartcard
