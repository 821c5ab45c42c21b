/-
# `run_connection` (`client/src/main.rs`)

The code of `run_connection` over the methods of `GrpcClient`, with its registration of
the readers and its `select!` loop, against the description that the connection loop is
given by (`Attempt`): its runs are exactly the traces of the attempts, with the results
that `runConnection` gives them (`returns_iff_attempt`).
-/
import RemoteSmartcard.ClientRpc
import RemoteSmartcard.SoleDriver

namespace RemoteSmartcard

open Program hiding pure
open ClientOp

/-! ## The code -/

/-- The registration of the readers; that it fails is only logged. -/
def registerReaders (c : GrpcClient) : List (String × Bytes × Bool) → ClientProgram GrpcClient
  | [] => pure c
  | (name, atr, cardPresent) :: readerInfo => do
    let (_, c) ← c.registerReader name atr cardPresent
    registerReaders c readerInfo

/-- The readers are registered and the command channel is started. -/
def startServing (c : GrpcClient) (readerInfo : List (String × Bytes × Bool)) :
    ClientProgram (Except ClientError GrpcClient) := do
  let c ← registerReaders c readerInfo
  match ← c.startCommandChannel with
  | (.error e, _) => pure (.error e)
  | (.ok (), c) => pure (.ok c)

/-- `run_connection` up to its loop. -/
def openConnection (server clientId version : String) (tlsConfig : Option TonicClientTls) :
    ClientProgram (Except ClientError GrpcClient) := do
  let readerInfo ← doGetReaderInfo
  match ← doConnectWithTls server tlsConfig with
  | .error e => pure (.error e)
  | .ok () => do
    match ← GrpcClient.new.establishSession clientId version with
    | (.error e, _) => pure (.error e)
    | (.ok _, c) => startServing c readerInfo

/-- The variables of the loop: the client and `consecutive_heartbeat_failures`; and the
result, once the loop has been left. -/
structure Connection where
  client : GrpcClient
  failures : ℕ
  result : Option (Except ClientError Unit)

/-- One turn of the loop; `false` is a `return`. -/
def connectionTurn (s : Connection) : ClientProgram (Bool × Connection) := do
  match ← doSelect with
  | .tick => do
    match ← s.client.heartbeat with
    | (.ok response, c) =>
      if !response.sessionValid then
        pure (false, ⟨c, 0, some (.error (.connection "Session invalidated"))⟩)
      else pure (true, ⟨c, 0, s.result⟩)
    | (.error _, c) =>
      if maxHeartbeatFailures ≤ s.failures + 1 then
        pure (false, ⟨c, s.failures + 1, some (.error (.connection "Heartbeat failures"))⟩)
      else pure (true, ⟨c, s.failures + 1, s.result⟩)
  | .channelClosed =>
    pure (false, { s with result := some (.error (.connection "Command channel closed")) })
  | .shutdownChanged value =>
    if value then pure (false, { s with result := some (.ok ()) }) else pure (true, s)

/-- `run_connection` has returned `r` along the trace `tr`. -/
inductive ReturnsConnection (server clientId version : String)
    (tlsConfig : Option TonicClientTls) : List ClientEvent → Except ClientError Unit → Prop
  | failed {tr : List ClientEvent} {e : ClientError}
      (hopen : Yields (openConnection server clientId version tlsConfig) tr (.error e)) :
      ReturnsConnection server clientId version tlsConfig tr (.error e)
  | served {t₁ t₂ t₃ : List ClientEvent} {c : GrpcClient} {s s' : Connection}
      {r : Except ClientError Unit}
      (hopen : Yields (openConnection server clientId version tlsConfig) t₁ (.ok c))
      (hturns : Iterates connectionTurn ⟨c, 0, none⟩ t₂ s)
      (hlast : Yields (connectionTurn s) t₃ (false, s')) (hr : s'.result = some r) :
      ReturnsConnection server clientId version tlsConfig (t₁ ++ t₂ ++ t₃) r

/-! ## The traces of an attempt -/

/-- What the client does for an event of the connection to the session. -/
inductive EventTrace (sessionId : String) : ConnectionEvent → List ClientEvent → Prop
  | heartbeat (timestamp : UInt64) (response : HeartbeatResponse) :
      EventTrace sessionId (.heartbeat (.ok response.sessionValid)) [⟨.select, .tick⟩,
        ⟨.now, timestamp⟩, ⟨.heartbeat ⟨sessionId, timestamp⟩, .ok response⟩]
  | heartbeatFailed (timestamp : UInt64) (text : String) :
      EventTrace sessionId (.heartbeat (.error text)) [⟨.select, .tick⟩,
        ⟨.now, timestamp⟩, ⟨.heartbeat ⟨sessionId, timestamp⟩, .error text⟩]
  | channelClosed : EventTrace sessionId .channelClosed [⟨.select, .channelClosed⟩]
  | shutdownChanged (value : Bool) :
      EventTrace sessionId (.shutdownChanged value) [⟨.select, .shutdownChanged value⟩]

/-- The registration of a reader, however it is answered. -/
def Registers (sessionId : String) (entry : String × Bytes × Bool) (e : ClientEvent) : Prop :=
  ∃ answer, e = ⟨.updateReaderInfo (registration sessionId entry), answer⟩

/-- What the client does in an attempt: it looks at its readers, connects, establishes a
session, registers every reader once, starts the command channel, and then meets the
events one after the other. -/
inductive AttemptTrace (server clientId version : String) (tlsConfig : Option TonicClientTls) :
    Attempt → List ClientEvent → Prop
  | unreachable (readerInfo : List (String × Bytes × Bool)) (e : ClientError) :
      AttemptTrace server clientId version tlsConfig ⟨.error e, .error "", []⟩
        [⟨.getReaderInfo, readerInfo⟩, ⟨.connectWithTls server tlsConfig, .error e⟩]
  | refused (readerInfo : List (String × Bytes × Bool)) (text : String) :
      AttemptTrace server clientId version tlsConfig ⟨.ok (), .error text, []⟩
        [⟨.getReaderInfo, readerInfo⟩, ⟨.connectWithTls server tlsConfig, .ok ()⟩,
          ⟨.establishSession ⟨clientId, version⟩, .error text⟩]
  | served {readerInfo : List (String × Bytes × Bool)} {response : ConnectResponse}
      {registrations : List ClientEvent} {events : List ConnectionEvent}
      {turns : List (List ClientEvent)}
      (hregistrations : List.Forall₂ (Registers response.sessionId) readerInfo registrations)
      (hturns : List.Forall₂ (EventTrace response.sessionId) events turns) :
      AttemptTrace server clientId version tlsConfig ⟨.ok (), .ok response.sessionId, events⟩
        ([⟨.getReaderInfo, readerInfo⟩, ⟨.connectWithTls server tlsConfig, .ok ()⟩,
          ⟨.establishSession ⟨clientId, version⟩, .ok response⟩] ++ registrations ++
          [⟨.spawnChannel response.sessionId, ()⟩] ++ turns.flatten)

/-! ## Opening -/

theorem yields_registerReaders_iff {sessionId : String}
    {readerInfo : List (String × Bytes × Bool)} {tr : List ClientEvent} {c : GrpcClient} :
    Yields (registerReaders ⟨some sessionId⟩ readerInfo) tr c ↔
      c = ⟨some sessionId⟩ ∧ List.Forall₂ (Registers sessionId) readerInfo tr := by
  induction readerInfo generalizing tr with
  | nil =>
    constructor
    · intro h
      obtain ⟨rfl, rfl⟩ := yields_pure_iff.mp h
      exact ⟨rfl, .nil⟩
    · rintro ⟨rfl, ⟨⟩⟩
      exact .refl _
  | cons entry readerInfo ih =>
    constructor
    · intro h
      obtain ⟨answer, tr', rfl, hrest⟩ := yields_op_iff.mp h
      have hrest : Yields (registerReaders ⟨some sessionId⟩ readerInfo) tr' c := by
        match answer with
        | .ok response => exact hrest
        | .error text => exact hrest
      obtain ⟨rfl, htr⟩ := ih.mp hrest
      exact ⟨rfl, .cons ⟨answer, rfl⟩ htr⟩
    · rintro ⟨rfl, h⟩
      cases h with
      | cons hentry htr =>
        obtain ⟨answer, rfl⟩ := hentry
        have hrest := ih.mpr ⟨rfl, htr⟩
        match answer with
        | .ok response => exact .head hrest
        | .error text => exact .head hrest

theorem yields_startServing_iff {sessionId : String}
    {readerInfo : List (String × Bytes × Bool)} {tr : List ClientEvent}
    {out : Except ClientError GrpcClient} :
    Yields (startServing ⟨some sessionId⟩ readerInfo) tr out ↔
      ∃ registrations, out = .ok ⟨some sessionId⟩ ∧
        List.Forall₂ (Registers sessionId) readerInfo registrations ∧
        tr = registrations ++ [⟨.spawnChannel sessionId, ()⟩] := by
  constructor
  · intro h
    obtain ⟨registrations, tr', c, rfl, hregister, hstart⟩ := yields_bind_iff.mp h
    obtain ⟨rfl, hregistrations⟩ := yields_registerReaders_iff.mp hregister
    obtain ⟨⟨⟩, tr'', rfl, hend⟩ := yields_op_iff.mp hstart
    obtain ⟨rfl, rfl⟩ := yields_pure_iff.mp hend
    exact ⟨registrations, rfl, hregistrations, rfl⟩
  · rintro ⟨registrations, rfl, hregistrations, rfl⟩
    exact yields_bind_iff.mpr ⟨_, _, _, rfl,
      yields_registerReaders_iff.mpr ⟨rfl, hregistrations⟩, .head (.refl _)⟩

/-- How the opening of a connection ends: the server is not reached, refuses a session, or
the command channel is started. -/
theorem yields_openConnection_iff {server clientId version : String}
    {tlsConfig : Option TonicClientTls} {tr : List ClientEvent}
    {out : Except ClientError GrpcClient} :
    Yields (openConnection server clientId version tlsConfig) tr out ↔
      (∃ readerInfo e, out = .error e ∧ tr = [⟨.getReaderInfo, readerInfo⟩,
        ⟨.connectWithTls server tlsConfig, .error e⟩]) ∨
      (∃ readerInfo text,
        out = .error (.connection s!"Session establishment failed: {text}") ∧
        tr = [⟨.getReaderInfo, readerInfo⟩, ⟨.connectWithTls server tlsConfig, .ok ()⟩,
          ⟨.establishSession ⟨clientId, version⟩, .error text⟩]) ∨
      ∃ readerInfo response registrations, out = .ok ⟨some response.sessionId⟩ ∧
        List.Forall₂ (Registers response.sessionId) readerInfo registrations ∧
        tr = [⟨.getReaderInfo, readerInfo⟩, ⟨.connectWithTls server tlsConfig, .ok ()⟩,
          ⟨.establishSession ⟨clientId, version⟩, .ok response⟩] ++ registrations ++
          [⟨.spawnChannel response.sessionId, ()⟩] := by
  constructor
  · intro hopen
    obtain ⟨readerInfo, tr₁, rfl, hconnect⟩ := yields_perform_bind_iff.mp hopen
    obtain ⟨connected, tr₂, rfl, hestablish⟩ := yields_perform_bind_iff.mp hconnect
    match connected with
    | .error e =>
      obtain ⟨rfl, rfl⟩ := yields_pure_iff.mp hestablish
      exact Or.inl ⟨readerInfo, e, rfl, rfl⟩
    | .ok () =>
      obtain ⟨answer, tr₃, rfl, hrest⟩ := yields_op_iff.mp hestablish
      match answer with
      | .error text =>
        obtain ⟨rfl, rfl⟩ := yields_pure_iff.mp hrest
        exact Or.inr (Or.inl ⟨readerInfo, text, rfl, rfl⟩)
      | .ok response =>
        obtain ⟨registrations, rfl, hregistrations, rfl⟩ := yields_startServing_iff.mp hrest
        exact Or.inr (Or.inr ⟨readerInfo, response, registrations, rfl, hregistrations, by simp⟩)
  · rintro (⟨readerInfo, e, rfl, rfl⟩ | ⟨readerInfo, text, rfl, rfl⟩ |
      ⟨readerInfo, response, registrations, rfl, hregistrations, rfl⟩)
    · exact .head (.head (.refl _))
    · exact .head (.head (.head (.refl _)))
    · have hrest := yields_startServing_iff.mpr ⟨registrations, rfl, hregistrations, rfl⟩
      rw [List.append_assoc]
      exact .head (.head (.head hrest))

/-! ## The turns of the loop -/

/-- The session that is held after an event. -/
def heldAfter (sessionId : String) : ConnectionEvent → Option String
  | .heartbeat (.ok false) => none
  | _ => some sessionId

/-- The connection after an event, as `connectionLoop` has it. -/
def Connection.meet (sessionId : String) (n : ℕ) (e : ConnectionEvent) : Connection :=
  ⟨⟨heldAfter sessionId e⟩, failuresAfter n e, connectionLoop n [e]⟩

/-- What is left of a turn in which a heartbeat has failed. -/
theorem yields_failedHeartbeat_iff {sessionId : String} {n : ℕ} {tr : List ClientEvent}
    {out : Bool × Connection} (text : String) :
    Yields (if maxHeartbeatFailures ≤ n + 1 then
        (.pure (false, ⟨⟨some sessionId⟩, n + 1,
          some (.error (.connection "Heartbeat failures"))⟩) : ClientProgram (Bool × Connection))
      else .pure (true, ⟨⟨some sessionId⟩, n + 1, none⟩)) tr out ↔
      tr = [] ∧ out = ((connectionLoop n [.heartbeat (.error text)]).isNone,
        .meet sessionId n (.heartbeat (.error text))) := by
  simp only [Connection.meet, connectionLoop]
  split_ifs <;> exact yields_pure_iff

/-- **One turn of the loop** meets one event, and goes on if `connectionLoop` does. -/
theorem yields_connectionTurn_iff {sessionId : String} {n : ℕ} {tr : List ClientEvent}
    {out : Bool × Connection} :
    Yields (connectionTurn ⟨⟨some sessionId⟩, n, none⟩) tr out ↔
      ∃ e, EventTrace sessionId e tr ∧
        out = ((connectionLoop n [e]).isNone, .meet sessionId n e) := by
  constructor
  · intro hturn
    obtain ⟨branch, tr₁, rfl, hrest⟩ := yields_perform_bind_iff.mp hturn
    match branch with
    | .channelClosed =>
      obtain ⟨rfl, rfl⟩ := yields_pure_iff.mp hrest
      exact ⟨_, .channelClosed, rfl⟩
    | .shutdownChanged true =>
      obtain ⟨rfl, rfl⟩ := yields_pure_iff.mp hrest
      exact ⟨_, .shutdownChanged true, rfl⟩
    | .shutdownChanged false =>
      obtain ⟨rfl, rfl⟩ := yields_pure_iff.mp hrest
      exact ⟨_, .shutdownChanged false, rfl⟩
    | .tick =>
      obtain ⟨timestamp, tr₂, rfl, hsend⟩ := yields_op_iff.mp hrest
      obtain ⟨answer, tr₃, rfl, hend⟩ := yields_op_iff.mp hsend
      match answer with
      | .ok ⟨time, true⟩ =>
        obtain ⟨rfl, rfl⟩ := yields_pure_iff.mp hend
        exact ⟨_, .heartbeat timestamp ⟨time, true⟩, rfl⟩
      | .ok ⟨time, false⟩ =>
        obtain ⟨rfl, rfl⟩ := yields_pure_iff.mp hend
        exact ⟨_, .heartbeat timestamp ⟨time, false⟩, rfl⟩
      | .error text =>
        obtain ⟨rfl, rfl⟩ := (yields_failedHeartbeat_iff text).mp hend
        exact ⟨_, .heartbeatFailed timestamp text, rfl⟩
  · rintro ⟨e, he, rfl⟩
    cases he with
    | channelClosed => exact .head (.refl _)
    | shutdownChanged value => cases value <;> exact .head (.refl _)
    | heartbeat timestamp response =>
      obtain ⟨time, valid⟩ := response
      cases valid <;> exact .head (.head (.head (.refl _)))
    | heartbeatFailed timestamp text =>
      exact .head (.head (.head ((yields_failedHeartbeat_iff text).mpr ⟨rfl, rfl⟩)))

theorem meet_of_live {sessionId : String} {n : ℕ} {e : ConnectionEvent}
    (hlive : connectionLoop n [e] = none) :
    Connection.meet sessionId n e = ⟨⟨some sessionId⟩, failuresAfter n e, none⟩ := by
  match e with
  | .heartbeat (.ok true) | .shutdownChanged false => rfl
  | .heartbeat (.ok false) | .channelClosed | .shutdownChanged true => cases hlive
  | .heartbeat (.error text) => rw [Connection.meet, hlive]; rfl

/-- A result is not changed by later events. -/
theorem connectionLoop_append {n : ℕ} {es : List ConnectionEvent} {r : Except ClientError Unit}
    (h : connectionLoop n es = some r) (es' : List ConnectionEvent) :
    connectionLoop n (es ++ es') = some r := by
  fun_induction connectionLoop n es with
  | case1 => cases h
  | case2 n es ih => simpa [connectionLoop] using ih h
  | case3 n sessionValid es hvalid => simpa [connectionLoop, hvalid] using h
  | case4 n text es hfew => simpa [connectionLoop, hfew] using h
  | case5 n text es hfew ih => simpa [connectionLoop, hfew] using ih h
  | case6 n es => simpa [connectionLoop] using h
  | case7 n es => simpa [connectionLoop] using h
  | case8 n value es hvalue ih => simpa [connectionLoop, hvalue] using ih h

theorem live_of_append {es es' : List ConnectionEvent}
    (h : connectionLoop 0 (es ++ es') = none) : connectionLoop 0 es = none := by
  cases hes : connectionLoop 0 es with
  | none => rfl
  | some r =>
    rw [connectionLoop_append hes] at h
    cases h

/-- The last of a list that is related to `ts ++ [t]`. -/
theorem exists_concat_of_forall₂ {Alpha Beta : Type} {R : Alpha → Beta → Prop} {l : List Alpha}
    {ts : List Beta} {t : Beta} (h : List.Forall₂ R l (ts ++ [t])) :
    ∃ es e, l = es ++ [e] ∧ List.Forall₂ R es ts ∧ R e t := by
  obtain ⟨e, rest, he, hrest, hdrop⟩ :=
    List.forall₂_cons_right_iff.mp (List.forall₂_drop_append l ts [t] h)
  cases hrest
  exact ⟨_, e, by rw [← hdrop, List.take_append_drop], List.forall₂_take_append l ts [t] h, he⟩

/-- The turns that have gone on: the events that `connectionLoop` has met. -/
theorem iterates_connectionTurn_iff {sessionId : String} {tr : List ClientEvent}
    {s : Connection} :
    Iterates connectionTurn ⟨⟨some sessionId⟩, 0, none⟩ tr s ↔
      ∃ events turns, List.Forall₂ (EventTrace sessionId) events turns ∧ tr = turns.flatten ∧
        connectionLoop 0 events = none ∧
        s = ⟨⟨some sessionId⟩, events.foldl failuresAfter 0, none⟩ := by
  constructor
  · intro hturns
    induction hturns with
    | nil => exact ⟨[], [], .nil, rfl, rfl, rfl⟩
    | @snoc tr t s s' _ hturn ih =>
      obtain ⟨events, turns, hevents, rfl, hlive, rfl⟩ := ih
      obtain ⟨e, he, heq⟩ := yields_connectionTurn_iff.mp hturn
      obtain ⟨hnone, rfl⟩ := Prod.mk.inj heq
      have hlast : connectionLoop (events.foldl failuresAfter 0) [e] = none :=
        Option.isNone_iff_eq_none.mp hnone.symm
      refine ⟨events ++ [e], turns ++ [t], List.rel_append hevents (.cons he .nil), by simp,
        (connectionLoop_snoc hlive e).trans hlast, ?_⟩
      rw [meet_of_live hlast, List.foldl_append]
      rfl
  · rintro ⟨events, turns, hevents, rfl, hlive, rfl⟩
    induction turns using List.reverseRecOn generalizing events with
    | nil =>
      cases hevents
      exact .nil
    | append_singleton turns t ih =>
      obtain ⟨es, e, rfl, hes, he⟩ := exists_concat_of_forall₂ hevents
      have hlast := (connectionLoop_snoc (live_of_append hlive) e).symm.trans hlive
      rw [List.flatten_append, List.flatten_singleton, List.foldl_append]
      refine .snoc (ih es hes (live_of_append hlive)) (yields_connectionTurn_iff.mpr ⟨e, he, ?_⟩)
      rw [hlast, meet_of_live hlast]
      rfl

/-! ## The runs -/

/-- **The code of `run_connection` and its attempts.**  `run_connection` returns `r` along a
trace exactly if this is the trace of an attempt that `runConnection` gives the result `r`,
and whose events but the last leave the connection alive. -/
theorem returns_iff_attempt {server clientId version : String}
    {tlsConfig : Option TonicClientTls} {tr : List ClientEvent} {r : Except ClientError Unit} :
    ReturnsConnection server clientId version tlsConfig tr r ↔
      ∃ attempt, AttemptTrace server clientId version tlsConfig attempt tr ∧
        runConnection attempt = some r ∧ connectionLoop 0 attempt.events.dropLast = none := by
  constructor
  · intro h
    cases h with
    | failed hopen =>
      rcases yields_openConnection_iff.mp hopen with ⟨readerInfo, e, heq, rfl⟩ |
        ⟨readerInfo, text, heq, rfl⟩ | ⟨_, _, _, heq, -⟩
      · cases heq
        exact ⟨_, .unreachable readerInfo _, rfl, rfl⟩
      · cases heq
        exact ⟨_, .refused readerInfo text, rfl, rfl⟩
      · cases heq
    | @served t₁ t₂ t₃ c s s' r hopen hturns hlast hr =>
      rcases yields_openConnection_iff.mp hopen with ⟨_, _, heq, -⟩ | ⟨_, _, heq, -⟩ |
        ⟨readerInfo, response, registrations, heq, hregistrations, rfl⟩
      · cases heq
      · cases heq
      · cases heq
        obtain ⟨events, turns, hevents, rfl, hlive, rfl⟩ := iterates_connectionTurn_iff.mp hturns
        obtain ⟨e, he, heq⟩ := yields_connectionTurn_iff.mp hlast
        obtain ⟨-, rfl⟩ := Prod.mk.inj heq
        refine ⟨⟨.ok (), .ok response.sessionId, events ++ [e]⟩, ?_,
          (connectionLoop_snoc hlive e).trans hr, ?_⟩
        · have hall := List.rel_append hevents (List.Forall₂.cons he .nil)
          rw [List.append_assoc, ← List.flatten_singleton (l := t₃), ← List.flatten_append]
          exact .served hregistrations hall
        · rwa [List.dropLast_concat]
  · rintro ⟨attempt, htrace, hrun, hlive⟩
    cases htrace with
    | unreachable readerInfo e =>
      cases hrun
      exact .failed (yields_openConnection_iff.mpr (Or.inl ⟨readerInfo, e, rfl, rfl⟩))
    | refused readerInfo text =>
      cases hrun
      exact .failed (yields_openConnection_iff.mpr (Or.inr (Or.inl ⟨readerInfo, text, rfl, rfl⟩)))
    | @served readerInfo response registrations events turns hregistrations hturns =>
      have hopen : Yields (openConnection server clientId version tlsConfig) _
          (.ok ⟨some response.sessionId⟩) := yields_openConnection_iff.mpr
        (Or.inr (Or.inr ⟨readerInfo, response, registrations, rfl, hregistrations, rfl⟩))
      rcases List.eq_nil_or_concat turns with rfl | ⟨turns, t, rfl⟩
      · cases hturns
        cases hrun
      · rw [List.concat_eq_append] at hturns ⊢
        obtain ⟨events, e, rfl, hevents, he⟩ := exists_concat_of_forall₂ hturns
        rw [List.dropLast_concat] at hlive
        have hlast : connectionLoop (events.foldl failuresAfter 0) [e] = some r :=
          (connectionLoop_snoc hlive e).symm.trans hrun
        rw [List.flatten_append, List.flatten_singleton, ← List.append_assoc]
        exact .served hopen
          (iterates_connectionTurn_iff.mpr ⟨events, turns, hevents, rfl, hlive, rfl⟩)
          (yields_connectionTurn_iff.mpr ⟨e, he, by rw [hlast]; rfl⟩) hlast

/-! ## When a connection ends -/

/-- The answers to the heartbeats. -/
def heartbeats (events : List ConnectionEvent) : List (Except String Bool) :=
  events.filterMap fun
    | .heartbeat answer => some answer
    | _ => none

/-- An event that ends the connection whatever came before it. -/
def ConnectionEvent.Final : ConnectionEvent → Prop
  | .heartbeat (.ok false) | .channelClosed | .shutdownChanged true => True
  | _ => False

/-- Nothing in the events ends a connection: no event is final, and no three heartbeats
after one another have failed, whatever else happened between them. -/
structure Lives (events : List ConnectionEvent) : Prop where
  notFinal : ∀ e ∈ events, ¬ e.Final
  answered : ∀ t₁ t₂ t₃, ¬ [.error t₁, .error t₂, .error t₃] <:+: heartbeats events

/-- After the events `es` the event `e` ends the connection with the result `r`. -/
inductive Ends (es : List ConnectionEvent) : ConnectionEvent → Except ClientError Unit → Prop
  | invalidated :
      Ends es (.heartbeat (.ok false)) (.error (.connection "Session invalidated"))
  | unanswered {t₁ t₂ t₃ : String} (h : [.error t₁, .error t₂] <:+ heartbeats es) :
      Ends es (.heartbeat (.error t₃)) (.error (.connection "Heartbeat failures"))
  | channelClosed : Ends es .channelClosed (.error (.connection "Command channel closed"))
  | shutdown : Ends es (.shutdownChanged true) (.ok ())

theorem heartbeats_concat (es : List ConnectionEvent) (e : ConnectionEvent) :
    heartbeats (es ++ [e]) = heartbeats es ++ heartbeats [e] := List.filterMap_append

/-- The counter of the loop is the number of failures at the end. -/
theorem le_failures_iff {k : ℕ} {events : List ConnectionEvent} :
    k ≤ events.foldl failuresAfter 0 ↔
      ∃ texts : List String, texts.length = k ∧ texts.map .error <:+ heartbeats events := by
  induction events using List.reverseRecOn generalizing k with
  | nil =>
    constructor
    · intro h
      exact ⟨[], (Nat.le_zero.mp h).symm, List.nil_suffix⟩
    · rintro ⟨texts, rfl, h⟩
      have hnil := List.suffix_nil.mp h
      simp [List.map_eq_nil_iff.mp hnil]
  | append_singleton es e ih =>
    rw [List.foldl_append, heartbeats_concat]
    match e with
    | .channelClosed => simpa [failuresAfter, heartbeats] using ih
    | .shutdownChanged value => simpa [failuresAfter, heartbeats] using ih
    | .heartbeat (.ok sessionValid) =>
      show k ≤ 0 ↔ ∃ texts : List String, texts.length = k ∧
        texts.map .error <:+ heartbeats es ++ [.ok sessionValid]
      constructor
      · intro h
        exact ⟨[], (Nat.le_zero.mp h).symm, List.nil_suffix⟩
      · rintro ⟨texts, rfl, h⟩
        rcases List.suffix_concat_iff.mp h with hnil | ⟨t, ht, -⟩
        · simp [List.map_eq_nil_iff.mp hnil]
        · have hmem : Except.ok sessionValid ∈ texts.map .error := by simp [ht]
          simp at hmem
    | .heartbeat (.error text) =>
      show k ≤ es.foldl failuresAfter 0 + 1 ↔ ∃ texts : List String, texts.length = k ∧
        texts.map .error <:+ heartbeats es ++ [.error text]
      cases k with
      | zero => exact ⟨fun _ => ⟨[], rfl, List.nil_suffix⟩, fun _ => Nat.zero_le _⟩
      | succ k =>
        rw [Nat.add_le_add_iff_right, ih]
        constructor
        · rintro ⟨texts, rfl, h⟩
          exact ⟨texts ++ [text], by simp, List.suffix_concat_iff.mpr (Or.inr ⟨_, by simp, h⟩)⟩
        · rintro ⟨texts, hlength, h⟩
          rcases List.eq_nil_or_concat texts with rfl | ⟨texts, text', rfl⟩
          · cases hlength
          · rcases List.suffix_concat_iff.mp h with hnil | ⟨t, ht, hsuffix⟩
            · simp at hnil
            · rw [List.concat_eq_append, List.map_append] at ht
              obtain ⟨rfl, -⟩ := List.append_inj' ht rfl
              exact ⟨texts, by simpa using hlength, hsuffix⟩

/-- The event after which the loop is left. -/
theorem connectionLoop_iff_ends {es : List ConnectionEvent} {e : ConnectionEvent}
    {r : Except ClientError Unit} :
    connectionLoop (es.foldl failuresAfter 0) [e] = some r ↔ Ends es e r := by
  match e with
  | .heartbeat (.ok true) | .shutdownChanged false =>
    exact ⟨fun h => (by cases h), fun h => (by cases h)⟩
  | .heartbeat (.ok false) =>
    exact ⟨fun h => (by cases h; exact .invalidated), fun h => (by cases h; rfl)⟩
  | .channelClosed =>
    exact ⟨fun h => (by cases h; exact .channelClosed), fun h => (by cases h; rfl)⟩
  | .shutdownChanged true =>
    exact ⟨fun h => (by cases h; exact .shutdown), fun h => (by cases h; rfl)⟩
  | .heartbeat (.error text) =>
    have hfailures : maxHeartbeatFailures ≤ es.foldl failuresAfter 0 + 1 ↔
        ∃ t₁ t₂ : String, [.error t₁, .error t₂] <:+ heartbeats es := by
      rw [show maxHeartbeatFailures = 2 + 1 from rfl, Nat.add_le_add_iff_right, le_failures_iff]
      constructor
      · rintro ⟨texts, hlength, h⟩
        obtain ⟨t₁, t₂, rfl⟩ := List.length_eq_two.mp hlength
        exact ⟨t₁, t₂, h⟩
      · rintro ⟨t₁, t₂, h⟩
        exact ⟨[t₁, t₂], rfl, h⟩
    simp only [connectionLoop]
    constructor
    · intro h
      split_ifs at h with hmax
      cases h
      obtain ⟨t₁, t₂, hsuffix⟩ := hfailures.mp hmax
      exact .unanswered hsuffix
    · intro h
      cases h with
      | unanswered hsuffix => rw [if_pos (hfailures.mpr ⟨_, _, hsuffix⟩)]

theorem not_final_of_goesOn {es : List ConnectionEvent} {e : ConnectionEvent}
    (h : ∀ r, ¬ Ends es e r) : ¬ e.Final := by
  match e with
  | .heartbeat (.ok false) => exact absurd .invalidated (h _)
  | .channelClosed => exact absurd .channelClosed (h _)
  | .shutdownChanged true => exact absurd .shutdown (h _)
  | .heartbeat (.ok true) | .heartbeat (.error _) | .shutdownChanged false =>
    exact fun hfinal => hfinal

/-- An event more: the connection lives on unless this event ends it. -/
theorem lives_concat_iff {es : List ConnectionEvent} {e : ConnectionEvent} :
    Lives (es ++ [e]) ↔ Lives es ∧ ∀ r, ¬ Ends es e r := by
  constructor
  · rintro ⟨hfinal, hanswered⟩
    refine ⟨⟨fun e' he' => hfinal e' (List.mem_append_left _ he'), fun t₁ t₂ t₃ h => ?_⟩,
      fun r hends => ?_⟩
    · rw [heartbeats_concat] at hanswered
      exact hanswered t₁ t₂ t₃ (h.trans (List.prefix_append _ _).isInfix)
    · have hlast := hfinal e (List.mem_append_right _ (List.mem_singleton_self e))
      cases hends with
      | @unanswered t₁ t₂ t₃ h =>
        rw [heartbeats_concat] at hanswered
        obtain ⟨front, hfront⟩ := h
        exact hanswered t₁ t₂ t₃ ⟨front, [], by rw [← hfront]; simp [heartbeats]⟩
      | _ => exact hlast trivial
  · rintro ⟨⟨hfinal, hanswered⟩, hends⟩
    refine ⟨fun e' he' => ?_, fun t₁ t₂ t₃ h => ?_⟩
    · rcases List.mem_append.mp he' with he' | he'
      · exact hfinal e' he'
      · rw [List.mem_singleton.mp he']
        exact not_final_of_goesOn hends
    · rw [heartbeats_concat] at h
      match e with
      | .channelClosed => exact hends _ .channelClosed
      | .shutdownChanged value =>
        exact hanswered t₁ t₂ t₃ (by simpa [heartbeats] using h)
      | .heartbeat answer =>
        -- the three failures are before the last answer, or it is the third
        rcases List.infix_concat_iff.mp h with hsuffix | hinfix
        · rcases List.suffix_concat_iff.mp hsuffix with hnil | ⟨t, ht, hpast⟩
          · cases hnil
          · have hsplit : [.error t₁, .error t₂] ++ [.error t₃] = t ++ [answer] := ht
            obtain ⟨rfl, hanswer⟩ := List.append_inj' hsplit rfl
            obtain rfl := (List.cons.inj hanswer).1
            exact hends _ (.unanswered hpast)
        · exact hanswered t₁ t₂ t₃ hinfix

/-- The connections that live. -/
theorem connectionLoop_eq_none_iff {events : List ConnectionEvent} :
    connectionLoop 0 events = none ↔ Lives events := by
  induction events using List.reverseRecOn with
  | nil => exact ⟨fun _ => ⟨by simp, by simp [heartbeats]⟩, fun _ => rfl⟩
  | append_singleton es e ih =>
    rw [lives_concat_iff, ← ih]
    constructor
    · intro h
      have hlive := live_of_append h
      refine ⟨hlive, fun r hends => ?_⟩
      rw [connectionLoop_snoc hlive, connectionLoop_iff_ends.mpr hends] at h
      cases h
    · rintro ⟨hlive, hends⟩
      rw [connectionLoop_snoc hlive]
      exact Option.eq_none_iff_forall_ne_some.mpr fun r hr =>
        hends r (connectionLoop_iff_ends.mp hr)

/-- **When `run_connection` gives up a connection.**  Once there is a session, it returns at
the first event that ends the connection: an answer that the session is not valid, the third
failure in a row of the heartbeats, the end of the command channel, or a shutdown; and only
for the shutdown its result is no error. -/
theorem returns_iff_ends {sessionId : String} {events : List ConnectionEvent}
    {r : Except ClientError Unit} :
    runConnection ⟨.ok (), .ok sessionId, events⟩ = some r ↔
      ∃ es e es', events = es ++ e :: es' ∧ Lives es ∧ Ends es e r := by
  show connectionLoop 0 events = some r ↔ _
  constructor
  · intro h
    induction events using List.reverseRecOn with
    | nil => cases h
    | append_singleton es e ih =>
      cases hes : connectionLoop 0 es with
      | none =>
        rw [connectionLoop_snoc hes] at h
        exact ⟨es, e, [], rfl, connectionLoop_eq_none_iff.mp hes, connectionLoop_iff_ends.mp h⟩
      | some r' =>
        have hsame := (connectionLoop_append hes [e]).symm.trans h
        obtain ⟨es₁, e₁, es₂, rfl, hlives, hends⟩ := ih (hes.trans hsame)
        exact ⟨es₁, e₁, es₂ ++ [e], by simp, hlives, hends⟩
  · rintro ⟨es, e, es', rfl, hlives, hends⟩
    have hfirst : connectionLoop 0 (es ++ [e]) = some r := by
      rw [connectionLoop_snoc (connectionLoop_eq_none_iff.mpr hlives)]
      exact connectionLoop_iff_ends.mpr hends
    rw [List.append_cons]
    exact connectionLoop_append hfirst es'

end RemoteSmartcard
