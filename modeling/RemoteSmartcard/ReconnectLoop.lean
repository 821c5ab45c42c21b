/-
# The connection loop of the client (`client/src/main.rs`)

`run_connection` is one attempt: connect, establish a session, then serve until
the connection is lost or a shutdown is requested.  The loop of `main` makes
one attempt after the other and waits in between, for a delay kept in
`ReconnectConfig`.

An attempt is given by what happened in it.  The registration of the readers is
not part of it, since its failures are only logged; the start of the command
channel cannot fail once there is a session.
-/
import RemoteSmartcard.GrpcClient
import RemoteSmartcard.StepRun

namespace RemoteSmartcard

/-! ## Durations -/

/-- Nanoseconds in a second. -/
def nanosPerSec : ℕ := 1000000000

/-- `std::time::Duration`. -/
structure Duration where
  secs : UInt64
  nanos : ℕ
  nanos_lt : nanos < nanosPerSec
  deriving DecidableEq

namespace Duration

/-- `Duration::as_nanos`. -/
def asNanos (d : Duration) : ℕ := d.secs.toNat * nanosPerSec + d.nanos

/-- `Duration::from_secs`. -/
def fromSecs (secs : UInt64) : Duration := ⟨secs, 0, by decide⟩

/-- `Duration::checked_mul`: none when the seconds overflow. -/
def checkedMul (d : Duration) (rhs : ℕ) : Option Duration :=
  let totalNanos := d.nanos * rhs
  let secs := d.secs.toNat * rhs + totalNanos / nanosPerSec
  if secs < 2 ^ 64 then
    some ⟨UInt64.ofNat secs, totalNanos % nanosPerSec, Nat.mod_lt _ (by decide)⟩
  else none

/-- The order of durations: the seconds first. -/
def lt (d e : Duration) : Bool :=
  decide (d.secs < e.secs) || (decide (d.secs = e.secs) && decide (d.nanos < e.nanos))

/-- `std::cmp::min`. -/
def min (d e : Duration) : Duration := if lt e d then e else d

theorem asNanos_injective {d e : Duration} (h : d.asNanos = e.asNanos) : d = e := by
  have hd := d.nanos_lt
  have he := e.nanos_lt
  unfold asNanos nanosPerSec at h
  unfold nanosPerSec at hd he
  have hsecs : d.secs.toNat = e.secs.toNat := by omega
  have hnanos : d.nanos = e.nanos := by omega
  rcases d with ⟨ds, dn, _⟩
  rcases e with ⟨es, en, _⟩
  obtain rfl : ds = es := UInt64.toNat_inj.mp hsecs
  obtain rfl : dn = en := hnanos
  rfl

/-- A product that fits is computed exactly. -/
theorem checkedMul_eq_some {d : Duration} {rhs : ℕ}
    (h : d.asNanos * rhs < 2 ^ 64 * nanosPerSec) :
    ∃ e, d.checkedMul rhs = some e ∧ e.asNanos = d.asNanos * rhs := by
  have hsplit : d.asNanos * rhs =
      (d.secs.toNat * rhs + d.nanos * rhs / nanosPerSec) * nanosPerSec +
        d.nanos * rhs % nanosPerSec := by
    have hdiv := Nat.div_add_mod (d.nanos * rhs) nanosPerSec
    unfold asNanos
    calc (d.secs.toNat * nanosPerSec + d.nanos) * rhs
        = d.secs.toNat * rhs * nanosPerSec + d.nanos * rhs := by ring
      _ = d.secs.toNat * rhs * nanosPerSec +
            (nanosPerSec * (d.nanos * rhs / nanosPerSec) + d.nanos * rhs % nanosPerSec) := by
          rw [hdiv]
      _ = _ := by ring
  have hsecs : d.secs.toNat * rhs + d.nanos * rhs / nanosPerSec < 2 ^ 64 := by
    by_contra hge
    have := Nat.mul_le_mul_right nanosPerSec (Nat.not_lt.mp hge)
    omega
  refine ⟨_, if_pos hsecs, ?_⟩
  show (UInt64.ofNat (d.secs.toNat * rhs + d.nanos * rhs / nanosPerSec)).toNat * nanosPerSec +
    d.nanos * rhs % nanosPerSec = d.asNanos * rhs
  rw [UInt64.toNat_ofNat_of_lt' hsecs, hsplit]

end Duration

/-! ## The configuration -/

/-- `ReconnectConfig`. -/
structure ReconnectConfig where
  initialDelay : Duration
  maxDelay : Duration
  currentDelay : Duration
  enabled : Bool

namespace ReconnectConfig

/-- `ReconnectConfig::new`. -/
def new (initialDelay maxDelay : Duration) (enabled : Bool) : ReconnectConfig :=
  ⟨initialDelay, maxDelay, initialDelay, enabled⟩

/-- `ReconnectConfig::next_delay`: the current delay, and the configuration with
twice that delay, up to the maximum; none when doubling overflows, which is a
panic. -/
def nextDelay (c : ReconnectConfig) : Option (Duration × ReconnectConfig) :=
  (c.currentDelay.checkedMul 2).map fun doubled =>
    (c.currentDelay, { c with currentDelay := doubled.min c.maxDelay })

/-- `ReconnectConfig::reset`. -/
def reset (c : ReconnectConfig) : ReconnectConfig := { c with currentDelay := c.initialDelay }

end ReconnectConfig

/-! ## One attempt -/

/-- What the `select!` of an established connection comes upon: the answer to a
heartbeat (an error, or `session_valid`), the end of the command channel, a
change of the shutdown flag. -/
inductive ConnectionEvent
  | heartbeat (answer : Except String Bool)
  | channelClosed
  | shutdownChanged (value : Bool)

/-- What happens in one attempt: connecting, establishing the session (its id,
or the text of a status), and the events of the connection. -/
structure Attempt where
  connect : Except ClientError Unit
  establishSession : Except String String
  events : List ConnectionEvent

/-- `MAX_HEARTBEAT_FAILURES`. -/
def maxHeartbeatFailures : ℕ := 3

/-- The loop of `run_connection`, with the number of consecutive heartbeat
failures; none while it goes on. -/
def connectionLoop (failures : ℕ) : List ConnectionEvent → Option (Except ClientError Unit)
  | [] => none
  | .heartbeat (.ok sessionValid) :: es =>
    if sessionValid then connectionLoop 0 es
    else some (.error (.connection "Session invalidated"))
  | .heartbeat (.error _) :: es =>
    if maxHeartbeatFailures ≤ failures + 1 then some (.error (.connection "Heartbeat failures"))
    else connectionLoop (failures + 1) es
  | .channelClosed :: _ => some (.error (.connection "Command channel closed"))
  | .shutdownChanged value :: es => if value then some (.ok ()) else connectionLoop failures es

/-- `run_connection`; none while the connection lives. -/
def runConnection (a : Attempt) : Option (Except ClientError Unit) :=
  match a.connect with
  | .error e => some (.error e)
  | .ok () =>
    match a.establishSession with
    | .error e => some (.error (.connection s!"Session establishment failed: {e}"))
    | .ok _ => connectionLoop 0 a.events

namespace Attempt

/-- The attempt reached the server. -/
def connected (a : Attempt) : Bool :=
  match a.connect with
  | .ok () => true
  | .error _ => false

/-- The attempt established a session. -/
def established (a : Attempt) : Bool :=
  match a.connect, a.establishSession with
  | .ok (), .ok _ => true
  | _, _ => false

theorem connected_of_established {a : Attempt} (h : a.established = true) :
    a.connected = true := by
  unfold established at h
  unfold connected
  split at h
  · rename_i hconnect _
    rw [hconnect]
  · simp at h

end Attempt

/-! ## The loop -/

/-- How the wait after a lost connection ends. -/
inductive Wait
  | elapsed
  | shutdownChanged (value : Bool)
  deriving DecidableEq

/-- One round of the loop: the attempt, the wait, and the shutdown flag as it is
read at the end of the round. -/
structure Round where
  attempt : Attempt
  wait : Wait
  shutdown : Bool

/-- The state of `main`: the configuration, the waits so far (each with the
attempt before it), and the result once `main` has returned. -/
structure MainLoop where
  reconnectConfig : ReconnectConfig
  waits : List (Attempt × Duration)
  result : Option (Except ClientError Unit)

namespace MainLoop

/-- `main` before the loop. -/
def start (initialDelay maxDelay : Duration) (enabled : Bool) : MainLoop :=
  ⟨.new initialDelay maxDelay enabled, [], none⟩

/-- One round of the loop of `main`; none after the loop, while the connection
lives, and on a panic. -/
def round (s : MainLoop) (r : Round) : Option MainLoop :=
  if s.result.isSome then none
  else
    match runConnection r.attempt with
    | none => none
    | some (.ok ()) => some { s with result := some (.ok ()) }
    | some (.error e) =>
      if !s.reconnectConfig.enabled then some { s with result := some (.error e) }
      else
        match s.reconnectConfig.nextDelay with
        | none => none
        | some (delay, config) =>
          let s := { s with
            reconnectConfig := config
            waits := s.waits ++ [(r.attempt, delay)] }
          if r.wait = .shutdownChanged true then some { s with result := some (.ok ()) }
          else if r.shutdown then some { s with result := some (.ok ()) }
          -- "Reset backoff on successful connection", after every lost one
          else some { s with reconnectConfig := s.reconnectConfig.reset }

end MainLoop

end RemoteSmartcard
