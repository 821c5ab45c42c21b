/-
# Channels between tasks

The two kinds of channel an asynchronous runtime offers, over an arbitrary type
of values:

* `Oneshot` — one value, sent at most once, with a sender that can be dropped
  and a receiver that can go away;
* `Mpsc` — a bounded queue with many senders and one receiver.  That the queue
  never exceeds its capacity is a field of the structure.
-/
import Mathlib.Tactic

/-! ## Oneshot channels -/

/-- The sending half of a oneshot channel: still held by somebody, used to send
a value, or dropped without sending. -/
inductive OneshotSender (Alpha : Type*)
  | held
  | sent (value : Alpha)
  | dropped
  deriving DecidableEq

/-- A oneshot channel. -/
structure Oneshot (Alpha : Type*) where
  sender : OneshotSender Alpha
  receiverAlive : Bool
  deriving DecidableEq

namespace Oneshot

variable {Alpha : Type*}

/-- `oneshot::channel()`: both halves alive, nothing sent. -/
def new : Oneshot Alpha := ⟨.held, true⟩

/-- `Sender::send`: consumes the sender.  The value gets into the channel only
if the receiver is still there; otherwise it comes back as an error. -/
def send (c : Oneshot Alpha) (value : Alpha) : Except Alpha Unit × Oneshot Alpha :=
  if c.receiverAlive then (.ok (), { c with sender := .sent value })
  else (.error value, { c with sender := .dropped })

/-- The sender goes out of scope; a value sent before stays in the channel. -/
def dropSender (c : Oneshot Alpha) : Oneshot Alpha :=
  match c.sender with
  | .held => { c with sender := .dropped }
  | _ => c

/-- The receiver goes out of scope, or has delivered its result. -/
def dropReceiver (c : Oneshot Alpha) : Oneshot Alpha := { c with receiverAlive := false }

/-- What awaiting the receiver finds: `none` when there is nothing yet, the
value, or the error that the sender is gone. -/
def poll (c : Oneshot Alpha) : Option (Except Unit Alpha) :=
  match c.sender with
  | .held => none
  | .sent value => some (.ok value)
  | .dropped => some (.error ())

@[simp] theorem sender_new : (new : Oneshot Alpha).sender = .held := rfl

@[simp] theorem sender_dropReceiver (c : Oneshot Alpha) :
    c.dropReceiver.sender = c.sender := rfl

@[simp] theorem receiverAlive_dropReceiver (c : Oneshot Alpha) :
    c.dropReceiver.receiverAlive = false := rfl

@[simp] theorem receiverAlive_dropSender (c : Oneshot Alpha) :
    c.dropSender.receiverAlive = c.receiverAlive := by
  unfold dropSender
  cases c.sender <;> rfl

@[simp] theorem receiverAlive_send (c : Oneshot Alpha) (v : Alpha) :
    (c.send v).2.receiverAlive = c.receiverAlive := by
  unfold send
  split <;> rfl

/-- A value that was sent stays when the sender is dropped. -/
theorem sender_dropSender_eq_sent_iff {c : Oneshot Alpha} {v : Alpha} :
    c.dropSender.sender = .sent v ↔ c.sender = .sent v := by
  unfold dropSender
  cases h : c.sender <;> simp [h]

/-- A sender dropped is no longer held. -/
theorem sender_dropSender_ne_held (c : Oneshot Alpha) : c.dropSender.sender ≠ .held := by
  unfold dropSender
  cases h : c.sender <;> simp [h]

/-- Sending uses the sender up. -/
theorem sender_send_ne_held (c : Oneshot Alpha) (v : Alpha) :
    (c.send v).2.sender ≠ .held := by
  unfold send
  split <;> simp

/-- The value in the channel is the one that was sent. -/
theorem eq_of_sender_send_eq_sent {c : Oneshot Alpha} {v w : Alpha}
    (h : (c.send v).2.sender = .sent w) : w = v := by
  unfold send at h
  split at h
  · simpa using h.symm
  · simp at h

/-- A value that is received was sent. -/
theorem sender_eq_sent_of_poll {c : Oneshot Alpha} {v : Alpha}
    (h : c.poll = some (.ok v)) : c.sender = .sent v := by
  unfold poll at h
  cases hc : c.sender <;> simp_all

/-- The receiver sees the end of the channel only when the sender is gone. -/
theorem sender_eq_dropped_of_poll {c : Oneshot Alpha} (h : c.poll = some (.error ())) :
    c.sender = .dropped := by
  unfold poll at h
  cases hc : c.sender <;> simp_all

/-- It waits only as long as the sender is held. -/
theorem sender_eq_held_of_poll {c : Oneshot Alpha} (h : c.poll = none) : c.sender = .held := by
  unfold poll at h
  cases hc : c.sender <;> simp_all

end Oneshot

/-! ## Bounded queues -/

/-- A bounded multi-producer queue, with the receiving half alive or dropped. -/
structure Mpsc (Alpha : Type*) where
  capacity : ℕ
  queue : List Alpha
  receiverAlive : Bool
  bounded : queue.length ≤ capacity

/-- What one attempt to send on a bounded queue finds. -/
inductive MpscSend (Alpha : Type*)
  | closed
  | full
  | sent (channel : Mpsc Alpha)

namespace Mpsc

variable {Alpha : Type*}

/-- `mpsc::channel(capacity)`. -/
def new (capacity : ℕ) : Mpsc Alpha := ⟨capacity, [], true, Nat.zero_le _⟩

/-- `Sender::send`: an error once the receiver is gone, suspended while the
queue is full, else the value goes to the end of the queue. -/
def send (c : Mpsc Alpha) (value : Alpha) : MpscSend Alpha :=
  if c.receiverAlive then
    if h : c.queue.length < c.capacity then
      .sent { c with queue := c.queue ++ [value], bounded := by simpa using h }
    else .full
  else .closed

/-- `Receiver::recv`: take the value at the front. -/
def recv (c : Mpsc Alpha) : Option (Alpha × Mpsc Alpha) :=
  match h : c.queue with
  | [] => none
  | value :: rest =>
    some (value, { c with queue := rest, bounded := by have := c.bounded; simp [h] at this; omega })

/-- The receiving half goes away, and the queued values with it. -/
def close (c : Mpsc Alpha) : Mpsc Alpha :=
  { c with queue := [], receiverAlive := false, bounded := Nat.zero_le _ }

/-- A value sent is at the end of the queue, whose receiver is there. -/
theorem send_eq_sent {c c' : Mpsc Alpha} {v : Alpha} (h : c.send v = .sent c') :
    c.receiverAlive = true ∧ c'.queue = c.queue ++ [v] ∧ c'.receiverAlive = true ∧
      c'.capacity = c.capacity := by
  unfold send at h
  split at h
  · rename_i ha
    split at h
    · injection h with h
      subst h
      exact ⟨ha, rfl, ha, rfl⟩
    · cases h
  · cases h

/-- A send fails only without a receiver. -/
theorem receiverAlive_of_send_eq_closed {c : Mpsc Alpha} {v : Alpha}
    (h : c.send v = .closed) : c.receiverAlive = false := by
  unfold send at h
  split at h
  · split at h <;> cases h
  · rename_i halive
    simpa using halive

/-- What is taken is the value at the front. -/
theorem recv_eq_some {c c' : Mpsc Alpha} {v : Alpha} (h : c.recv = some (v, c')) :
    c.queue = v :: c'.queue ∧ c'.receiverAlive = c.receiverAlive := by
  unfold recv at h
  split at h
  · cases h
  · rename_i hqueue
    cases h
    exact ⟨hqueue, rfl⟩

/-- A value in the queue can be taken. -/
theorem exists_recv {c : Mpsc Alpha} (hne : c.queue ≠ []) :
    ∃ v c', c.recv = some (v, c') := by
  unfold recv
  split
  · rename_i hnil
    exact absurd hnil hne
  · exact ⟨_, _, rfl⟩

/-- A send is suspended exactly on a full queue with a receiver. -/
theorem send_eq_full_iff {c : Mpsc Alpha} {v : Alpha} :
    c.send v = .full ↔ c.receiverAlive = true ∧ c.capacity ≤ c.queue.length := by
  unfold send
  split
  · rename_i halive
    split
    · rename_i hlt
      simp [halive, hlt]
    · rename_i hle
      simp [halive, Nat.not_lt.mp hle]
  · rename_i halive
    simp [halive]

end Mpsc
