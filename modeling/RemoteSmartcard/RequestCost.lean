/-
# What a request of vpcd can cost

The operations by which a vpcd task handles a message are looks at the session table,
pauses, commands and waits for a response.  At any prices for them, what a task has done on a
connection costs no more than the messages it has received there allow
(`cost_le_of_reachable`): nothing for a power command, and for `GetAtr` and an APDU at most
the 300 looks and pauses of `wait_for_command_channel`, one command and one wait.
-/
import RemoteSmartcard.ProtocolTrace
import RemoteSmartcard.RequestDiscipline
import RemoteSmartcard.RequestGrammar

namespace RemoteSmartcard

open VpcdOp
open Program hiding pure

/-! ## Prices -/

/-- Prices of the operations: a look at the session table, a millisecond of a pause, a
command, and the wait for its response. -/
structure Tariff where
  look : ℕ
  millisecond : ℕ
  command : ℕ
  wait : ℕ

namespace Tariff

/-- The price of an operation; reading and writing are free. -/
def price (t : Tariff) : VpcdOp → ℕ
  | getSession _ => t.look
  | sleep millis => t.millisecond * millis
  | sendCommand _ _ _ => t.command
  | recvResponse _ => t.wait
  | _ => 0

/-- The most that a command to the client costs, with the wait for the channel. -/
def exchange (t : Tariff) : ℕ := 300 * (t.look + t.millisecond * 100) + (t.command + t.wait)

/-- The most that a message costs; `get_atr_from_client` looks for a stored ATR first. -/
def request (t : Tariff) : VpcdMessage → ℕ
  | .control .getAtr => t.look + t.exchange
  | .control _ => 0
  | .apdu _ => t.exchange

/-! ## The worst case of the handling -/

variable (t : Tariff)

/-- Reading and writing are free. -/
theorem price_eq_zero {o : VpcdOp} (h : o.part ≠ .handling) : t.price o = 0 := by
  cases o <;> first | rfl | exact absurd rfl h

/-- Each wait for a command channel costs a look at the session and 100 ms. -/
theorem spends_pollCommandChannel (sid : String) (n : ℕ) :
    Spends t.price (VpcdClient.pollCommandChannel sid n)
      (n * (t.look + t.millisecond * 100)) := by
  induction n with
  | zero => trivial
  | succ n ih =>
    have hsum : t.look + (t.millisecond * 100 + n * (t.look + t.millisecond * 100)) =
        (n + 1) * (t.look + t.millisecond * 100) := by ring
    rw [← hsum]
    refine .perform_bind rfl fun session => ?_
    rcases session with _ | session
    · trivial
    · dsimp only
      split_ifs
      · trivial
      · exact .perform_bind rfl fun _ => ih

/-- Asking the client costs one exchange. -/
theorem spends_ask {Alpha : Type} (c : VpcdClient) (sid readerName : String)
    (command : Command) (d : Alpha) {k : CommandResponse → VpcdProgram Alpha}
    (hk : ∀ r, Spends t.price (k r) 0) :
    Spends t.price (c.ask sid readerName command d k) t.exchange := by
  have hwait : Spends t.price c.waitForCommandChannel
      (300 * (t.look + t.millisecond * 100)) := by
    unfold VpcdClient.waitForCommandChannel
    split
    · exact t.spends_pollCommandChannel _ 300
    · trivial
  refine hwait.bind fun ready => ?_
  split
  · trivial
  · refine .perform_bind rfl fun sent => ?_
    rcases sent with _ | _ | rx
    · trivial
    · trivial
    · refine .perform_bind (m := 0) rfl fun answer => ?_
      rcases answer with (_ | _) | r
      · trivial
      · trivial
      · exact hk r

/-- `forward_apdu` asks once. -/
theorem spends_forwardApdu (c : VpcdClient) (apdu : Bytes) :
    Spends t.price (c.forwardApdu apdu) t.exchange := by
  rw [VpcdClient.forwardApdu_eq]
  split
  · exact t.spends_ask _ _ _ _ _ fun _ => trivial
  · trivial

/-- `get_atr_from_client` looks at the session, and asks once at most. -/
theorem spends_getAtrFromClient (c : VpcdClient) :
    Spends t.price c.getAtrFromClient (t.look + t.exchange) := by
  rw [VpcdClient.getAtrFromClient_eq]
  split
  · refine .perform_bind rfl fun session => ?_
    split
    · trivial
    · refine t.spends_ask _ _ _ _ _ fun r => ?_
      split <;> trivial
  · trivial

/-- **The worst case of a message.** -/
theorem spends_handleMessage (c : VpcdClient) (msg : VpcdMessage) :
    Spends t.price (c.handleMessage msg) (t.request msg) := by
  rcases msg with cmd | data
  · cases cmd with
    | powerOff => trivial
    | powerOn => trivial
    | reset => trivial
    | getAtr => exact (t.spends_getAtrFromClient c).bind (m := 0) fun _ => trivial
  · exact (t.spends_forwardApdu c data).bind (m := 0) fun _ => trivial

/-! ## The cost of a connection -/

/-- The most that the messages received allow. -/
def allowance (tr : List VpcdEvent) : ℕ := ((requests tr).map t.request).sum

/-- What two traces may cost is the sum of what each may. -/
theorem allowance_append (tr tr' : List VpcdEvent) :
    t.allowance (tr ++ tr') = t.allowance tr + t.allowance tr' := by
  simp [allowance]

/-- The other parts of a round are free. -/
theorem cost_eq_zero {Alpha : Type} {p q : VpcdProgram Alpha} {tr : List VpcdEvent} {x : Part}
    (hp : p.Uses fun o => o.part = x) (hx : x ≠ .handling) (h : Follows p tr q) :
    cost t.price tr = 0 := by
  have hfree : p.Uses fun o => t.price o = 0 :=
    hp.mono fun o ho => t.price_eq_zero (ho.trans_ne hx)
  exact Nat.le_zero.mp (hfree.spends.cost_le h)

/-- A message read and handled, as far as it has got. -/
theorem cost_received_le {c : VpcdClient} {msg : VpcdMessage} {reading handling : List VpcdEvent}
    {p : VpcdProgram (Option Bytes × VpcdClient)}
    (hr : receiveMessage.Yields reading (.ok (some msg)))
    (hh : Follows (c.handleMessage msg) handling p) :
    cost t.price (reading ++ ⟨received msg, ()⟩ :: handling) ≤ t.request msg := by
  have hreading : cost t.price reading = 0 :=
    t.cost_eq_zero uses_receiveMessage (by decide) hr
  have hreceived : cost t.price (⟨received msg, ()⟩ :: handling) = cost t.price handling := by
    simp [cost, price]
  rw [cost_append, hreading, Nat.zero_add, hreceived]
  exact (t.spends_handleMessage c msg).cost_le hh

/-- An exchange costs what its message allows. -/
theorem cost_exchange_le (x : Exchange) : cost t.price x.trace ≤ t.allowance x.trace := by
  have hallowance : t.allowance x.trace = t.request x.msg := by
    rw [allowance, requests, x.marks_trace]
    cases x.answer <;> simp
  have hwriting : cost t.price x.writing = 0 := by
    have hhands := x.hands
    cases ha : x.answer with
    | none =>
      rw [ha] at hhands
      rw [show x.writing = [] from hhands]
      rfl
    | some data =>
      rw [ha] at hhands
      obtain ⟨tr, p, hw, hsend⟩ := hhands
      rw [hw]
      have hsending : cost t.price (⟨sending data, ()⟩ :: tr) = cost t.price tr := by
        simp [cost, price]
      rw [hsending]
      exact t.cost_eq_zero (uses_sendResponse data) (by decide) hsend
  have htrace : x.trace = (x.reading ++ ⟨received x.msg, ()⟩ :: x.handling) ++ x.writing := by
    simp [Exchange.trace]
  rw [hallowance, htrace, cost_append, hwriting, Nat.add_zero]
  exact t.cost_received_le x.reads x.handles

/-- So does a round that has not been answered. -/
theorem cost_unanswered_le {c : VpcdClient} {tr : List VpcdEvent} (h : Unanswered c tr) :
    cost t.price tr ≤ t.allowance tr := by
  cases h with
  | reading h =>
    rw [t.cost_eq_zero uses_receiveMessage (by decide) h]
    exact Nat.zero_le _
  | @handling reading handling msg p hr hh =>
    have hallowance : t.allowance (reading ++ ⟨received msg, ()⟩ :: handling) =
        t.request msg := by
      rw [allowance, requests, marks_append, marks_received,
        marks_eq_nil uses_receiveMessage (by decide) hr,
        marks_eq_nil (c.uses_handleMessage msg) (by decide) hh]
      simp
    rw [hallowance]
    exact t.cost_received_le hr hh

/-- **Several exchanges** cost no more than their messages allow. -/
theorem cost_exchanges_le (xs : List Exchange) :
    cost t.price (xs.flatMap Exchange.trace) ≤ t.allowance (xs.flatMap Exchange.trace) := by
  induction xs with
  | nil => exact Nat.zero_le _
  | cons x xs ih =>
    rw [List.flatMap_cons, cost_append, allowance_append]
    exact Nat.add_le_add (t.cost_exchange_le x) ih

end Tariff

namespace Server

/-- **The cost of the requests.**  In every reachable state, at any prices: what a vpcd task
has done on a connection costs no more than the messages received on it allow, whatever the
clients and the other tasks do. -/
theorem cost_le_of_reachable {svc : SmartcardService} {s : Server} (hs : s.Reachable svc)
    (t : Tariff) (i n : ℕ) :
    cost t.price (s.traceOf i n) ≤ ((requests (s.traceOf i n)).map t.request).sum := by
  obtain ⟨c, c₁, p, hserves⟩ := hs.traced.past i n
  obtain ⟨xs, c', tail, htrace, -, hun, -, -⟩ := exchanges_of_serves hserves
  rw [htrace, cost_append]
  refine (Nat.add_le_add (t.cost_exchanges_le xs) (t.cost_unanswered_le hun)).trans ?_
  rw [← t.allowance_append]
  exact le_rfl

/-- The APDU of `exchangeRun` takes one look at the table, one command and one wait, of up to
302 operations that are allowed. -/
theorem cost_le_of_reachable_exchange :
    (exchangeState.Reachable ⟨"127.0.0.1", 35963, true⟩ ∧
      cost (Tariff.price ⟨1, 0, 1, 1⟩) (exchangeState.traceOf 0 1) ≤
        ((requests (exchangeState.traceOf 0 1)).map (Tariff.request ⟨1, 0, 1, 1⟩)).sum) ∧
    cost (Tariff.price ⟨1, 0, 1, 1⟩) (exchangeState.traceOf 0 1) = 3 ∧
    ((requests (exchangeState.traceOf 0 1)).map (Tariff.request ⟨1, 0, 1, 1⟩)).sum = 302 :=
  ⟨⟨reachable_exchangeState, cost_le_of_reachable reachable_exchangeState ⟨1, 0, 1, 1⟩ 0 1⟩,
    by decide, by decide⟩

end Server

end RemoteSmartcard
