/-
# Power commands and the card

Does a `PowerOff` or `Reset` reach the card, and is an APDU held back while the
power is off?  The relay does nothing of the kind by itself: `handle_message`
only sets a field that nothing reads, no command for it is ever sent, and the
client would not act on one.  `honoured_of_run` says when `PowerHonoured` holds
nevertheless; `not_honoured_verifiedRun` is a run in which it does not.

The invariant of a run is `Linked`.  It rests on two protocols: what a vpcd
client may send (`commandProtocol`), and how the remote client uses its
connection (`connectionProtocol`).
-/
import RemoteSmartcard.CardProtocol
import RemoteSmartcard.Relay
import RemoteSmartcard.MessageLoop
import RemoteSmartcard.StepRun

namespace RemoteSmartcard

open VpcdOp
open Program hiding pure

/-! ## Watching a timeline -/

/-- What matters of a timeline for the next execution: the connection of the last
execution, whether a `PowerOff` or `Reset` came since, and whether the
connection was renewed since. -/
structure Watch where
  lastUse : Option ℕ
  cycled : Bool
  renewed : Bool
  deriving DecidableEq

/-- One more event. -/
def Watch.see (v : Watch) : LinkEvent → Watch
  | .exchange _ x => if x.executed then ⟨some x.card, false, false⟩ else v
  | .renewed => { v with renewed := true }
  | .message msg => { v with cycled := v.cycled || (LinkEvent.message msg).isCycle }

/-- What has been seen at the end of a timeline. -/
def watch (timeline : List LinkEvent) : Watch := timeline.foldl Watch.see ⟨none, false, false⟩

theorem watch_snoc (timeline : List LinkEvent) (e : LinkEvent) :
    watch (timeline ++ [e]) = (watch timeline).see e := by
  simp [watch]

/-- Without an execution, only the two flags change. -/
theorem foldl_see {between : List LinkEvent} (h : ∀ e ∈ between, e.isExecution = false)
    (v : Watch) : between.foldl Watch.see v =
      ⟨v.lastUse, v.cycled || between.any LinkEvent.isCycle,
        v.renewed || between.any LinkEvent.isRenewed⟩ := by
  induction between generalizing v with
  | nil => simp
  | cons e between ih =>
    have he : e.isExecution = false := h e (List.mem_cons_self ..)
    have hsee : v.see e = ⟨v.lastUse, v.cycled || e.isCycle, v.renewed || e.isRenewed⟩ := by
      cases e with
      | message msg => simp [Watch.see, LinkEvent.isRenewed]
      | renewed => simp [Watch.see, LinkEvent.isCycle, LinkEvent.isRenewed]
      | exchange o x =>
        have hx : x.executed = false := he
        simp [Watch.see, hx, LinkEvent.isCycle, LinkEvent.isRenewed]
    rw [List.foldl_cons, hsee, ih fun e' he' => h e' (List.mem_cons_of_mem _ he')]
    simp [Bool.or_assoc]

theorem watch_of_last {before between : List LinkEvent} {o : Option ℕ} {x : CardExchange}
    (hx : x.executed = true) (h : ∀ e ∈ between, e.isExecution = false) :
    watch (before ++ .exchange o x :: between) =
      ⟨some x.card, between.any LinkEvent.isCycle, between.any LinkEvent.isRenewed⟩ := by
  unfold watch
  rw [List.foldl_append, List.foldl_cons, Watch.see, if_pos hx, foldl_see h]
  simp

/-- **One more event and `PowerHonoured.cycled`.**  An execution after a
`PowerOff` or `Reset` is to find the connection renewed. -/
theorem cycled_snoc {timeline : List LinkEvent} {e : LinkEvent}
    (h : PowerHonoured timeline)
    (he : e.isExecution = true → (watch timeline).cycled = true →
      (watch timeline).lastUse.isSome → (watch timeline).renewed = true) :
    ∀ before between after o o' x y,
      timeline ++ [e] = before ++ .exchange o x :: between ++ .exchange o' y :: after →
        x.executed = true → y.executed = true → (∀ e ∈ between, e.isExecution = false) →
        (∃ e ∈ between, e.isCycle = true) → .renewed ∈ between := by
  intro before between after o o' x y heq hx hy hbetween hcycle
  rcases List.eq_nil_or_concat after with rfl | ⟨rest, last, rfl⟩
  · -- the new event is the second of the two executions
    obtain ⟨htimeline, hlast⟩ := List.append_inj_left' heq rfl, List.append_inj_right' heq rfl
    obtain rfl := List.singleton_inj.mp hlast
    have hwatch : watch timeline =
        ⟨some x.card, between.any LinkEvent.isCycle, between.any LinkEvent.isRenewed⟩ := by
      rw [htimeline]
      exact watch_of_last hx hbetween
    have hrenewed : between.any LinkEvent.isRenewed = true := by
      have := he hy (by rw [hwatch]; exact List.any_eq_true.mpr hcycle) (by rw [hwatch]; rfl)
      rwa [hwatch] at this
    obtain ⟨e', he', hisRenewed⟩ := List.any_eq_true.mp hrenewed
    cases e' with
    | renewed => exact he'
    | message msg => simp [LinkEvent.isRenewed] at hisRenewed
    | exchange o' x' => simp [LinkEvent.isRenewed] at hisRenewed
  · -- both were there before
    have htimeline : timeline =
        before ++ .exchange o x :: between ++ .exchange o' y :: rest := by
      rw [List.concat_eq_append, ← List.cons_append, ← List.append_assoc] at heq
      exact List.append_inj_left' heq rfl
    exact h.cycled before between rest o o' x y htimeline hx hy hbetween hcycle

/-! ## The side of the server -/

/-- The message is an APDU. -/
def VpcdMessage.isApdu : VpcdMessage → Bool
  | .control _ => false
  | .apdu _ => true

/-- The commands a vpcd client may send: for its reader, and APDU commands only
if `forwards`. -/
def commandProtocol (reader : String) (forwards : Bool) : Protocol VpcdOp VpcdRet Unit where
  allowed _ o := ∀ sid command readerName, o = .sendCommand sid command readerName →
    readerName = reader ∧ ∀ cmd, command = .apdu cmd → forwards = true
  next _ _ _ := ()

/-- `ask` sends its own command only. -/
theorem obeys_ask {Alpha : Type} {c : VpcdClient} {sid reader : String} {command : Command}
    {forwards : Bool} {d : Alpha} {k : CommandResponse → VpcdProgram Alpha}
    {Q : Alpha → Unit → Prop} (hforwards : ∀ cmd, command = .apdu cmd → forwards = true)
    (hd : Q d ()) (hk : ∀ r, Obeys (commandProtocol reader forwards) Q (k r) ()) :
    Obeys (commandProtocol reader forwards) Q (c.ask sid reader command d k) () := by
  have hwait : Obeys (commandProtocol reader forwards) (fun _ _ => True)
      c.waitForCommandChannel () := by
    refine c.uses_waitForCommandChannel.obeys ?_ ()
    rintro _ o ho sid' command' reader' rfl
    exact absurd ho id
  refine hwait.bind fun ready _ _ => ?_
  cases ready with
  | false => exact hd
  | true =>
    refine .perform_bind ?_ fun sent => ?_
    · intro sid' command' reader' heq
      cases heq
      exact ⟨rfl, hforwards⟩
    · rcases sent with _ | _ | rx
      · exact hd
      · exact hd
      · refine .perform_bind (by intro _ _ _ h; cases h) fun answer => ?_
        rcases answer with (_ | _) | r
        · exact hd
        · exact hd
        · exact hk r

/-- **`handle_message`** sends commands for the client's reader only, an APDU
command only for an APDU, and sets the power state as the message asks. -/
theorem obeys_handleMessage {c : VpcdClient} {reader : String} {forwards : Bool}
    (hreader : c.readerName = some reader) {msg : VpcdMessage}
    (hforwards : ∀ data, msg = .apdu data → forwards = true) :
    Obeys (commandProtocol reader forwards)
      (fun result _ => result.2.readerName = some reader ∧
        result.2.powered = powerAfter c.powered msg) (c.handleMessage msg) () := by
  rcases msg with cmd | data
  · cases cmd with
    | powerOff => exact ⟨hreader, rfl⟩
    | powerOn => exact ⟨hreader, rfl⟩
    | reset => exact ⟨hreader, rfl⟩
    | getAtr =>
      have hget : Obeys (commandProtocol reader forwards)
          (fun result _ => result.2.readerName = some reader ∧ result.2.powered = c.powered)
          c.getAtrFromClient () := by
        rw [VpcdClient.getAtrFromClient_eq]
        split
        · rename_i sid readerName _ hname
          obtain rfl : readerName = reader := Option.some.inj (hname.symm.trans hreader)
          refine .perform_bind (by intro _ _ _ h; cases h) fun session => ?_
          split
          · exact ⟨hreader, rfl⟩
          · refine obeys_ask (by intro _ h; cases h) ⟨hreader, rfl⟩ fun r => ?_
            split
            · exact ⟨hreader, rfl⟩
            · exact ⟨hreader, rfl⟩
        · exact ⟨hreader, rfl⟩
      exact hget.bind fun _ _ h => h
  · have hforward : Obeys (commandProtocol reader forwards) (fun _ _ => True)
        (c.forwardApdu data) () := by
      rw [VpcdClient.forwardApdu_eq]
      split
      · rename_i sid readerName _ hname
        obtain rfl : readerName = reader := Option.some.inj (hname.symm.trans hreader)
        exact obeys_ask (fun _ _ => hforwards data rfl) trivial fun _ => trivial
      · trivial
    exact hforward.bind fun _ _ _ => ⟨hreader, rfl⟩

/-! ## The invariant -/

theorem PoweredApdu.append {timeline : List LinkEvent} {position : ℕ}
    (h : PoweredApdu timeline position) (es : List LinkEvent) :
    PoweredApdu (timeline ++ es) position := by
  obtain ⟨data, hdata, hpowered⟩ := h
  have hlt : position < timeline.length := (List.getElem?_eq_some_iff.mp hdata).1
  refine ⟨data, ?_, ?_⟩
  · rw [List.getElem?_append_left hlt]
    exact hdata
  · rw [List.take_append_of_le_length hlt.le]
    exact hpowered

/-- One more event keeps power commands honoured. -/
theorem PowerHonoured.snoc {timeline : List LinkEvent} {e : LinkEvent}
    (h : PowerHonoured timeline)
    (hcycled : e.isExecution = true → (watch timeline).cycled = true →
      (watch timeline).lastUse.isSome → (watch timeline).renewed = true)
    (hgated : ∀ o x, e = .exchange (some o) x → PoweredApdu timeline o) :
    PowerHonoured (timeline ++ [e]) where
  cycled := cycled_snoc h hcycled
  gated := by
    intro o x hmem
    rcases List.mem_append.mp hmem with hmem | hmem
    · exact (h.gated o x hmem).append [e]
    · exact (hgated o x (List.mem_singleton.mp hmem).symm).append [e]

theorem poweredAfter_snoc (timeline : List LinkEvent) (e : LinkEvent) :
    poweredAfter (timeline ++ [e]) = match e with
      | .message msg => powerAfter (poweredAfter timeline) msg
      | _ => poweredAfter timeline := by
  unfold poweredAfter
  rw [List.foldl_append]
  cases e with
  | message msg => rfl
  | exchange o x => rfl
  | renewed => rfl

namespace Relay

/-- The vpcd client: ready, with the power state vpcd asked for; or at work on a
message, and about to forward an APDU only if that is one received with the
power on. -/
def Serving (reader : String) (timeline : List LinkEvent) (client : VpcdClient) :
    Option (ℕ × VpcdProgram (Option Bytes × VpcdClient)) → Prop
  | none => client.readerName = some reader ∧ client.powered = poweredAfter timeline
  | some (origin, p) =>
    ∃ forwards, (forwards = true → PoweredApdu timeline origin) ∧
      Obeys (commandProtocol reader forwards)
        (fun result _ => result.2.readerName = some reader ∧
          result.2.powered = poweredAfter timeline) p ()

/-- The remote client: its card connection is `h`, and it puts an APDU to the card
only for one received with the power on. -/
def Working (reader : String) (timeline : List LinkEvent) (cards : CardConnections)
    (h : Holding) : Option (Option ℕ × PcscProgram CardConnections) → Prop
  | none => h = cards.holding reader
  | some (origin, p) =>
    Obeys connectionProtocol (fun g h' => h' = CardConnections.holding g reader) p h ∧
      ∀ o, origin = some o → PoweredApdu timeline o ∨ Uses PcscOp.Silent p

/-- The commands on their way: for the reader, and an APDU only if it is one
received with the power on. -/
def Underway (reader : String) (timeline : List LinkEvent)
    (commands : List (ℕ × CommandRequest)) : Prop :=
  ∀ o request, (o, request) ∈ commands → request.readerName = reader ∧
    ∀ cmd, request.command = some (.apdu cmd) → PoweredApdu timeline o

/-- Unless the connection was renewed, the connection held is still the one over
which the last APDU was executed. -/
def StillHeld (timeline : List LinkEvent) (h : Holding) : Prop :=
  (watch timeline).renewed = false →
    ∀ card, (watch timeline).lastUse = some card → h.card = some card

/-- **The invariant**: both ends keep to their protocols, and the timeline to
what `PowerOff` and `Reset` ask for. -/
structure Linked (reader : String) (w : Relay) : Prop where
  honoured : PowerHonoured w.timeline
  serving : Serving reader w.timeline w.client w.handling
  commands : Underway reader w.timeline w.commands
  held : ∃ h, Working reader w.timeline w.cards h w.processing ∧ StillHeld w.timeline h

/-- The vpcd client goes on. -/
theorem linked_resume {reader : String} (w : Relay) {origin : ℕ} (forwards : Bool)
    {p : VpcdProgram (Option Bytes × VpcdClient)} (honoured : PowerHonoured w.timeline)
    (commands : Underway reader w.timeline w.commands)
    (held : ∃ h, Working reader w.timeline w.cards h w.processing ∧ StillHeld w.timeline h)
    (hforwards : forwards = true → PoweredApdu w.timeline origin)
    (hp : Obeys (commandProtocol reader forwards)
      (fun result _ => result.2.readerName = some reader ∧
        result.2.powered = poweredAfter w.timeline) p ()) :
    Linked reader (w.resume origin p) := by
  cases p with
  | pure result => exact ⟨honoured, hp, commands, held⟩
  | op o k => exact ⟨honoured, ⟨forwards, hforwards, hp⟩, commands, held⟩

/-- The remote client goes on. -/
theorem linked_proceed {reader : String} (w : Relay) {origin : Option ℕ}
    {p : PcscProgram CardConnections} {h : Holding} (honoured : PowerHonoured w.timeline)
    (serving : Serving reader w.timeline w.client w.handling)
    (commands : Underway reader w.timeline w.commands)
    (hp : Obeys connectionProtocol (fun g h' => h' = CardConnections.holding g reader) p h)
    (horigin : ∀ o, origin = some o → PoweredApdu w.timeline o ∨ Uses PcscOp.Silent p)
    (hheld : StillHeld w.timeline h) :
    Linked reader (w.proceed origin p) := by
  cases p with
  | pure g => exact ⟨honoured, serving, commands, h, hp, hheld⟩
  | op o k => exact ⟨honoured, serving, commands, h, ⟨hp, horigin⟩, hheld⟩

theorem linked_start (sessionId reader : String) : Linked reader (start sessionId reader) where
  honoured := by
    constructor
    · intro before between after o o' x y heq
      simp [start] at heq
    · intro o x hmem
      simp [start] at hmem
  serving := ⟨rfl, rfl⟩
  commands := by
    intro o request hmem
    simp [start] at hmem
  held := ⟨CardConnections.holding none reader, rfl, fun _ card hcard => by cases hcard⟩

/-! ## The steps -/

/-- The answer to an operation of the remote client, where it puts an APDU to the
card over the connection of the last execution, and a `PowerOff` or `Reset` came
since: the card does not execute it (it has been reset or is gone, so that the
transmission fails and the client reconnects). -/
def BenignAnswer (v : Watch) (answer : (o : PcscOp) → PcscRet o) :
    Option (Option ℕ × PcscProgram CardConnections) → Prop
  | some (_, .op (.transmit card apdu buffer) _) =>
    v.cycled = true → v.lastUse = some card →
      (exchangeWith card apdu (answer (.transmit card apdu buffer))).executed = false
  | _ => True

instance (v : Watch) (answer : (o : PcscOp) → PcscRet o) :
    ∀ processing, Decidable (BenignAnswer v answer processing)
  | none => isTrue trivial
  | some (_, .pure _) => isTrue trivial
  | some (_, .op (.transmit card apdu buffer) _) =>
    inferInstanceAs (Decidable (v.cycled = true → v.lastUse = some card →
      (exchangeWith card apdu (answer (.transmit card apdu buffer))).executed = false))
  | some (_, .op .establish _) => isTrue trivial
  | some (_, .op (.connect _) _) => isTrue trivial
  | some (_, .op (.status2 _) _) => isTrue trivial
  | some (_, .op (.drop _) _) => isTrue trivial
  | some (_, .op (.sleep _) _) => isTrue trivial

/-- **The condition** under which a step keeps power commands honoured: an APDU
comes with the power on, and an answer is benign. -/
def Benign (w : Relay) : RelayAction → Prop
  | .message (.apdu _) => w.client.powered = true
  | .pcsc answer => BenignAnswer (watch w.timeline) answer w.processing
  | _ => True

instance (w : Relay) : ∀ a, Decidable (Benign w a)
  | .message (.apdu _) => inferInstanceAs (Decidable (w.client.powered = true))
  | .message (.control _) => isTrue trivial
  | .pcsc answer =>
    inferInstanceAs (Decidable (BenignAnswer (watch w.timeline) answer w.processing))
  | .vpcd _ => isTrue trivial
  | .process _ => isTrue trivial
  | .lose _ => isTrue trivial
  | .readAtr => isTrue trivial

theorem watch_message (timeline : List LinkEvent) (msg : VpcdMessage) :
    (watch (timeline ++ [.message msg])).renewed = (watch timeline).renewed ∧
      (watch (timeline ++ [.message msg])).lastUse = (watch timeline).lastUse := by
  rw [watch_snoc]
  exact ⟨rfl, rfl⟩

theorem Underway.append {reader : String} {timeline : List LinkEvent}
    {commands : List (ℕ × CommandRequest)} (h : Underway reader timeline commands)
    (es : List LinkEvent) : Underway reader (timeline ++ es) commands :=
  fun o request hmem => ⟨(h o request hmem).1, fun cmd hcmd =>
    ((h o request hmem).2 cmd hcmd).append es⟩

theorem Underway.erase {reader : String} {timeline : List LinkEvent}
    {commands : List (ℕ × CommandRequest)} (h : Underway reader timeline commands) (k : ℕ) :
    Underway reader timeline (commands.eraseIdx k) :=
  fun o request hmem => h o request (List.mem_of_mem_eraseIdx hmem)

/-- Events other than messages leave the vpcd client alone. -/
theorem Serving.append {reader : String} {timeline : List LinkEvent} {client : VpcdClient}
    {handling : Option (ℕ × VpcdProgram (Option Bytes × VpcdClient))} {es : List LinkEvent}
    (h : Serving reader timeline client handling)
    (hes : poweredAfter (timeline ++ es) = poweredAfter timeline) :
    Serving reader (timeline ++ es) client handling := by
  rcases handling with _ | ⟨origin, p⟩
  · exact ⟨h.1, h.2.trans hes.symm⟩
  · obtain ⟨forwards, hforwards, hp⟩ := h
    refine ⟨forwards, fun hf => (hforwards hf).append es, ?_⟩
    rw [hes]
    exact hp

theorem Working.append {reader : String} {timeline : List LinkEvent} {cards : CardConnections}
    {h : Holding} {processing : Option (Option ℕ × PcscProgram CardConnections)}
    (hworking : Working reader timeline cards h processing) (es : List LinkEvent) :
    Working reader (timeline ++ es) cards h processing := by
  rcases processing with _ | ⟨origin, p⟩
  · exact hworking
  · exact ⟨hworking.1, fun o ho => (hworking.2 o ho).imp_left fun hpowered => hpowered.append es⟩

/-- A message of vpcd comes in. -/
theorem Linked.message {reader : String} {w : Relay} {msg : VpcdMessage}
    (hw : Linked reader w) (hidle : w.handling = none)
    (hpowered : ∀ data, msg = .apdu data → w.client.powered = true) :
    Linked reader (resume { w with timeline := w.timeline ++ [.message msg] }
      w.timeline.length (w.client.handleMessage msg)) := by
  have hserving := hw.serving
  rw [hidle] at hserving
  obtain ⟨hreader, hpower⟩ := hserving
  obtain ⟨h, hworking, hheld⟩ := hw.held
  have hafter : poweredAfter (w.timeline ++ [.message msg]) = powerAfter w.client.powered msg := by
    rw [poweredAfter_snoc, hpower]
  refine linked_resume { w with timeline := w.timeline ++ [.message msg] }
    msg.isApdu ?_ (hw.commands.append _) ⟨h, hworking.append _, ?_⟩ ?_ ?_
  · exact hw.honoured.snoc (fun he => by cases he) (fun o x heq => by cases heq)
  · intro hrenewed card hcard
    rw [(watch_message w.timeline msg).1] at hrenewed
    rw [(watch_message w.timeline msg).2] at hcard
    exact hheld hrenewed card hcard
  · intro hforwards
    rcases msg with cmd | data
    · cases hforwards
    · refine ⟨data, by simp, ?_⟩
      rw [List.take_left, ← hpower]
      exact hpowered data rfl
  · simp only [hafter]
    refine obeys_handleMessage hreader fun data hdata => ?_
    rw [hdata, VpcdMessage.isApdu]

/-- The commands an operation of the vpcd client sends are those the protocol
allows. -/
theorem underway_sent {reader : String} {timeline : List LinkEvent} {origin : ℕ}
    {forwards : Bool} {o : VpcdOp} (hforwards : forwards = true → PoweredApdu timeline origin)
    (hallowed : (commandProtocol reader forwards).allowed () o) (r : VpcdRet o) :
    Underway reader timeline (sent origin o r) := by
  intro o' request hmem
  cases o with
  | sendCommand sid command readerName =>
    rcases r with _ | _ | rx
    · simp [sent] at hmem
    · simp [sent] at hmem
    · obtain ⟨rfl, rfl⟩ : o' = origin ∧
          request = ⟨UInt64.ofNat (rx + 1), some command, readerName⟩ := by
        simpa [sent] using hmem
      obtain ⟨hreader, hcommand⟩ := hallowed sid command readerName rfl
      exact ⟨hreader, fun cmd hcmd => hforwards (hcommand cmd (Option.some.inj hcmd))⟩
  | _ => simp [sent] at hmem

/-- The vpcd client performs an operation. -/
theorem Linked.vpcd {reader : String} {w : Relay} {origin : ℕ} {o : VpcdOp}
    {k : VpcdRet o → VpcdProgram (Option Bytes × VpcdClient)} (hw : Linked reader w)
    (hbusy : w.handling = some (origin, .op o k)) (r : VpcdRet o) :
    Linked reader (resume { w with commands := w.commands ++ sent origin o r } origin (k r)) := by
  have hserving := hw.serving
  rw [hbusy] at hserving
  obtain ⟨forwards, hforwards, hallowed, hk⟩ := hserving
  refine linked_resume { w with commands := w.commands ++ sent origin o r } forwards hw.honoured
    ?_ hw.held hforwards (hk r)
  intro o' request hmem
  rcases List.mem_append.mp hmem with hmem | hmem
  · exact hw.commands o' request hmem
  · exact underway_sent hforwards hallowed r o' request hmem

/-- The remote client takes up a command. -/
theorem Linked.process {reader : String} {w : Relay} {k origin : ℕ} {request : CommandRequest}
    (hw : Linked reader w) (hidle : w.processing = none)
    (hk : w.commands[k]? = some (origin, request)) (sessionId : String) :
    Linked reader (proceed { w with commands := w.commands.eraseIdx k } (some origin)
      ((GrpcClient.processCommand w.cards sessionId request).bind
        fun result => Program.pure result.2)) := by
  obtain ⟨h, hworking, hheld⟩ := hw.held
  rw [hidle] at hworking
  obtain rfl : h = w.cards.holding reader := hworking
  obtain ⟨rfl, hapdu⟩ := hw.commands origin request (List.mem_of_getElem? hk)
  refine linked_proceed { w with commands := w.commands.eraseIdx k } hw.honoured hw.serving
    (hw.commands.erase k) ?_ ?_ hheld
  · exact (GrpcClient.obeys_processCommand w.cards sessionId request).bind fun _ _ hend => hend
  · intro o ho
    obtain rfl : origin = o := Option.some.inj ho
    by_cases hcommand : ∃ cmd, request.command = some (.apdu cmd)
    · obtain ⟨cmd, hcmd⟩ := hcommand
      exact Or.inl (hapdu cmd hcmd)
    · refine Or.inr (Uses.bind ?_ fun _ => trivial)
      exact GrpcClient.silent_processCommand w.cards sessionId
        fun cmd hcmd => hcommand ⟨cmd, hcmd⟩

/-- The remote client reads the ATR. -/
theorem Linked.readAtr {reader : String} {w : Relay} (hw : Linked reader w)
    (hidle : w.processing = none) :
    Linked reader (proceed w none ((w.cards.getAtr reader).bind
      fun result => Program.pure result.2)) := by
  obtain ⟨h, hworking, hheld⟩ := hw.held
  rw [hidle] at hworking
  obtain rfl : h = w.cards.holding reader := hworking
  refine linked_proceed w hw.honoured hw.serving hw.commands ?_ (fun o ho => by cases ho) hheld
  exact (CardConnections.obeys_withManager
    (CardConnectionManager.obeys_getAtr w.cards.manager reader)).bind fun _ _ hend => hend

section Answer

variable {reader : String} {w : Relay} {origin : Option ℕ} {o : PcscOp}
  {k : PcscRet o → PcscProgram CardConnections} {h : Holding}

/-- The remote client performs an operation. -/
theorem linked_answer (hw : Linked reader w)
    (hworking : Working reader w.timeline w.cards h (some (origin, .op o k))) (r : PcscRet o)
    (hpower : poweredAfter (w.timeline ++ seen origin o r) = poweredAfter w.timeline)
    (honoured : PowerHonoured (w.timeline ++ seen origin o r))
    (hheld : StillHeld (w.timeline ++ seen origin o r) (h.after o r)) :
    Linked reader (proceed { w with timeline := w.timeline ++ seen origin o r } origin (k r)) := by
  refine linked_proceed { w with timeline := w.timeline ++ seen origin o r } honoured
    (hw.serving.append hpower) (hw.commands.append _) (hworking.1.2 r) (fun o' ho' => ?_) hheld
  rcases hworking.2 o' ho' with hpowered | hsilent
  · exact Or.inl (hpowered.append _)
  · exact Or.inr (hsilent.2 r)

/-- An operation that neither puts an APDU to the card nor renews the connection. -/
theorem linked_quiet (hw : Linked reader w)
    (hworking : Working reader w.timeline w.cards h (some (origin, .op o k)))
    (hheld : StillHeld w.timeline h) (r : PcscRet o) (hseen : seen origin o r = [])
    (hafter : h.after o r = h) :
    Linked reader (proceed { w with timeline := w.timeline ++ seen origin o r } origin (k r)) := by
  apply linked_answer hw hworking r
  · rw [hseen, List.append_nil]
  · rw [hseen, List.append_nil]
    exact hw.honoured
  · rw [hseen, List.append_nil, hafter]
    exact hheld

/-- An operation that renews the connection. -/
theorem linked_renewed (hw : Linked reader w)
    (hworking : Working reader w.timeline w.cards h (some (origin, .op o k))) (r : PcscRet o)
    (hseen : seen origin o r = [.renewed]) :
    Linked reader (proceed { w with timeline := w.timeline ++ seen origin o r } origin (k r)) := by
  apply linked_answer hw hworking r
  · rw [hseen, poweredAfter_snoc]
  · rw [hseen]
    exact hw.honoured.snoc (fun he => by cases he) (fun o' x heq => by cases heq)
  · intro hrenewed
    rw [hseen, watch_snoc] at hrenewed
    cases hrenewed

end Answer

/-- An APDU is put to the card. -/
theorem Linked.transmit {reader : String} {w : Relay} {origin : Option ℕ} {card : ℕ}
    {apdu : Bytes} {buffer : ℕ} {k : TransmitReply buffer → PcscProgram CardConnections}
    {h : Holding} (hw : Linked reader w)
    (hworking : Working reader w.timeline w.cards h
      (some (origin, .op (.transmit card apdu buffer) k)))
    (hheld : StillHeld w.timeline h) (reply : TransmitReply buffer)
    (hbenign : (watch w.timeline).cycled = true → (watch w.timeline).lastUse = some card →
      (exchangeWith card apdu reply).executed = false) :
    Linked reader (proceed
      { w with timeline := w.timeline ++ seen origin (.transmit card apdu buffer) reply }
      origin (k reply)) := by
  have hcard : h.card = some card := hworking.1.1
  apply linked_answer hw hworking reply (poweredAfter_snoc ..)
  · -- by the protocol the APDU goes over the connection held
    refine hw.honoured.snoc (fun hexecuted hcycled hlast => ?_) fun o x heq => ?_
    · -- were the connection not renewed, the APDU would go over the last one
      by_contra hrenewed
      obtain ⟨last, hlast⟩ := Option.isSome_iff_exists.mp hlast
      have hsame : h.card = some last := hheld (by simpa using hrenewed) last hlast
      obtain rfl : last = card := Option.some.inj (hsame.symm.trans hcard)
      have hnot := hbenign hcycled hlast
      exact absurd (hnot.symm.trans hexecuted) (by decide)
    · injection heq with horigin _
      exact (hworking.2 o horigin).resolve_right fun hsilent => hsilent.1
  · show StillHeld (w.timeline ++ [_]) h
    intro hrenewed last hlast
    rw [watch_snoc, Watch.see] at hrenewed hlast
    split at hlast
    · obtain rfl : card = last := Option.some.inj hlast
      exact hcard
    · rename_i hexecuted
      rw [if_neg hexecuted] at hrenewed
      exact hheld hrenewed last hlast

/-- The remote client performs an operation. -/
theorem Linked.pcsc {reader : String} {w : Relay} {origin : Option ℕ} {o : PcscOp}
    {k : PcscRet o → PcscProgram CardConnections} {answer : (o : PcscOp) → PcscRet o}
    (hw : Linked reader w) (hbusy : w.processing = some (origin, .op o k))
    (hbenign : Benign w (.pcsc answer)) :
    Linked reader (proceed { w with timeline := w.timeline ++ seen origin o (answer o) } origin
      (k (answer o))) := by
  obtain ⟨h, hworking, hheld⟩ := hw.held
  rw [hbusy] at hworking
  cases o with
  | transmit card apdu buffer =>
    rw [Benign, hbusy] at hbenign
    exact hw.transmit hworking hheld _ hbenign
  | connect name =>
    match hanswer : answer (.connect name) with
    | .ok () => exact linked_renewed hw hworking _ rfl
    | .error e => exact linked_quiet hw hworking hheld _ rfl rfl
  | drop card => exact linked_renewed hw hworking _ rfl
  | establish => exact linked_quiet hw hworking hheld _ rfl rfl
  | status2 card => exact linked_quiet hw hworking hheld _ rfl rfl
  | sleep millis => exact linked_quiet hw hworking hheld _ rfl rfl

/-- **The step lemma.** -/
theorem Linked.step {reader : String} {w w' : Relay} {a : RelayAction} (hw : Linked reader w)
    (hbenign : Benign w a) (h : step reader w a = some w') : Linked reader w' := by
  cases a with
  | message msg =>
    match hidle : w.handling with
    | some _ => simp [Relay.step, hidle] at h
    | none =>
      simp only [Relay.step, hidle, Option.some.injEq] at h
      subst h
      refine hw.message hidle fun data hdata => ?_
      subst hdata
      exact hbenign
  | vpcd answer =>
    match hbusy : w.handling with
    | none => simp [Relay.step, hbusy] at h
    | some (origin, .pure result) => simp [Relay.step, hbusy] at h
    | some (origin, .op o k) =>
      simp only [Relay.step, hbusy, Option.some.injEq] at h
      subst h
      exact hw.vpcd hbusy (answer o)
  | process k =>
    match hidle : w.processing, hk : w.commands[k]? with
    | some _, _ => simp [Relay.step, hidle] at h
    | none, none => simp [Relay.step, hidle, hk] at h
    | none, some (origin, request) =>
      simp only [Relay.step, hidle, hk, Option.some.injEq] at h
      subst h
      exact hw.process hidle hk _
  | lose k =>
    obtain rfl : { w with commands := w.commands.eraseIdx k } = w' := Option.some.inj h
    exact ⟨hw.honoured, hw.serving, hw.commands.erase k, hw.held⟩
  | readAtr =>
    match hidle : w.processing with
    | some _ => simp [Relay.step, hidle] at h
    | none =>
      simp only [Relay.step, hidle, Option.some.injEq] at h
      subst h
      exact hw.readAtr hidle
  | pcsc answer =>
    match hbusy : w.processing with
    | none => simp [Relay.step, hbusy] at h
    | some (origin, .pure g) => simp [Relay.step, hbusy] at h
    | some (origin, .op o k) =>
      simp only [Relay.step, hbusy, Option.some.injEq] at h
      subst h
      exact hw.pcsc hbusy hbenign

/-- **Power commands and the card.**  In every run of a relay whose steps are all
benign, power commands are honoured in every state reached. -/
theorem honoured_of_run {sessionId reader : String} {as : List RelayAction} {w : Relay}
    (hbenign : StepRun.StepsMeet (step reader) Benign (start sessionId reader) as)
    (hrun : StepRun.run (step reader) (start sessionId reader) as = some w) :
    PowerHonoured w.timeline :=
  have hlinked : Linked reader w :=
    StepRun.invariant_run_of_guard (fun _ _ _ hw hguard hstep => hw.step hguard hstep)
      (linked_start sessionId reader) hbenign hrun
  hlinked.honoured

/-- The server, when the command channel of the session is connected and every
command is answered in time. -/
def promptServer : (o : VpcdOp) → VpcdRet o
  | .readExact _ => .error .unexpectedEof
  | .writeAll _ => .ok ()
  | .flush => .ok ()
  | .received _ => ()
  | .sending _ => ()
  | .getSession sid => some { Session.new sid 0 "client" with commandChannel := some ⟨0, ∅⟩ }
  | .sleep _ => ()
  | .sendCommand _ _ _ => some (.ok 0)
  | .recvResponse _ => .ok ⟨1, "session", true, "", some (.apdu ⟨[], 0x90, 0x00⟩)⟩

/-- PC/SC and the card; `reset` makes a transmission fail. -/
def cardAnswer (reset : Bool) (o : PcscOp) : PcscRet o :=
  (flakyCard 0 false o (if reset then 0 else 1)).1

/-- An APDU from vpcd to the card and back, with `n` operations at the client of
which the first, if `reset`, is a transmission that fails. -/
def apduActions (apdu : Bytes) (n : ℕ) (reset : Bool) : List RelayAction :=
  [.message (.apdu apdu), .vpcd promptServer, .vpcd promptServer, .process 0,
    .pcsc (cardAnswer reset)] ++ List.replicate n (.pcsc (cardAnswer false)) ++
    [.vpcd promptServer]

/-- A VERIFY command, a power cycle, and a command that needs the PIN. -/
def verifiedActions (n : ℕ) (reset : Bool) : List RelayAction :=
  apduActions [0x00, 0x20, 0x00, 0x80] 2 false ++
    [.message (.control .powerOff), .message (.control .powerOn)] ++
    apduActions [0x00, 0x2A, 0x9E, 0x9A] n reset

/-- The PIN is still verified after the power cycle: both commands are executed
over one connection, and it was not renewed. -/
theorem not_honoured_verifiedRun :
    ¬ ∀ (sessionId reader : String) (as : List RelayAction) (w : Relay),
      StepRun.run (step reader) (start sessionId reader) as = some w →
        PowerHonoured w.timeline := by
  intro h
  have honoured := h "session" "Reader" (verifiedActions 0 false)
    ((StepRun.run (step "Reader") (start "session" "Reader") (verifiedActions 0 false)).get
      (by decide)) (Option.some_get _).symm
  have hrenewed := honoured.cycled [.message (.apdu [0x00, 0x20, 0x00, 0x80]), .renewed]
    [.message (.control .powerOff), .message (.control .powerOn),
      .message (.apdu [0x00, 0x2A, 0x9E, 0x9A])] []
    (some 0) (some 5) ⟨0, [0x00, 0x20, 0x00, 0x80], .ok [0x90, 0x00]⟩
    ⟨0, [0x00, 0x2A, 0x9E, 0x9A], .ok [0x90, 0x00]⟩
  revert hrenewed
  decide

/-- The card was reset in the meantime: the client notices, and reconnects. -/
theorem honoured_of_run_verifiedRun :
    PowerHonoured ((StepRun.run (step "Reader") (start "session" "Reader")
      (verifiedActions 3 true)).get (by decide)).timeline :=
  honoured_of_run (by decide) (Option.some_get _).symm

end Relay

end RemoteSmartcard
