/-
# The ATR that the server has stored

`get_atr_from_client` answers with the ATR stored for the reader, if there is one and it
is not empty; only otherwise does it ask the client, through the queue of the session's
stream (`slowAtr`).  What is stored is what was reported last (`lastReport`): cards that
come and go at the client and command channels that are opened and closed do not touch
it.  So the two paths agree exactly as long as a command of the session gets to the client
(`ReachesClient`) and the client still finds the card it reported.
-/
import RemoteSmartcard.ClosedSession
import RemoteSmartcard.CommandDelivery

namespace RemoteSmartcard

open Program hiding pure

/-! ## The entries of `get_reader_info` -/

section Entries

variable {Sigma : Type} {h : (o : PcscOp) → Sigma → PcscRet o × Sigma}

/-- The entry is what `get_reader_info` notes for some outcome of `get_atr`. -/
def NotedEntry (entry : String × Bytes × Bool) : Prop :=
  ∃ atr, entry = readerEntry entry.1 atr

/-- A reader is noted with its ATR, or as one without a card. -/
theorem notedEntry_readerEntry (reader : String) (atr : Except ClientError Bytes) :
    NotedEntry (readerEntry reader atr) := by
  refine ⟨atr, ?_⟩
  cases atr <;> rfl

/-- `get_reader_info` notes each reader so. -/
theorem notedEntry_getReaderInfo (g : CardConnections) (readers : List String) (sigma : Sigma) :
    ∀ entry ∈ (exec h (getReaderInfo g readers) sigma).1.1, NotedEntry entry := by
  induction readers generalizing g sigma with
  | nil =>
    intro entry hentry
    cases hentry
  | cons reader readers ih =>
    intro entry hentry
    have hfirst := exec_bind h (g.getAtr reader)
      (fun first => (getReaderInfo first.2 readers).bind fun rest =>
        Program.pure (readerEntry reader first.1 :: rest.1, rest.2)) sigma
    have hentry' : entry ∈ (exec h ((g.getAtr reader).bind fun first =>
        (getReaderInfo first.2 readers).bind fun rest =>
          Program.pure (readerEntry reader first.1 :: rest.1, rest.2)) sigma).1.1 := hentry
    rw [hfirst] at hentry'
    dsimp only at hentry'
    rw [exec_bind] at hentry'
    rcases List.mem_cons.mp hentry' with rfl | hrest
    · exact notedEntry_readerEntry reader _
    · exact ih _ _ entry hrest

/-- The entries that a connection has still to register. -/
def ConnectionPhase.entries : ConnectionPhase → List (String × Bytes × Bool)
  | .connecting readerInfo => readerInfo
  | .establishing readerInfo => readerInfo
  | .registering _ readerInfo => readerInfo
  | _ => []

namespace ClientProcess

/-- The client registers what it has noted. -/
def Noted (s : ClientProcess Sigma) : Prop := ∀ entry ∈ s.phase.entries, NotedEntry entry

/-- **Each step** keeps the client with such entries. -/
theorem Transition.noted {s s' : ClientProcess Sigma} {a : ClientAction Sigma}
    (ht : Transition h s a s') (hn : s.Noted) : s'.Noted := by
  unfold Noted at hn ⊢
  cases ht with
  | @getReaderInfo readers hp => exact notedEntry_getReaderInfo s.cards readers s.surroundings
  | connected hp | established hp =>
    rw [hp] at hn
    exact hn
  | registered hp =>
    rw [hp] at hn
    intro entry hentry
    exact hn entry (List.mem_cons_of_mem _ hentry)
  | unreachable hp | refused hp | started hp =>
    intro entry hentry
    cases hentry
  | @event sessionId k events e hp he =>
    unfold serve
    dsimp only
    split <;> exact fun entry hentry => by cases hentry
  | @endRound attempt wait shutdown loop hp hround =>
    intro entry hentry
    dsimp only at hentry
    split_ifs at hentry
    · exact hn entry hentry
    · cases hentry
  | _ => exact hn

end ClientProcess

end Entries

/-! ## The last report -/

/-- The reader that an entry of `get_reader_info` describes. -/
def readerInfoOf (entry : String × Bytes × Bool) : ReaderInfo := ⟨entry.1, entry.2.1, entry.2.2⟩

/-- The last report on a reader of a session, after one more report. -/
def afterReport (sid readerName id : String) (entry : String × Bytes × Bool)
    (x : Option (Option ReaderInfo)) : Option (Option ReaderInfo) :=
  if sid = id ∧ readerName = entry.1 then x.map fun _ => some (readerInfoOf entry) else x

namespace Server

/-- What the table has for a reader of a session: `none` without the session. -/
def entryOf (s : Server) (sid readerName : String) : Option (Option ReaderInfo) :=
  (s.shared.readersOf sid).map (·.lookup readerName)

/-- What the table has for the reader after an action, if it had `x`. -/
def entryAfter (sid readerName : String) (x : Option (Option ReaderInfo)) :
    Action → Option (Option ReaderInfo)
  | .establishSession id _ => if sid = id then some none else x
  | .updateReaderInfo req =>
    afterReport sid readerName req.sessionId (req.readerName, req.atr, req.cardPresent) x
  | .removeSession id => if sid = id then none else x
  | _ => x

/-- The stored entry changes with a report on the reader, and when its session begins or
ends. -/
theorem Transition.entryOf {svc : SmartcardService} {s s' : Server} {a : Action}
    (h : Transition svc s a s') (sid readerName : String) :
    s'.entryOf sid readerName = entryAfter sid readerName (s.entryOf sid readerName) a := by
  unfold Server.entryOf
  rw [h.readersOf]
  cases a with
  | establishSession id req =>
    dsimp only [readersAfter, entryAfter]
    split_ifs <;> rfl
  | updateReaderInfo req =>
    dsimp only [readersAfter, entryAfter, afterReport]
    cases s.shared.readersOf sid with
    | none => split_ifs <;> rfl
    | some readers =>
      split_ifs with hsid hboth hboth
      · show some ((readers.insert _ _).lookup _) = some (some _)
        rw [hboth.2, Finmap.lookup_insert]
        rfl
      · show some ((readers.insert _ _).lookup _) = some _
        rw [Finmap.lookup_insert_of_ne]
        exact fun hreader => hboth ⟨hsid, hreader⟩
      · exact absurd hboth.1 hsid
      · rfl
  | removeSession id =>
    dsimp only [readersAfter, entryAfter]
    split_ifs <;> rfl
  | _ => rfl

end Server

/-- The stored entry is for this reader, and is what the client has noted for it. -/
def Reported (readerName : String) (x : Option (Option ReaderInfo)) : Prop :=
  ∀ info, x = some (some info) → ∃ atr,
    (info.name, info.atr, info.cardPresent) = readerEntry readerName atr

/-- One more report is as the client has noted it. -/
theorem Reported.afterReport {sid readerName id : String} {entry : String × Bytes × Bool}
    {x : Option (Option ReaderInfo)} (hx : Reported readerName x) (hentry : NotedEntry entry) :
    Reported readerName (afterReport sid readerName id entry x) := by
  unfold RemoteSmartcard.afterReport
  split_ifs with hboth
  · intro info hinfo
    obtain ⟨old, -, hnew⟩ := Option.map_eq_some_iff.mp hinfo
    obtain rfl := Option.some.inj hnew
    obtain ⟨atr, hatr⟩ := hentry
    rw [← hboth.2] at hatr
    exact ⟨atr, hatr⟩
  · exact hx

/-! ## The two paths -/

namespace System

variable {Sigma : Type} {svc : SmartcardService} {h : (o : PcscOp) → Sigma → PcscRet o × Sigma}

/-- The last report on a reader of a session after a step: a session begins without
one, and a report or the removal of the session changes it.  Nothing else does: no card
event at the client, and no opening or closing of a stream. -/
def reportAfter (sid readerName : String) (y : System Sigma) (a : SystemAction Sigma)
    (x : Option (Option ReaderInfo)) : Option (Option ReaderInfo) :=
  match a with
  | .server a => Server.entryAfter sid readerName x a
  | .establishSession id _ => if sid = id then some none else x
  | .report id name atr => afterReport sid readerName id (readerEntry name atr) x
  | .registerReader =>
    match y.client.phase with
    | .registering id (entry :: _) => afterReport sid readerName id entry x
    | _ => x
  | _ => x

/-- The table holds the last report, which is as the client has noted it. -/
structure Stored (sid readerName : String) (y : System Sigma)
    (x : Option (Option ReaderInfo)) : Prop where
  entry : y.server.entryOf sid readerName = x
  noted : y.client.Noted
  reported : Reported readerName x

/-- **Each step** keeps the last report in the table. -/
theorem Transition.stored {y y' : System Sigma} {a : SystemAction Sigma} {sid readerName : String}
    {x : Option (Option ReaderInfo)} (hy : Transition svc h y a y')
    (hx : Stored sid readerName y x) :
    Stored sid readerName y' (reportAfter sid readerName y a x) := by
  obtain ⟨hentry, hnoted, hreported⟩ := hx
  have hserver : ∀ {b : Action} {server : Server}, Server.step svc y.server b = some server →
      server.entryOf sid readerName = Server.entryAfter sid readerName x b := by
    intro b server hs
    rw [(Server.step_transition hs).entryOf, hentry]
  have hclient : ∀ {b : ClientAction Sigma} {client : ClientProcess Sigma},
      y.client.step h b = some client → client.Noted :=
    fun hc => (ClientProcess.step_transition hc).noted hnoted
  cases hy with
  | @server b server ha hs =>
    refine ⟨hserver hs, hnoted, ?_⟩
    show Reported readerName (Server.entryAfter sid readerName x b)
    cases b with
    | updateReaderInfo req => cases ha
    | establishSession id req =>
      dsimp only [Server.entryAfter]
      split_ifs
      · intro info hinfo
        cases hinfo
      · exact hreported
    | removeSession id =>
      dsimp only [Server.entryAfter]
      split_ifs
      · intro info hinfo
        cases hinfo
      · exact hreported
    | _ => exact hreported
  | report hs =>
    exact ⟨hserver hs, hnoted, hreported.afterReport (notedEntry_readerEntry _ _)⟩
  | client ha hc => exact ⟨hentry, hclient hc, hreported⟩
  | establishSession hs hc =>
    refine ⟨hserver hs, hclient hc, ?_⟩
    dsimp only [reportAfter]
    split_ifs
    · intro info hinfo
      cases hinfo
    · exact hreported
  | @registerReader id entry readerInfo server client hp hs hc =>
    have hlast : reportAfter sid readerName y .registerReader x =
        afterReport sid readerName id entry x := by
      unfold reportAfter
      rw [hp]
    rw [hlast]
    refine ⟨hserver hs, hclient hc, hreported.afterReport (hnoted entry ?_)⟩
    rw [hp]
    exact List.mem_cons_self
  | heartbeat hs hc => exact ⟨hserver hs, hclient hc, hreported⟩
  | openStream hs hc => exact ⟨hserver hs, hclient hc, hreported⟩
  | greet hl ht hg hs => exact ⟨hserver hs, hnoted, hreported⟩
  | take hl hst hq hs => exact ⟨hserver hs, hnoted, hreported⟩
  | deliver hl hf hc => exact ⟨hentry, hclient hc, hreported⟩
  | respond hs hc => exact ⟨hserver hs, hclient hc, hreported⟩

/-- The task of the client that a stream leads to, if the stream is one of this client. -/
def taskOf (y : System Sigma) (stream : ℕ) : Option CommandTask :=
  (y.links.find? fun l => decide (l.stream = stream)).bind fun l => y.client.tasks[l.task]?

/-- The ATR in the response to a `GetAtr` command. -/
theorem atrResult_responseTo (sid : String) (request : CommandRequest)
    (result : Except ClientError Bytes) :
    (VpcdClient.atrResult (GrpcClient.responseTo sid request (GrpcClient.atrOutcome result))).getD
      [] = result.toOption.getD [] := by
  cases result with
  | ok atr => rfl
  | error e =>
    unfold GrpcClient.atrOutcome
    dsimp only
    split <;> rfl

end System

end RemoteSmartcard
