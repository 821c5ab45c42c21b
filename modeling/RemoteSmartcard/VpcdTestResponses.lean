/-
# What the vpcd test tool prints (`tools/vpcd-test/src/main.rs`)

A spawned task of the tool reads the responses of the server and prints each of them.  When it
gets to run is up to the runtime, one thread of which the input loop blocks while it waits for
a line, and on `q` the input loop aborts it.  So a run of the task (`ResponseTask.step`) is any
number of turns of its loop, and at any point an abort.

At every point of every run the task has printed the first of the frames that arrive, however
the connection is segmented, and all of them if it got to the end of its loop
(`printed_of_run`).  No two lists of responses give the same text (`selfDelimiting_shown`), so
the text tells which responses these were (`transcript_of_run`).
-/
import RemoteSmartcard.RequestGrammar
import RemoteSmartcard.StepRun
import RemoteSmartcard.Text

namespace RemoteSmartcard

namespace VpcdTest

open Text

/-! ## The task -/

/-- Two digits as `{:02X}` prints them. -/
def upperHex (b : UInt8) : List Char := hexPair upperDigit b

/-- The pretty-printing of a response: the status word and the data before it, with the
prompt after them. -/
def prettyPrinted (data : Bytes) : List Char :=
  (if h : 2 ≤ data.length then
    have hpos : 0 < data.length := Nat.lt_of_lt_of_le Nat.zero_lt_two h
    let sw1 := data.get ⟨data.length - 2, Nat.sub_lt hpos Nat.zero_lt_two⟩
    let sw2 := data.get ⟨data.length - 1, Nat.sub_lt hpos Nat.zero_lt_one⟩
    let body := data.take (data.length - 2)
    if body.isEmpty then
      "Response: SW=".toList ++ upperHex sw1 ++ upperHex sw2 ++ ['\n']
    else
      "Response: ".toList ++ Nat.toDigits 10 body.length ++ " bytes, SW=".toList ++
        upperHex sw1 ++ upperHex sw2 ++ ['\n'] ++
        "  Data: ".toList ++ hexEncode body ++ ['\n']
  else "Response: ".toList ++ hexEncode data ++ ['\n']) ++ "> ".toList

/-- What is printed for a response; the empty one is told without a prompt. -/
def shown (data : Bytes) : List Char :=
  if data.length = 0 then "Response: (empty)\n".toList else prettyPrinted data

/-- One turn of the loop of the task: what it prints, and what is left of the stream;
`none` is a `break`. -/
def responseTurn (stream : TcpStream) : Option (List Char × TcpStream) :=
  match stream.readExact 2 with
  | (.error _, _) => none
  | (.ok lenBuf, stream) =>
    let len := (u16FromBeBytes lenBuf).toNat
    if len = 0 then some ("Response: (empty)\n".toList, stream)
    else
      match stream.readExact len with
      | (.error _, _) => none
      | (.ok data, stream) => some (prettyPrinted data.1, stream)

/-- Where the task stands: in its loop, past it, or aborted. -/
inductive TaskStatus
  | running
  | ended
  | aborted
  deriving DecidableEq

/-- The task: its half of the connection, and what it has printed. -/
structure ResponseTask where
  stream : TcpStream
  printed : List Char
  status : TaskStatus

/-- What happens to the task: the runtime lets it take a turn of its loop, or
`handle_connection` aborts it. -/
inductive ResponseAction
  | turn
  | abort
  deriving DecidableEq

namespace ResponseTask

/-- The task as it is spawned. -/
def start (stream : TcpStream) : ResponseTask := ⟨stream, [], .running⟩

/-- One step of the task.  An abort takes effect where the task waits for bytes, in the middle
of a turn too; in that turn nothing was printed. -/
def step (t : ResponseTask) : ResponseAction → Option ResponseTask
  | .turn =>
    match t.status with
    | .running =>
      match responseTurn t.stream with
      | none => some { t with status := .ended }
      | some (out, stream) => some { t with stream := stream, printed := t.printed ++ out }
    | .ended => none
    | .aborted => none
  | .abort =>
    match t.status with
    | .running => some { t with status := .aborted }
    | .ended => some t
    | .aborted => some t

end ResponseTask

/-! ## The frames -/

/-- A turn of the loop takes a frame off the stream, if there is one. -/
theorem responseTurn_eq (stream : TcpStream) :
    (responseTurn stream).map (fun p => (p.1, p.2.bytes)) =
      (frameReader.next stream.bytes).map fun p => (shown p.1, p.2) := by
  by_cases h2 : stream.bytes.length < 2
  · -- the stream ends within the length field
    rw [frameReader_next_of_length_lt h2, responseTurn, TcpStream.readExact_of_lt h2]
    rfl
  · obtain ⟨buf, st, hbuf, hbytes, -⟩ := TcpStream.readExact_of_le (Nat.not_lt.mp h2)
    rw [hbytes, frameReader, FrameReader.lengthPrefixed_next_append buf.2, ← toNat_u16FromBeBytes,
      responseTurn, hbuf]
    dsimp only
    by_cases h0 : (u16FromBeBytes buf).toNat = 0
    · rw [if_pos h0, if_pos (by omega), h0]
      rfl
    · rw [if_neg h0]
      by_cases hlen : st.bytes.length < (u16FromBeBytes buf).toNat
      · -- the stream ends within the response
        rw [TcpStream.readExact_of_lt hlen, if_neg (by omega)]
        rfl
      · obtain ⟨data, st', hdata, hbytes', -⟩ := TcpStream.readExact_of_le (Nat.not_lt.mp hlen)
        have hshown : shown data.1 = prettyPrinted data.1 := by
          rw [shown, if_neg (by rw [data.2]; exact h0)]
        rw [hdata, if_pos (by omega), hbytes', List.take_left' data.2, List.drop_left' data.2,
          Option.map_some, Option.map_some, hshown]

namespace ResponseTask

/-- Of the frames `ms` the task has printed those in `done`, which are the first; the others
are what it has still to read, and there are none after its loop. -/
structure Printed (ms : List Bytes) (t : ResponseTask) (done : List Bytes) : Prop where
  text : t.printed = done.flatMap shown
  first : done <+: ms
  running : t.status = .running → ms = done ++ (frameReader.readAll t.stream.bytes).1
  ended : t.status = .ended → done = ms

/-- A task that is spawned has printed nothing. -/
theorem printed_start (stream : TcpStream) :
    Printed (frameReader.readAll stream.bytes).1 (start stream) [] where
  text := rfl
  first := List.nil_prefix
  running := fun _ => rfl
  ended := fun h => by cases h

/-- A turn prints the next frame; without one it is the last. -/
theorem Printed.turn {ms done : List Bytes} {t : ResponseTask} (ht : t.Printed ms done)
    (hrunning : t.status = .running) :
    (frameReader.readAll t.stream.bytes).1 = [] ∧
        t.step .turn = some { t with status := .ended } ∧
        Printed ms { t with status := .ended } done ∨
      ∃ data t', (frameReader.readAll t.stream.bytes).1 =
          data :: (frameReader.readAll t'.stream.bytes).1 ∧
        t.step .turn = some t' ∧ t'.status = .running ∧ t'.Printed ms (done ++ [data]) := by
  have hturn := responseTurn_eq t.stream
  have hms := ht.running hrunning
  cases hnext : frameReader.next t.stream.bytes with
  | none =>
    rw [hnext, Option.map_none, Option.map_eq_none_iff] at hturn
    have hread : (frameReader.readAll t.stream.bytes).1 = [] := by
      rw [FrameReader.readAll_of_next_eq_none hnext]
    rw [hread, List.append_nil] at hms
    refine Or.inl ⟨hread, ?_, ht.text, ht.first, fun h => (by cases h), fun _ => hms.symm⟩
    simp only [step, hrunning, hturn]
  | some p =>
    obtain ⟨data, rest⟩ := p
    rw [hnext, Option.map_some, Option.map_eq_some_iff] at hturn
    obtain ⟨⟨out, stream⟩, hturn, heq⟩ := hturn
    obtain ⟨hout, hrest⟩ := Prod.mk.inj heq
    dsimp only at hout hrest
    subst hout hrest
    have hread : (frameReader.readAll t.stream.bytes).1 =
        data :: (frameReader.readAll stream.bytes).1 := by
      rw [FrameReader.readAll_of_next_eq_some hnext]
    have hsplit : ms = (done ++ [data]) ++ (frameReader.readAll stream.bytes).1 := by
      rw [hms, hread, List.append_assoc, List.singleton_append]
    refine Or.inr ⟨data, { t with stream := stream, printed := t.printed ++ shown data }, hread,
      ?_, hrunning, ?_, ⟨_, hsplit.symm⟩, fun _ => hsplit, fun h => ?_⟩
    · simp only [step, hrunning, hturn]
    · show t.printed ++ shown data = (done ++ [data]).flatMap shown
      rw [ht.text, List.flatMap_append, List.flatMap_singleton]
    · rw [show t.status = _ from h] at hrunning
      cases hrunning

/-- **Each step** prints the next frame, or nothing. -/
theorem Printed.step {ms done : List Bytes} {t t' : ResponseTask} {a : ResponseAction}
    (ht : t.Printed ms done) (hstep : t.step a = some t') : ∃ done', t'.Printed ms done' := by
  cases a with
  | turn =>
    cases hstatus : t.status with
    | running =>
      rcases ht.turn hstatus with ⟨-, hend, hprinted⟩ | ⟨data, t'', -, hgoes, -, hprinted⟩
      · rw [hend] at hstep
        exact ⟨done, Option.some.inj hstep ▸ hprinted⟩
      · rw [hgoes] at hstep
        exact ⟨_, Option.some.inj hstep ▸ hprinted⟩
    | ended =>
      simp only [ResponseTask.step, hstatus] at hstep
      cases hstep
    | aborted =>
      simp only [ResponseTask.step, hstatus] at hstep
      cases hstep
  | abort =>
    refine ⟨done, ?_⟩
    cases hstatus : t.status with
    | running =>
      simp only [ResponseTask.step, hstatus] at hstep
      obtain rfl := Option.some.inj hstep
      exact ⟨ht.text, ht.first, fun h => (by cases h), fun h => (by cases h)⟩
    | ended =>
      simp only [ResponseTask.step, hstatus] at hstep
      exact Option.some.inj hstep ▸ ht
    | aborted =>
      simp only [ResponseTask.step, hstatus] at hstep
      exact Option.some.inj hstep ▸ ht

/-- **The task prints the frames that arrive**, one after the other. -/
theorem printed_of_run {stream : TcpStream} {as : List ResponseAction} {t : ResponseTask}
    (hrun : StepRun.run step (start stream) as = some t) :
    ∃ done, t.Printed (frameReader.readAll stream.bytes).1 done :=
  StepRun.invariant_run (P := fun t : ResponseTask => ∃ done, t.Printed _ done)
    (fun _ _ _ ⟨_, ht⟩ hstep => ht.step hstep) ⟨[], printed_start stream⟩ hrun

/-- The turns that the task still needs: one for each frame, and the last one. -/
def turnsLeft (t : ResponseTask) : ℕ :=
  match t.status with
  | .running => (frameReader.readAll t.stream.bytes).1.length + 1
  | .ended => 0
  | .aborted => 0

/-- As long as there are turns left, a turn can be taken, and then there is one less. -/
theorem Printed.exists_turn {ms done : List Bytes} {t : ResponseTask} (ht : t.Printed ms done)
    (hstatus : t.status ≠ .aborted) (hleft : t.turnsLeft ≠ 0) :
    ∃ t', t.step .turn = some t' ∧ ((∃ done, t'.Printed ms done) ∧ t'.status ≠ .aborted) ∧
      t'.turnsLeft < t.turnsLeft := by
  have hrunning : t.status = .running := by
    cases hend : t.status with
    | running => rfl
    | ended => simp [turnsLeft, hend] at hleft
    | aborted => exact absurd hend hstatus
  rcases ht.turn hrunning with ⟨-, hend, hprinted⟩ | ⟨data, t', hread, hgoes, hgoing, hprinted⟩
  · refine ⟨_, hend, ⟨⟨done, hprinted⟩, by simp⟩, ?_⟩
    simp [turnsLeft, hrunning]
  · refine ⟨t', hgoes, ⟨⟨_, hprinted⟩, by simp [hgoing]⟩, ?_⟩
    simp [turnsLeft, hrunning, hgoing, hread]

/-- Left alone, a task in its loop gets to its end. -/
theorem Printed.exists_ended {ms done : List Bytes} {t : ResponseTask} (ht : t.Printed ms done)
    (hrunning : t.status = .running) :
    ∃ k t', k ≤ ms.length - done.length + 1 ∧
      StepRun.run ResponseTask.step t (List.replicate k .turn) = some t' ∧ t'.status = .ended := by
  have hdown : ∀ t : ResponseTask, ((∃ done, t.Printed ms done) ∧ t.status ≠ .aborted) →
      t.turnsLeft ≠ 0 → ∃ a t', a = ResponseAction.turn ∧ t.step a = some t' ∧
        ((∃ done, t'.Printed ms done) ∧ t'.status ≠ .aborted) ∧ t'.turnsLeft < t.turnsLeft := by
    rintro t ⟨⟨done, ht⟩, hstatus⟩ hleft
    obtain ⟨t', hturn, hprinted, hlt⟩ := ht.exists_turn hstatus hleft
    exact ⟨.turn, t', rfl, hturn, hprinted, hlt⟩
  obtain ⟨as, t', hrun, hturns, ⟨-, hstatus⟩, hzero, hlength⟩ :=
    StepRun.exists_run_of_measure hdown ⟨⟨done, ht⟩, by simp [hrunning]⟩
  refine ⟨as.length, t', ?_, List.eq_replicate_length.mpr hturns ▸ hrun, ?_⟩
  · have hms := congrArg List.length (ht.running hrunning)
    rw [List.length_append] at hms
    simp only [turnsLeft, hrunning] at hlength
    omega
  · cases hend : t'.status with
    | running =>
      simp only [turnsLeft, hend] at hzero
      omega
    | ended => rfl
    | aborted => exact absurd hend hstatus

end ResponseTask

/-! ## The text -/

/-- The forms of the text: the first line after `Response: `, and what follows it. -/
inductive Form : Bytes → List Char → List Char → Prop
  | empty : Form [] "(empty)".toList []
  | byte (b : UInt8) : Form [b] (hexPair Nat.digitChar b) "> ".toList
  | status (sw1 sw2 : UInt8) :
    Form [sw1, sw2] ("SW=".toList ++ (upperHex sw1 ++ upperHex sw2)) "> ".toList
  | data {body : Bytes} (hbody : body ≠ []) (sw1 sw2 : UInt8) :
    Form (body ++ [sw1, sw2])
      (Nat.toDigits 10 body.length ++ (" bytes, SW=".toList ++ (upperHex sw1 ++ upperHex sw2)))
      ("  Data: ".toList ++ hexEncode body ++ '\n' :: "> ".toList)

/-- The last two bytes are the status word. -/
theorem prettyPrinted_append (body : Bytes) (sw1 sw2 : UInt8) :
    prettyPrinted (body ++ [sw1, sw2]) =
      (if body.isEmpty then
        "Response: SW=".toList ++ upperHex sw1 ++ upperHex sw2 ++ ['\n']
      else
        "Response: ".toList ++ Nat.toDigits 10 body.length ++ " bytes, SW=".toList ++
          upperHex sw1 ++ upperHex sw2 ++ ['\n'] ++
          "  Data: ".toList ++ hexEncode body ++ ['\n']) ++ "> ".toList := by
  have hlen : (body ++ [sw1, sw2]).length = body.length + 2 := List.length_append
  have hbody : (body ++ [sw1, sw2]).take ((body ++ [sw1, sw2]).length - 2) = body := by
    rw [hlen, Nat.add_sub_cancel, List.take_left]
  have hsw1 (h) : (body ++ [sw1, sw2]).get ⟨(body ++ [sw1, sw2]).length - 2, h⟩ = sw1 := by
    simp
  have hsw2 (h) : (body ++ [sw1, sw2]).get ⟨(body ++ [sw1, sw2]).length - 1, h⟩ = sw2 := by
    simp
  rw [prettyPrinted, dif_pos (by omega)]
  dsimp only
  rw [hbody, hsw1, hsw2]

/-- What is printed for a response has its form. -/
theorem form_shown (response : Bytes) :
    ∃ line more, Form response line more ∧
      shown response = "Response: ".toList ++ (line ++ '\n' :: more) := by
  rcases response with _ | ⟨b, _ | ⟨b', rest⟩⟩
  · exact ⟨_, _, .empty, rfl⟩
  · exact ⟨_, _, .byte b, rfl⟩
  · -- the last two bytes are the status word
    obtain ⟨front, sw2, hfront⟩ := (b :: b' :: rest).eq_nil_or_concat.resolve_left (by simp)
    obtain ⟨body, sw1, rfl⟩ := front.eq_nil_or_concat.resolve_left (by
      rintro rfl
      cases hfront)
    have hresponse : b :: b' :: rest = body ++ [sw1, sw2] := by
      rw [hfront, List.concat_eq_append, List.concat_eq_append, List.append_assoc]
      rfl
    have hne : (body ++ [sw1, sw2]).length ≠ 0 := by simp
    rw [hresponse, shown, if_neg hne, prettyPrinted_append]
    cases body with
    | nil => exact ⟨_, _, .status sw1 sw2, by simp⟩
    | cons c body => exact ⟨_, _, .data (List.cons_ne_nil c body) sw1 sw2, by simp⟩

theorem newline_notMem_upperHex (sw1 sw2 : UInt8) : '\n' ∉ upperHex sw1 ++ upperHex sw2 := by
  intro hmem
  rcases List.mem_append.mp hmem with h1 | h2
  · exact hexDigits_upperDigit.newline_notMem_hexPair sw1 h1
  · exact hexDigits_upperDigit.newline_notMem_hexPair sw2 h2

/-- Two digits for each of the two bytes of a status word. -/
theorem upperHex_inj {sw1 sw2 sw1' sw2' : UInt8}
    (h : upperHex sw1 ++ upperHex sw2 = upperHex sw1' ++ upperHex sw2') :
    sw1 = sw1' ∧ sw2 = sw2' := by
  obtain ⟨h1, h2⟩ := List.append_inj h rfl
  exact ⟨hexDigits_upperDigit.hexPair_inj h1, hexDigits_upperDigit.hexPair_inj h2⟩

namespace Form

/-- A line of the text has no line break in it. -/
theorem newline_notMem {response : Bytes} {line more : List Char}
    (h : Form response line more) : '\n' ∉ line := by
  intro hmem
  cases h with
  | empty => exact absurd hmem (by decide)
  | byte b => exact hexDigits_digitChar.newline_notMem_hexPair b hmem
  | status sw1 sw2 =>
    rcases List.mem_append.mp hmem with hlabel | hsw
    · exact absurd hlabel (by decide)
    · exact newline_notMem_upperHex sw1 sw2 hsw
  | data hbody sw1 sw2 =>
    rcases List.mem_append.mp hmem with hdigits | hmem
    · exact absurd (Nat.isDigit_of_mem_toDigits (by decide) (by decide) hdigits) (by decide)
    · rcases List.mem_append.mp hmem with hlabel | hsw
      · exact absurd hlabel (by decide)
      · exact newline_notMem_upperHex sw1 sw2 hsw

/-- The first line and what follows it tell the response, and where the text for it ends. -/
theorem inj {a b : Bytes} {la lb ma mb r s : List Char} (ha : Form a la ma) (hb : Form b lb mb)
    (hline : la = lb) (hmore : ma ++ r = mb ++ s) : a = b ∧ r = s := by
  have hlength := congrArg List.length hline
  cases ha with
  | empty =>
    cases hb with
    | empty => exact ⟨rfl, hmore⟩
    | byte b => simp [hexPair] at hlength
    | status sw1 sw2 => simp at hline
    | data hbody sw1 sw2 => simp [upperHex, hexPair] at hlength
  | byte b =>
    cases hb with
    | empty => simp [hexPair] at hlength
    | byte b' =>
      rw [hexDigits_digitChar.hexPair_inj hline]
      exact ⟨rfl, List.append_cancel_left hmore⟩
    | status sw1 sw2 => simp [upperHex, hexPair] at hlength
    | data hbody sw1 sw2 => simp [upperHex, hexPair] at hlength
  | status sw1 sw2 =>
    cases hb with
    | empty => simp at hline
    | byte b => simp [upperHex, hexPair] at hlength
    | status sw1' sw2' =>
      obtain ⟨rfl, rfl⟩ := upperHex_inj (List.append_cancel_left hline)
      exact ⟨rfl, List.append_cancel_left hmore⟩
    | data hbody sw1 sw2 => simp [upperHex, hexPair] at hlength
  | @data body hbody sw1 sw2 =>
    cases hb with
    | empty => simp [upperHex, hexPair] at hlength
    | byte b => simp [upperHex, hexPair] at hlength
    | status sw1 sw2 => simp [upperHex, hexPair] at hlength
    | @data body' hbody' sw1' sw2' =>
      -- the status word ends the first line, the data fill the second
      obtain ⟨-, hsw⟩ := List.append_inj' hline rfl
      obtain ⟨rfl, rfl⟩ := upperHex_inj (List.append_cancel_left hsw)
      simp only [List.append_assoc, List.cons_append] at hmore
      obtain ⟨hhex, hrest⟩ := line_inj (newline_notMem_hexEncode body)
        (newline_notMem_hexEncode body') (List.append_cancel_left hmore)
      rw [(hexDigits_digitChar.selfDelimiting.flatMap_iff fun _ => List.cons_ne_nil _ _).mp hhex]
      exact ⟨rfl, List.append_cancel_left hrest⟩

end Form

/-- **The text is unambiguous.** -/
theorem selfDelimiting_shown : SelfDelimiting shown := by
  intro a b r s h
  obtain ⟨la, ma, ha, hshowna⟩ := form_shown a
  obtain ⟨lb, mb, hb, hshownb⟩ := form_shown b
  simp only [hshowna, hshownb, List.append_assoc, List.append_cancel_left_eq,
    List.cons_append] at h
  obtain ⟨hline, hmore⟩ := line_inj ha.newline_notMem hb.newline_notMem h
  exact ha.inj hb hline hmore

/-- Something is printed for every response. -/
theorem shown_ne_nil (response : Bytes) : shown response ≠ [] := by
  obtain ⟨line, more, -, hshown⟩ := form_shown response
  rw [hshown]
  exact List.cons_ne_nil _ _

/-- **The test tool shows what the server sent.**  The server has sent a list of responses of
at most 65535 bytes each, and they arrive in whatever segments.  Then at every point of every
run of the task its text is that of the first of these responses, and of no other list: of all
of them if the loop has come to its end, which it does when the task is left to run. -/
theorem transcript_of_run {xs : List SentResponse} (hfit : ∀ x ∈ xs, x.data.length ≤ 65535)
    {stream : TcpStream} (hbytes : stream.bytes = SentResponse.allWritten xs)
    {as : List ResponseAction} {t : ResponseTask}
    (hrun : StepRun.run ResponseTask.step (.start stream) as = some t) :
    ∃ done, done <+: xs.map (·.data) ∧
      (∀ responses : List Bytes, t.printed = responses.flatMap shown ↔ responses = done) ∧
      (t.status = .ended → done = xs.map (·.data)) ∧
      (t.status = .running → ∃ k t', k ≤ xs.length - done.length + 1 ∧
        StepRun.run ResponseTask.step t (List.replicate k .turn) = some t' ∧
        t'.status = .ended) := by
  have hconcat : frameReader.Concat (xs.flatMap fun x => frameOf x.data) (xs.map (·.data)) :=
    FrameReader.concat_flatMap fun x hx => isFrame_frameOf (by have := hfit x hx; omega)
  obtain ⟨done, ht⟩ := ResponseTask.printed_of_run hrun
  rw [hbytes, SentResponse.allWritten_eq, hconcat.readAll_eq] at ht
  refine ⟨done, ht.first, fun responses => ?_, ht.ended, fun hrunning => ?_⟩
  · rw [ht.text, selfDelimiting_shown.flatMap_iff shown_ne_nil, eq_comm]
  · have hend := ht.exists_ended hrunning
    rwa [List.length_map] at hend

/-- The status word 9000, as the server sends it. -/
def sentStatus : SentResponse where
  client := VpcdClient.new.setTarget "s" "r"
  msg := .apdu [0x00, 0xA4]
  handling := [⟨.getSession "s", some ⟨"s", "client", 0, 0, ∅, some ⟨0, ∅⟩⟩⟩,
    ⟨.sendCommand "s" (.apdu ⟨[0x00, 0xA4]⟩) "r", some (.ok 0)⟩,
    ⟨.recvResponse 0, .ok ⟨1, "s", true, "", some (.apdu ⟨[], 0x90, 0x00⟩)⟩⟩]
  client' := VpcdClient.new.setTarget "s" "r"
  data := [0x90, 0x00]
  writing := _
  handles := .head (.head (.head (.refl _)))
  sends := yields_sendResponse_iff.mpr rfl

/-- It arrives in three segments.  In two turns the task gets to its end, and has shown it; a
task that is aborted before it gets to run has shown nothing. -/
theorem transcript_of_run_status :
    (∃ t, StepRun.run ResponseTask.step
          (.start ⟨[[0x00], [0x02, 0x90], [0x00]], .unexpectedEof⟩) [.turn, .turn] = some t ∧
        ∀ responses : List Bytes,
          t.printed = responses.flatMap shown ↔ responses = [sentStatus].map (·.data)) ∧
      (∃ t, StepRun.run ResponseTask.step
          (.start ⟨[[0x00], [0x02, 0x90], [0x00]], .unexpectedEof⟩) [.abort] = some t ∧
        ∀ responses : List Bytes, t.printed = responses.flatMap shown ↔ responses = []) ∧
      [[0x90, 0x00]].flatMap shown = "Response: SW=9000\n> ".toList := by
  have hfit : ∀ x ∈ [sentStatus], x.data.length ≤ 65535 := by
    intro x hx
    rw [List.mem_singleton.mp hx]
    decide
  have hbytes : TcpStream.bytes ⟨[[0x00], [0x02, 0x90], [0x00]], .unexpectedEof⟩ =
      SentResponse.allWritten [sentStatus] := by
    rw [SentResponse.allWritten_eq]
    rfl
  refine ⟨⟨_, rfl, ?_⟩, ⟨_, rfl, ?_⟩, by decide⟩
  · obtain ⟨done, -, htext, hended, -⟩ := transcript_of_run hfit hbytes
      (show StepRun.run ResponseTask.step (.start _) [.turn, .turn] = some _ from rfl)
    rw [← hended rfl]
    exact htext
  · obtain ⟨done, -, htext, -⟩ := transcript_of_run hfit hbytes
      (show StepRun.run ResponseTask.step (.start _) [.abort] = some _ from rfl)
    rw [(htext []).mp rfl]
    exact htext

end VpcdTest

end RemoteSmartcard
