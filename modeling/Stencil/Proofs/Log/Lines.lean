import Stencil.Log.Tree
import Stencil.Proofs.Text.JsonString

namespace Stencil

namespace Text

/-- Lines are split at the first line end. -/
theorem splitOn_append {sep : CodePoint} {t : Text} (ht : sep ∉ t) (rest : Text) :
    splitOn sep (t ++ sep :: rest) = t :: splitOn sep rest := by
  induction t with
  | nil => rw [List.nil_append, splitOn, if_pos rfl]
  | cons c t ih =>
    obtain ⟨hc, ht⟩ := not_or.1 (mt List.mem_cons.2 ht)
    rw [List.cons_append, splitOn, if_neg (Ne.symm hc), ih ht]

theorem asciiLine_ofNat (n : Nat) : AsciiLine (ofNat n) := by
  intro c hc
  obtain ⟨d, hd, rfl⟩ := List.mem_map.1 hc
  have hdigit : d.isDigit = true := Nat.isDigit_of_mem_toDigits (by decide) (by decide) hd
  have hrange : 48 ≤ d.val ∧ d.val ≤ 57 := by simpa [Char.isDigit] using hdigit
  exact ⟨Nat.le_trans (by decide) (UInt32.le_iff_toNat_le.1 hrange.1),
    Nat.lt_of_le_of_lt (UInt32.le_iff_toNat_le.1 hrange.2) (by decide)⟩

theorem asciiLine_ofInt (n : Int) : AsciiLine (ofInt n) := by
  unfold ofInt
  split
  · exact asciiLine_cons_iff.2 ⟨by decide, asciiLine_ofNat _⟩
  · exact asciiLine_ofNat _

end Text

namespace Json

open JsonString (encode)

theorem dropWhile_encode (t rest : Text) :
    (encode t ++ rest).dropWhile isBlank = encode t ++ rest := by
  have hquote : isBlank Text.doubleQuote = false := by decide
  rw [encode, List.cons_append, List.cons_append, List.dropWhile_cons, hquote]
  rfl

/-- A member as it is written. -/
def member (m : Text × Text) : Text := encode m.1 ++ Text.of ": " ++ encode m.2

/-- A member as it is read. -/
def pairedMember (m : Text × Text) : Text × Text := (m.1.paired, m.2.paired)

theorem sign?_self {sign : Char} (hsign : isBlank sign = false) (rest : Text) :
    sign? sign (CodePoint.ofChar sign :: rest) = some (rest.dropWhile isBlank) := by
  simp [sign?, hsign, CodePoint.is]

/-- A member is read as it was written, its surrogate pairs joined. -/
theorem readMember_member (m : Text × Text) (rest : Text) :
    readMember (member m ++ rest) = some (pairedMember m, rest) := by
  have hmember : member m ++ rest =
      encode m.1 ++ CodePoint.ofChar ':' :: CodePoint.ofChar ' ' :: (encode m.2 ++ rest) := by
    simp [member, Text.of]
  have hblank : isBlank ' ' = true := by decide
  rw [hmember, readMember, JsonString.read_encode]
  simp only [Option.bind_eq_bind, Option.bind_some]
  rw [sign?_self (by decide), List.dropWhile_cons, if_pos hblank, dropWhile_encode, Option.bind_some,
    JsonString.read_encode]
  rfl

/-- What follows a member decides whether there are more. -/
theorem readMembers_of_member {t rest : Text} {m : Text × Text}
    (hmember : readMember t = some (m, rest)) :
    readMembers t =
      match sign? ',' rest with
      | some more => (readMembers more).map fun r => (m :: r.1, r.2)
      | none => (sign? '\x7d' rest).map fun rest => ([m], rest) := by
  rw [readMembers.eq_def]
  split
  · rename_i hnone
    rw [hmember] at hnone
    cases hnone
  · rename_i hsome
    rw [hmember] at hsome
    cases hsome
    split <;> rename_i hcomma <;> rw [hcomma]

/-- Members as they are written, up to the brace that ends them. -/
def body (ms : List (Text × Text)) : Text :=
  Text.joinWith (Text.of ", ") (ms.map member) ++ Text.of "\x7d"

theorem body_cons_cons (m m' : Text × Text) (ms : List (Text × Text)) :
    body (m :: m' :: ms) =
      member m ++ CodePoint.ofChar ',' :: CodePoint.ofChar ' ' :: body (m' :: ms) := by
  simp [body, Text.joinWith, Text.of]

theorem body_cons (m : Text × Text) (ms : List (Text × Text)) :
    ∃ rest, body (m :: ms) = encode m.1 ++ rest := by
  cases ms with
  | nil => exact ⟨_, by rw [body, List.map_singleton, Text.joinWith, member, List.append_assoc,
      List.append_assoc]⟩
  | cons m' ms => exact ⟨_, by rw [body_cons_cons, member, List.append_assoc, List.append_assoc]⟩

theorem dropWhile_body (m : Text × Text) (ms : List (Text × Text)) :
    (body (m :: ms)).dropWhile isBlank = body (m :: ms) := by
  obtain ⟨rest, hbody⟩ := body_cons m ms
  rw [hbody, dropWhile_encode]

/-- And so are all members, one after another. -/
theorem readMembers_body (m : Text × Text) (ms : List (Text × Text)) :
    readMembers (body (m :: ms)) = some ((m :: ms).map pairedMember, []) := by
  induction ms generalizing m with
  | nil =>
    have hmember : body [m] = member m ++ Text.of "\x7d" := rfl
    rw [hmember, readMembers_of_member (readMember_member m _)]
    rfl
  | cons m' ms ih =>
    have hblank : isBlank ' ' = true := by decide
    have hcomma : sign? ',' (CodePoint.ofChar ',' :: CodePoint.ofChar ' ' :: body (m' :: ms)) =
        some (body (m' :: ms)) := by
      rw [sign?_self (by decide), List.dropWhile_cons, if_pos hblank, dropWhile_body]
    rw [body_cons_cons, readMembers_of_member (readMember_member m _), hcomma]
    simp only [ih, Option.map_some, List.map_cons]

/-- An object is read as its members. -/
theorem readObject_jsonObject (ms : List (Text × Text)) :
    readObject (Log.Record.jsonObject ms) = some (ms.map pairedMember) := by
  have hobject : Log.Record.jsonObject ms = CodePoint.ofChar '\x7b' :: body ms := by
    rw [Log.Record.jsonObject, List.append_assoc]
    rfl
  rw [hobject, readObject, sign?_self (by decide)]
  cases ms with
  | nil => decide
  | cons m ms =>
    obtain ⟨rest, hbody⟩ := body_cons m ms
    have hbrace : sign? '\x7d' (body (m :: ms)) = none := by
      have hquote : Text.doubleQuote.is '\x7d' = false := by decide
      rw [hbody, sign?, dropWhile_encode, encode]
      simp only [List.cons_append, hquote]
      rfl
    rw [dropWhile_body]
    simp only [Option.bind_eq_bind, Option.bind_some, hbrace, readMembers_body, if_true]

end Json

namespace Log

/-- What an object tells of a record. -/
structure Told where
  level : Text
  logger : Text
  message : Text
deriving DecidableEq

namespace Told

/-- What a line tells, if it is an object with what there is to tell. -/
def ofLine? (line : Text) : Option Told := do
  let members ← Json.readObject line
  return {
    level := ← Json.value? members (Text.of "level")
    logger := ← Json.value? members (Text.of "logger")
    message := ← Json.value? members (Text.of "msg") }

def ofRecord (r : Record) : Told := ⟨r.level.name, r.logger, r.message⟩

end Told

/-- The record of a call with its message filled in, if the call has a date and its arguments
fit. -/
def Call.filled? (c : Call) : Option Record :=
  c.record.time.full.toOption.bind fun _ =>
    (fill c.record.message c.args).toOption.map fun message => { c.record with message }

theorem Level.asciiLine_name (l : Level) : l.name.AsciiLine := by
  unfold name
  repeat' split
  · decide
  · decide
  · decide
  · decide
  · decide
  · exact Text.asciiLine_append_iff.2 ⟨by decide, Text.asciiLine_ofInt l⟩

namespace Record

/-- A JSON object is one line of ASCII. -/
theorem asciiLine_jsonObject (ms : List (Text × Text)) : (jsonObject ms).AsciiLine := by
  have hmembers : ∀ t ∈ ms.map fun m =>
      JsonString.encode m.1 ++ Text.of ": " ++ JsonString.encode m.2, t.AsciiLine := by
    intro t ht
    obtain ⟨m, -, rfl⟩ := List.mem_map.1 ht
    rw [Text.asciiLine_append_iff, Text.asciiLine_append_iff]
    exact ⟨⟨JsonString.asciiLine_encode _, by decide⟩, JsonString.asciiLine_encode _⟩
  rw [jsonObject, Text.asciiLine_append_iff, Text.asciiLine_append_iff]
  exact ⟨⟨by decide, Text.asciiLine_joinWith (by decide) hmembers⟩, by decide⟩

/-- The object of a record tells its level, and its logger and message unless they have pairs of
surrogates. -/
theorem ofLine?_jsonObject {r : Record} (hlogger : r.logger.Unpaired) (hmessage : r.message.Unpaired)
    (time : Text) : Told.ofLine? (jsonObject (r.members time)) = some (Told.ofRecord r) := by
  have hlevel := Text.paired_of_unpaired (Level.asciiLine_name r.level).unpaired
  replace hlogger := Text.paired_of_unpaired hlogger
  replace hmessage := Text.paired_of_unpaired hmessage
  have hmembers : (r.members time).map Json.pairedMember =
      [(Text.of "level", r.level.name), (Text.of "ts", time.paired), (Text.of "logger", r.logger),
        (Text.of "msg", r.message)] ++
        (r.error.map fun e => (Text.of "exc", e.paired)).toList := by
    have hfirst : [(Text.of "level", r.level.name), (Text.of "ts", time),
        (Text.of "logger", r.logger), (Text.of "msg", r.message)].map Json.pairedMember =
        [(Text.of "level", r.level.name), (Text.of "ts", time.paired), (Text.of "logger", r.logger),
          (Text.of "msg", r.message)] := by
      simp only [List.map_cons, List.map_nil, Json.pairedMember, hlevel, hlogger, hmessage]
      rfl
    rw [members, List.map_append, hfirst]
    cases r.error <;> rfl
  rw [Told.ofLine?, Json.readObject_jsonObject, hmembers]
  cases r.error with
  | none => rfl
  | some e => rfl

end Record

/-- The output of calls is that of each, one behind the other. -/
theorem Handler.output_cons (h : Handler) (c : Call) (calls : List Call) :
    h.output (c :: calls) = (h.deliver c).output ++ h.output calls := List.flatMap_cons

/-- In JSON mode a call is written as the line of its record, or it is an error. -/
theorem Setup.deliver_json {s : Setup} (hjson : s.mode = .json) (c : Call) :
    (∃ r time, c.filled? = some r ∧
      (s.handler.deliver c).text = .ok (Record.jsonObject (r.members time) ++ lineEnd)) ∨
    (c.filled? = none ∧ ∃ e, (s.handler.deliver c).text = .error e) := by
  have hemit : (s.handler.deliver c).text =
      c.record.emit (some ⟨.json, s.stream.terminal⟩) c.args := by
    rw [← hjson]
    rfl
  rw [hemit]
  cases htime : c.record.time.full with
  | error e =>
    refine .inr ⟨by rw [Call.filled?, htime]; rfl, .moment e, ?_⟩
    simp only [Record.emit, Option.any_some, beq_self_eq_true, if_true, htime, Except.map]
  | ok time =>
    cases hmessage : fill c.record.message c.args with
    | error e =>
      refine .inr ⟨by rw [Call.filled?, htime, hmessage]; rfl, .message e, ?_⟩
      simp only [Record.emit, Option.any_some, beq_self_eq_true, if_true, htime, hmessage, Except.map]
    | ok message =>
      refine .inl ⟨{ c.record with message }, time, by rw [Call.filled?, htime, hmessage]; rfl, ?_⟩
      simp only [Record.emit, Option.any_some, beq_self_eq_true, if_true, htime, hmessage,
        Except.map, Record.line, Record.format]
      rfl

/-- Calls in JSON mode come to one line of ASCII for each record that can be written, and the object
on it tells the record. What cannot be written is an error at the handler. -/
theorem Setup.output_json {s : Setup} (hjson : s.mode = .json) {calls : List Call}
    (hunpaired : ∀ r ∈ calls.filterMap Call.filled?, r.logger.Unpaired ∧ r.message.Unpaired) :
    (∃ lines : List Text, Text.splitOn '\n' (s.handler.output calls) = lines ++ [[]] ∧
      (∀ line ∈ lines, line.AsciiLine) ∧
      lines.map Told.ofLine? =
        (calls.filterMap Call.filled?).map fun r => some (Told.ofRecord r)) ∧
    ∀ c ∈ calls, c.filled? = none ↔ ∃ e, (s.handler.deliver c).text = .error e := by
  refine ⟨?_, fun c _ => ?_⟩
  · -- Each call adds its line in front, or nothing.
    induction calls with
    | nil => exact ⟨[], rfl, by simp, rfl⟩
    | cons c calls ih =>
      rcases deliver_json hjson c with ⟨r, time, hfilled, htext⟩ | ⟨hunfilled, e, htext⟩
      · rw [List.filterMap_cons_some hfilled] at hunpaired ⊢
        obtain ⟨⟨hlogger, hmessage⟩, hrest⟩ := List.forall_mem_cons.1 hunpaired
        obtain ⟨lines, hlines, hascii, htold⟩ := ih hrest
        have hline := Record.asciiLine_jsonObject (r.members time)
        have hbreak : CodePoint.ofChar '\n' ∉ Record.jsonObject (r.members time) :=
          fun h => absurd (hline _ h) (by decide)
        refine ⟨Record.jsonObject (r.members time) :: lines, ?_,
          List.forall_mem_cons.2 ⟨hline, hascii⟩, ?_⟩
        · have hwritten : (s.handler.deliver c).output ++ s.handler.output calls =
              Record.jsonObject (r.members time) ++ CodePoint.ofChar '\n' :: s.handler.output calls := by
            rw [Delivery.output, htext]
            simp [Except.toOption, lineEnd]
          rw [Handler.output_cons, hwritten, Text.splitOn_append hbreak, hlines]
          rfl
        · rw [List.map_cons, List.map_cons, htold, Record.ofLine?_jsonObject hlogger hmessage]
      · rw [List.filterMap_cons_none hunfilled] at hunpaired ⊢
        obtain ⟨lines, hlines, hrest⟩ := ih hunpaired
        refine ⟨lines, ?_, hrest⟩
        rw [Handler.output_cons, Delivery.output, htext]
        exact hlines
  · rcases deliver_json hjson c with ⟨r, time, hfilled, htext⟩ | ⟨hunfilled, e, htext⟩
    · simp [hfilled, htext]
    · simp [hunfilled, htext]

/-- A message with a quote, a line break and a code point of two units, one whose arguments do not
fit, and one with lone surrogates from an argument: two lines tell two records. -/
theorem Setup.output_json_surrogates :
    let s : Setup := ⟨⟨0, true⟩, .json, Level.info⟩
    let smile := Text.of "\x22a\\\n\u007f" ++ [CodePoint.ofNat 0x1F600]
    let lone := [CodePoint.ofNat 0xDC00, CodePoint.ofNat 0xD800]
    let calls : List Call :=
      [⟨⟨topName, Level.error, smile, 0, some lone⟩, []⟩,
        ⟨⟨topName, Level.error, Text.of "%d", 0, none⟩, [.scalar (.text lone)]⟩,
        ⟨⟨lone, 7, Text.of "%s", 0, none⟩, [.scalar (.text lone)]⟩]
    (∀ r ∈ calls.filterMap Call.filled?, r.logger.Unpaired ∧ r.message.Unpaired) ∧
    ∃ lines : List Text, Text.splitOn '\n' (s.handler.output calls) = lines ++ [[]] ∧
      (∀ line ∈ lines, line.AsciiLine) ∧
      lines.map Told.ofLine? = [some ⟨Text.of "ERROR", topName, smile⟩,
        some ⟨Text.of "Level 7", lone, lone⟩] := by
  intro s smile lone calls
  have hfilled : calls.filterMap Call.filled? =
      [⟨topName, Level.error, smile, 0, some lone⟩, ⟨lone, 7, lone, 0, none⟩] := by
    decide +kernel
  have hunpaired : ∀ r ∈ calls.filterMap Call.filled?, r.logger.Unpaired ∧ r.message.Unpaired := by
    rw [hfilled]
    decide
  have hjson : s.mode = .json := rfl
  obtain ⟨⟨lines, hlines, hascii, htold⟩, -⟩ := output_json hjson hunpaired
  refine ⟨hunpaired, lines, hlines, hascii, ?_⟩
  rw [htold, hfilled]
  decide +kernel

end Log

end Stencil
