import Stencil.Proofs.Sink.Encoder
import Stencil.Sink.History

namespace Stencil

namespace Writer

variable {σ : Type} {w : Writer σ}

/-- A write that is taken is counted. -/
theorem counted_of_taken {t : Text} {c : Counted σ} {s : σ}
    (htaken : w.write t c.stream = (s, none)) :
    w.counted.write t c = (⟨s, c.written + t.length⟩, none) := by
  simp only [counted, htaken]

/-- A write that is refused is not, and is reported as a failure of the output. -/
theorem counted_of_refused {t : Text} {c : Counted σ} {s : σ} {e : SinkError}
    (hrefused : w.write t c.stream = (s, some e)) :
    w.counted.write t c = (⟨s, c.written⟩, some (Counted.report e)) := by
  simp only [counted, hrefused]

/-- After several writes the count has grown by those that were accepted. -/
theorem writeAll_counted (ts : List Text) (c : Counted σ) :
    w.counted.writeAll ts c =
      (⟨(w.writeAll ts c.stream).1, c.written + (w.accepted ts c.stream).flatten.length⟩,
        (w.writeAll ts c.stream).2.map Counted.report) := by
  induction ts generalizing c with
  | nil => rfl
  | cons t ts ih =>
    rcases hwrite : w.write t c.stream with ⟨s, _ | e⟩
    · simp [writeAll, accepted, counted_of_taken hwrite, hwrite, ih, Nat.add_assoc]
    · simp [writeAll, accepted, counted_of_refused hwrite, hwrite]

theorem accepted_of_writeAll {ts : List Text} {s s' : σ} (hall : w.writeAll ts s = (s', none)) :
    w.accepted ts s = ts := by
  induction ts generalizing s with
  | nil => rfl
  | cons t ts ih =>
    rcases hwrite : w.write t s with ⟨next, _ | e⟩
    · simp only [writeAll, hwrite] at hall
      simp only [accepted, hwrite, ih hall]
    · simp [writeAll, hwrite] at hall

/-- A refusal is that of one text, behind some that are taken. -/
theorem exists_refused {ts : List Text} {s s' : σ} {e : SinkError}
    (hrefused : w.writeAll ts s = (s', some e)) :
    ∃ t rest before, ts = w.accepted ts s ++ t :: rest ∧
      w.writeAll (w.accepted ts s) s = (before, none) ∧ w.write t before = (s', some e) := by
  induction ts generalizing s with
  | nil => cases hrefused
  | cons t ts ih =>
    rcases hwrite : w.write t s with ⟨next, _ | e'⟩
    · simp only [writeAll, hwrite] at hrefused
      obtain ⟨u, rest, before, hts, htaken, hu⟩ := ih hrefused
      refine ⟨u, rest, before, ?_, ?_, hu⟩
      · simp only [accepted, hwrite, List.cons_append, ← hts]
      · simp only [accepted, hwrite, writeAll, htaken]
    · simp only [writeAll, hwrite] at hrefused
      cases hrefused
      exact ⟨t, ts, s, by simp [accepted, hwrite], by simp [accepted, hwrite, writeAll], hwrite⟩

/-- A stream holds the writes that it has accepted, one behind the other. -/
theorem IsStream.content_writeAll {content : σ → Text} (hstream : w.IsStream content)
    (ts : List Text) (s : σ) :
    content (w.writeAll ts s).1 = content s ++ (w.accepted ts s).flatten := by
  induction ts generalizing s with
  | nil => simp [writeAll, accepted]
  | cons t ts ih =>
    rcases hwrite : w.write t s with ⟨next, _ | e⟩
    · simp [writeAll, accepted, hwrite, ih, hstream.takes hwrite]
    · simp [writeAll, accepted, hwrite, (hstream.refuses hwrite).1]

/-- A stream that refuses one request only. -/
theorem isStream_failingAt (request : Nat) {error : SinkError} (hsystem : error.isSystem = true) :
    (failingAt request error).IsStream fun s => s.1.flatten where
  takes := by
    intro t s s' htaken
    simp only [failingAt] at htaken
    split at htaken
    · cases htaken
    · cases htaken
      simp
  refuses := by
    intro t s s' e hrefused
    simp only [failingAt] at hrefused
    split at hrefused
    · cases hrefused
      exact ⟨rfl, hsystem⟩
    · cases hrefused

/-- A sink that is counted is the counted writer that it is. -/
theorem counted_ofSink [Sink σ] : (ofSink σ).counted = ofSink (Counted σ) := by
  refine congrArg (fun write => ({ write } : Writer (Counted σ))) ?_
  funext t c
  cases hwrite : Sink.write c.stream t with
  | ok stream => simp [ofSink, hwrite, Counted.write_of_ok hwrite]
  | error e => simp [ofSink, hwrite, Counted.write_of_error hwrite]

end Writer

/-- What comes of a run that a stream is asked for: the writes that it takes, the state that it is
left in, and how the run ends. -/
inductive Delivery {σ : Type} (w : Writer σ) (r : Run) (s : σ) :
    List Text → σ → Option Failure → Prop where
  /-- Every write is taken, and the run ends as it does. -/
  | whole {s' : σ} (htaken : w.writeAll r.writes s = (s', none)) :
      Delivery w r s r.writes s' r.ending
  /-- A write is refused behind some that are taken, and nothing is asked for behind it. -/
  | cut {taken rest : List Text} {t : Text} {before s' : σ} {cause : SinkError}
      (hwrites : r.writes = taken ++ t :: rest) (htaken : w.writeAll taken s = (before, none))
      (hrefused : w.write t before = (s', some cause)) :
      Delivery w r s taken s' (some (.sink (.output cause)))

section Accounting

variable {σ : Type} {w : Writer σ} {content : σ → Text} (hstream : w.IsStream content)

include hstream

/-- A refusal by the system surfaces as a failed output, and as nothing else. -/
theorem Delivery.output_of_sink {r : Run} {s s' : σ} {taken : List Text} {outcome : Option Failure}
    (hdelivery : Delivery w r s taken s' outcome) {error : SinkError}
    (houtcome : outcome = some (.sink error)) :
    ∃ cause, error = .output cause ∧ cause.isSystem = true := by
  cases hdelivery with
  | whole htaken =>
    rw [Run.ending] at houtcome
    cases hfault : r.fault <;> simp [hfault] at houtcome
  | cut hwrites htaken hrefused =>
    cases houtcome
    exact ⟨_, rfl, (hstream.refuses hrefused).2⟩

theorem Counted.report_of_refused {t : Text} {s s' : σ} {cause : SinkError}
    (hrefused : w.write t s = (s', some cause)) : Counted.report cause = .output cause := by
  rw [report, if_pos (hstream.refuses hrefused).2]

/-- A run that is handed to a counted stream: what it writes is held and counted as far as the
stream takes it. -/
theorem Run.handTo_counted (r : Run) (c : Counted σ) :
    let taken := w.accepted r.writes c.stream
    let d := r.handTo w.counted c
    d.1.written = c.written + taken.flatten.length ∧
      content d.1.stream = content c.stream ++ taken.flatten ∧
      Delivery w r c.stream taken d.1.stream d.2 := by
  intro taken d
  have hd : d = r.handTo w.counted c := rfl
  have hcontent := hstream.content_writeAll r.writes c.stream
  rw [handTo, Writer.writeAll_counted] at hd
  rcases hwrites : w.writeAll r.writes c.stream with ⟨s, _ | cause⟩
  · simp only [hwrites, Option.map_none] at hd hcontent
    rw [hd]
    refine ⟨rfl, hcontent, ?_⟩
    have htaken : taken = r.writes := Writer.accepted_of_writeAll hwrites
    rw [htaken]
    exact .whole hwrites
  · obtain ⟨t, rest, before, hcut, htaken, hrefused⟩ := Writer.exists_refused hwrites
    simp only [hwrites, Option.map_some, Counted.report_of_refused hstream hrefused] at hd hcontent
    rw [hd]
    exact ⟨rfl, hcontent, .cut hcut htaken hrefused⟩

end Accounting

namespace Operation

variable {σ : Type}

/-- Every operation comes down to its run. -/
theorem perform_ofWriter (convert : Conversion) (u : Writer σ) (s : σ) (o : Operation) :
    o.perform convert (.ofWriter u) s =
      (o.run convert).handTo u (match o.size? with | some n => u.reserve n s | none => s) := by
  cases o with
  | unescaped t => rw [perform, Encoder.handTo_ofWriter, Script.run_ask]; rfl
  | escaped n =>
    rw [perform, Encoder.handTo_ofWriter]
    cases hplain : n.plain? with
    | some t => simp only [Script.askShort, Script.run_ask, run, hplain]; rfl
    | none => simp only [Script.askShort, Script.run_fail, run, hplain]; rfl
  | plain n =>
    rw [perform, Encoder.handTo_ofWriter]
    cases hplain : n.plain? with
    | some t => simp only [Script.askShort, Script.run_ask, run, hplain]; rfl
    | none => simp only [Script.askShort, Script.run_fail, run, hplain]; rfl
  | reserve n => rfl
  | markdown t =>
    rw [perform, Encoder.handTo_ofWriter, Value.scriptText, Script.run_answer]
    simp only [Script.run_ask]
    rfl
  | render t v =>
    rw [perform, Template.renderInto_ofWriter, Template.renderBy_eq_handTo, run, size?]
    cases t.capacity v <;> rfl

/-- A counted stream is told no size. -/
theorem perform_counted (convert : Conversion) (w : Writer σ) (c : Counted σ) (o : Operation) :
    o.perform convert (.ofWriter w.counted) c = (o.run convert).handTo w.counted c := by
  rw [perform_ofWriter]
  split <;> rfl

/-- An operation on the counting sink is one on the counting writer. -/
theorem perform_ofSink [Sink σ] (convert : Conversion) (c : Counted σ) (o : Operation) :
    o.perform convert (.ofWriter (Writer.ofSink σ).counted) c = o.apply convert c := by
  rw [perform_counted, Writer.counted_ofSink, Run.handTo_ofSink, apply]
  split <;> rfl

variable {w : Writer σ} {content : σ → Text}

theorem performAll_cons (convert : Conversion) (e : Encoder σ) (s : σ) (o : Operation)
    (os : List Operation) :
    performAll convert e s (o :: os) = performAll convert e (o.perform convert e s).1 os := rfl

/-- What is held and counted after some operations. -/
theorem performAll_counted (hstream : w.IsStream content) (convert : Conversion)
    (os : List Operation) (c : Counted σ) :
    let taken := acceptedAll convert w os c
    let d := performAll convert (.ofWriter w.counted) c os
    d.written = c.written + taken.flatten.length ∧
      content d.stream = content c.stream ++ taken.flatten := by
  induction os generalizing c with
  | nil => simp [acceptedAll, performAll]
  | cons o os ih =>
    obtain ⟨hwritten, hcontent⟩ := ih (o.perform convert (.ofWriter w.counted) c).1
    obtain ⟨hfirst, hheld, -⟩ := Run.handTo_counted hstream (o.run convert) c
    rw [← perform_counted] at hfirst hheld
    simp only [acceptedAll, List.flatten_append, List.length_append]
    constructor
    · rw [performAll_cons, hwritten, hfirst, Nat.add_assoc]
    · rw [performAll_cons, hcontent, hheld, List.append_assoc]

/-- After some operations on a counted stream, whichever of their writes were refused, the stream
holds what it held before and the writes it has taken since, in order, and these are counted. The
next operation again makes its writes up to the first that is refused, and reports that one as a
failed output. One that makes a single write changes nothing if it is refused; if it is taken, it is
held behind the others and counted. A sink that is counted is one such stream. -/
theorem performAll_accounts (hstream : w.IsStream content) (convert : Conversion)
    (os : List Operation) (c : Counted σ) :
    let e := Encoder.ofWriter w.counted
    let d := performAll convert e c os
    let taken := acceptedAll convert w os c
    content d.stream = content c.stream ++ taken.flatten ∧
    d.written = c.written + taken.flatten.length ∧
    (c.written = (content c.stream).length → d.written = (content d.stream).length) ∧
    ∀ o : Operation,
      let r := o.run convert
      Delivery w r d.stream (w.accepted r.writes d.stream) (o.perform convert e d).1.stream
        (o.perform convert e d).2 ∧
      (∀ error, (o.perform convert e d).2 = some (.sink error) →
        ∃ cause, error = .output cause ∧ cause.isSystem = true) ∧
      (∀ t, r.writes = [t] → ∀ s,
        (∀ cause, w.write t d.stream = (s, some cause) → content s = content d.stream ∧
          o.perform convert e d = (⟨s, d.written⟩, some (.sink (.output cause)))) ∧
        (w.write t d.stream = (s, none) → content s = content d.stream ++ t ∧
          o.perform convert e d = (⟨s, d.written + t.length⟩, r.ending))) ∧
      ∀ {τ : Type} [Sink τ] (c : Counted τ),
        o.apply convert c = o.perform convert (.ofWriter (Writer.ofSink τ).counted) c := by
  intro e d taken
  obtain ⟨hwritten, hcontent⟩ := performAll_counted hstream convert os c
  refine ⟨hcontent, hwritten, fun hfresh => ?_, fun o => ?_⟩
  · rw [hwritten, hcontent, List.length_append, hfresh]
  · intro r
    have hperform : o.perform convert e d = r.handTo w.counted d := perform_counted convert w d o
    obtain ⟨-, -, hdelivery⟩ := Run.handTo_counted hstream r d
    rw [hperform]
    refine ⟨hdelivery, fun error => hdelivery.output_of_sink hstream, fun t hsingle s =>
      ⟨fun cause hrefused => ?_, fun htaken => ?_⟩, fun c => (perform_ofSink convert c o).symm⟩
    · refine ⟨(hstream.refuses hrefused).1, ?_⟩
      rw [Run.handTo, Writer.writeAll_counted, hsingle]
      simp [Writer.writeAll, Writer.accepted, hrefused,
        Counted.report_of_refused hstream hrefused]
    · refine ⟨hstream.takes htaken, ?_⟩
      rw [Run.handTo, Writer.writeAll_counted, hsingle]
      simp [Writer.writeAll, Writer.accepted, htaken, Run.ending]

/-- The third write is refused, which is the first one of a render; what comes after it is taken. -/
theorem performAll_accounts_resumed :
    let w := Writer.failingAt 2 .diskFull
    let content : List Text × Nat → Text := fun s => s.1.flatten
    let e := Encoder.ofWriter w.counted
    let t : Template := ⟨[⟨Text.of "x", .print true ⟨FieldName.dot, 0⟩⟩]⟩
    let os : List Operation :=
      [.unescaped (Text.of "ab"), .escaped (.text (Text.of "<")), .render t (.text (Text.of "y"))]
    let d := performAll .ok e ⟨([], 0), 0⟩ os
    w.IsStream content ∧ content d.stream = Text.of "ab&lt;" ∧ d.written = 6 ∧
      w.write (Text.of "c") d.stream =
        (([Text.of "ab", Text.of "&lt;", Text.of "c"], 4), none) ∧
      Operation.perform .ok e d (.unescaped (Text.of "c")) =
        (⟨([Text.of "ab", Text.of "&lt;", Text.of "c"], 4), 7⟩, none) := by
  intro w content e t os d
  have hstream : w.IsStream content := Writer.isStream_failingAt 2 (by decide)
  obtain ⟨hcontent, hwritten, -, hnext⟩ :=
    performAll_accounts hstream .ok os (⟨([], 0), 0⟩ : Counted (List Text × Nat))
  have htaken : w.write (Text.of "c") d.stream =
      (([Text.of "ab", Text.of "&lt;", Text.of "c"], 4), none) := by decide
  obtain ⟨-, -, hsingle, -⟩ := hnext (.unescaped (Text.of "c"))
  refine ⟨hstream, ?_, ?_, htaken, ?_⟩
  · rw [hcontent]
    decide
  · rw [hwritten]
    decide
  · refine ((hsingle (Text.of "c") rfl _).2 htaken).2.trans ?_
    rw [hwritten]
    decide

end Operation

end Stencil
