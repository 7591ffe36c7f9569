import Stencil.Proofs.Render.Related
import Stencil.Sink.Buffer
import Stencil.Sink.Stream
import Stencil.Sink.Writer

namespace Stencil

namespace Writer

variable {σ : Type}

/-- Texts are written one after another, up to the first that is refused. -/
theorem writeAll_append (w : Writer σ) (ts us : List Text) (s : σ) :
    w.writeAll (ts ++ us) s =
      match w.writeAll ts s with
      | (s', none) => w.writeAll us s'
      | refused => refused := by
  induction ts generalizing s with
  | nil => rfl
  | cons t ts ih =>
    simp only [List.cons_append, writeAll]
    rcases w.write t s with ⟨s', _ | e⟩
    · exact ih s'
    · rfl

theorem writeAll_ofSink [Sink σ] (ts : List Text) (s : σ) :
    (ofSink σ).writeAll ts s = Sink.writeAll s ts := by
  induction ts generalizing s with
  | nil => rfl
  | cons t ts ih =>
    simp only [writeAll, Sink.writeAll]
    cases hwrite : Sink.write s t with
    | ok s' => simpa [ofSink, hwrite] using ih s'
    | error e => simp [ofSink, hwrite]

/-- A writer that refuses nothing takes all texts. -/
theorem writeAll_of_neverRefuses {w : Writer σ} (hnever : w.NeverRefuses) (ts : List Text) (s : σ) :
    w.writeAll ts s = (w.after ts s, none) := by
  induction ts generalizing s with
  | nil => rfl
  | cons t ts ih =>
    have hwrite : w.write t s = ((w.write t s).1, none) := Prod.ext rfl (hnever t s)
    rw [writeAll, hwrite]
    exact ih (w.write t s).1

/-- The refused write is asked for, and none behind it. -/
theorem writeAll_of_refusesAfter {w : Writer σ} {error : SinkError} {k : Nat} {s : σ}
    (hrefuses : w.RefusesAfter error k s) (ts : List Text) :
    w.writeAll ts s =
      (w.after (ts.take (k + 1)) s, if ts.length ≤ k then none else some error) := by
  induction ts generalizing k s with
  | nil => rfl
  | cons t ts ih =>
    cases k with
    | zero =>
      have hwrite : w.write t s = ((w.write t s).1, some error) := Prod.ext rfl (hrefuses t)
      rw [writeAll, hwrite]
      simp [after]
    | succ k =>
      obtain ⟨htaken, hrest⟩ := hrefuses t
      have hwrite : w.write t s = ((w.write t s).1, none) := Prod.ext rfl htaken
      rw [writeAll, hwrite]
      simpa [after] using ih hrest

theorem neverRefuses_buffer : (ofSink Buffer).NeverRefuses := fun _ _ => rfl

/-- Keeps what it takes, counts what it is asked for, and refuses one request only. -/
def failingAt (request : Nat) (error : SinkError) : Writer (List Text × Nat) where
  write t s :=
    if s.2 = request then ((s.1, s.2 + 1), some error) else ((s.1 ++ [t], s.2 + 1), none)

theorem refusesAfter_failingAt (k asked : Nat) (error : SinkError) (held : List Text) :
    (failingAt (asked + k) error).RefusesAfter error k (held, asked) := by
  induction k generalizing asked held with
  | zero => exact fun t => by simp [failingAt]
  | succ k ih =>
    intro t
    have hne : asked ≠ asked + (k + 1) := by omega
    have hnext := ih (asked + 1) (held ++ [t])
    rw [Nat.add_right_comm] at hnext
    exact ⟨by simp [failingAt], by simpa [failingAt, hne, Nat.add_assoc] using hnext⟩

end Writer

namespace Run

variable {σ : Type}

theorem handTo_write (t : Text) (w : Writer σ) (s : σ) :
    (write t).handTo w s = ((w.write t s).1, (w.write t s).2.map Failure.sink) := by
  simp only [write, handTo, Writer.writeAll]
  rcases w.write t s with ⟨s', _ | e⟩ <;> rfl

/-- Runs are handed over one after another, up to the first failure. -/
theorem handTo_andThen (a b : Run) (w : Writer σ) (s : σ) :
    (a.andThen b).handTo w s =
      match a.handTo w s with
      | (s', none) => b.handTo w s'
      | failed => failed := by
  obtain ⟨ws, f⟩ := a
  cases f with
  | some f =>
    simp only [andThen, handTo]
    rcases w.writeAll ws s with ⟨s', _ | e⟩ <;> rfl
  | none =>
    simp only [andThen, handTo, Writer.writeAll_append]
    rcases w.writeAll ws s with ⟨s', _ | e⟩ <;> rfl

theorem handTo_ofSink [Sink σ] (r : Run) (s : σ) : r.handTo (.ofSink σ) s = r.deliver s := by
  have hwrites := Writer.writeAll_ofSink r.writes s
  rcases hsink : Sink.writeAll s r.writes with ⟨s', _ | e⟩ <;>
    simp only [handTo, deliver, hwrites, hsink]

/-- How a run ends if no write is refused. -/
def ending (r : Run) : Option Failure := r.fault.map .fault

/-- A writer that refuses nothing takes the whole run, and sees how it ended. -/
theorem handTo_of_neverRefuses {w : Writer σ} (hnever : w.NeverRefuses) (r : Run) (s : σ) :
    r.handTo w s = (w.after r.writes s, r.ending) := by
  rw [handTo, Writer.writeAll_of_neverRefuses hnever]
  rfl

/-- A writer that refuses what comes after some writes has taken these, and sees its own refusal if
the run goes on, and else how it ended. -/
theorem handTo_of_refusesAfter {w : Writer σ} {error : SinkError} {k : Nat} {s : σ}
    (hrefuses : w.RefusesAfter error k s) (r : Run) :
    r.handTo w s = (w.after (r.writes.take (k + 1)) s,
      if r.writes.length ≤ k then r.ending else some (.sink error)) := by
  rw [handTo, Writer.writeAll_of_refusesAfter hrefuses]
  by_cases hall : r.writes.length ≤ k
  · simp [hall, ending]
  · simp [hall]

end Run

/-- A recorder holds the writes it has room for, and refuses the next one. -/
theorem Recorder.writeAll_of_room {r : Recorder} {k : Nat}
    (hroom : r.room = some (r.held.length + k)) (ts : List Text) :
    Sink.writeAll r ts = ({ r with held := (ts.take k).reverse ++ r.held },
      if ts.length ≤ k then none else some .diskFull) := by
  induction ts generalizing k r with
  | nil => simp [Sink.writeAll]
  | cons t ts ih =>
    cases k with
    | zero =>
      have hfull : r.isFull = true := by simp [isFull, hroom]
      simp [Sink.writeAll, Sink.write, hfull]
    | succ k =>
      have hfree : r.isFull = false := by simp [isFull, hroom]
      have hnext : ({ r with held := t :: r.held } : Recorder).room =
          some ((t :: r.held).length + k) := by
        rw [hroom, List.length_cons]
        congr 1
        omega
      have hrest := ih hnext
      simp [Sink.writeAll, Sink.write, hfree, hrest]

/-- The first `k` of some texts stay within a limit, and the next one, if there is one, would go
past it. -/
structure Text.FirstPast (limit : Int) (ts : List Text) (k : Nat) : Prop where
  le_length : k ≤ ts.length
  within : ∀ j, 0 < j → j ≤ k → ((ts.take j).flatten.length : Int) ≤ limit
  past : k < ts.length → limit < ((ts.take (k + 1)).flatten.length : Int)

/-- A text that fits does not pass the limit. -/
theorem Text.FirstPast.cons {limit : Int} {t : Text} {ts : List Text} {k : Nat}
    (hfits : (t.length : Int) ≤ limit) (hrest : FirstPast (limit - t.length) ts k) :
    FirstPast limit (t :: ts) (k + 1) := by
  refine ⟨by simpa using hrest.le_length, fun j hpos hj => ?_, fun hk => ?_⟩
  · match j with
    | 1 => simpa using hfits
    | j + 2 =>
      have hwithin := hrest.within (j + 1) (by omega) (by omega)
      rw [List.take_succ_cons, List.flatten_cons, List.length_append]
      push_cast
      omega
  · have hpast := hrest.past (by simpa using hk)
    rw [List.take_succ_cons, List.flatten_cons, List.length_append]
    push_cast
    omega

/-- A counted stream with a limit takes the writes before the first one that goes past it. -/
theorem Counted.writeAll_of_limit {c : Counted TextStream} {limit : Int}
    (hlimit : c.stream.limit = some limit) (ts : List Text) :
    ∃ k, Text.FirstPast (limit - c.stream.size) ts k ∧
      Sink.writeAll c ts =
        (⟨{ c.stream with
            parts := (ts.take k).reverse ++ c.stream.parts
            size := c.stream.size + (ts.take k).flatten.length },
          c.written + (ts.take k).flatten.length⟩,
        if k = ts.length then none else some (.output .noSpace)) := by
  induction ts generalizing c with
  | nil => exact ⟨0, ⟨Nat.le_refl 0, by omega, by simp⟩, by simp [Sink.writeAll]⟩
  | cons t ts ih =>
    have hstream := c.stream.write_of_limit hlimit t
    by_cases hpast : limit < ((c.stream.size + t.length : Nat) : Int)
    · rw [if_pos hpast] at hstream
      refine ⟨0, ⟨Nat.zero_le _, by omega, fun _ => ?_⟩, ?_⟩
      · simp only [Nat.zero_add, List.take_succ_cons, List.take_zero, List.flatten_cons,
          List.flatten_nil, List.append_nil]
        omega
      · rw [Sink.writeAll, write_of_error hstream]
        simp [report, SinkError.isSystem]
    · rw [if_neg hpast] at hstream
      obtain ⟨k, hfirst, hrest⟩ := ih (c := ⟨{ c.stream with
        parts := t :: c.stream.parts
        size := c.stream.size + t.length }, c.written + t.length⟩) hlimit
      have hshift : limit - (c.stream.size : Int) - t.length =
          limit - ((c.stream.size + t.length : Nat) : Int) := by
        push_cast
        omega
      refine ⟨k + 1, .cons (by omega) (hshift ▸ hfirst), ?_⟩
      rw [Sink.writeAll, write_of_ok hstream]
      simp [hrest, Nat.add_assoc]

namespace Template

variable {σ : Type}

/-- Each write is asked for where the walk comes to it, and what comes of that is what comes of the
finished run: no loop over a section goes on behind a refusal, and none skips or repeats a write. -/
theorem renderOn_direct (t : Template) (convert : Conversion) (v : Value) (w : Writer σ) (s : σ) :
    t.renderOn (.direct w convert) v s = (t.render convert v).handTo w s := by
  -- A step starts in the state that the one before it has left, so states are not fixed here.
  have hrelated : Interpretation.Related (.direct w convert) (.scripts convert)
      (fun action a => ∀ s, action s = a.run.handTo w s) Eq t.blocks := {
    done := fun s => rfl
    literal := by
      intro b hb hne s
      simp only [Interpretation.direct, Interpretation.scripts, Script.run_ask, Request.run,
        Run.handTo_write]
    fail := fun f s => rfl
    andThen := by
      intro a b r q hr hq s
      simp only [Interpretation.direct, Interpretation.scripts, Script.run_andThen,
        Run.handTo_andThen, ← hr]
      rcases a s with ⟨s', _ | e⟩
      · exact hq s'
      · rfl
    shown := by
      rintro b hb escaped name htag v w rfl s
      rfl
    plan := by
      rintro b hb inverted name children htag v w rfl
      refine .of_refl (fun r s => ?_) (fun _ => rfl) _
      simp only [Interpretation.direct, Interpretation.scripts, Script.run_ask] }
  rw [renderOn_related hrelated rfl, renderOn_scripts, render]

/-- A render hands its run to a writer that has been told the capacity. -/
theorem renderBy_eq_handTo (t : Template) (convert : Conversion) (v : Value) (w : Writer σ) (s : σ) :
    t.renderBy convert v w s =
      (t.renderWith convert v).handTo w (w.announce (t.capacity v) s) := by
  cases hcapacity : t.capacity v with
  | ok n => simp only [renderBy, hcapacity, renderOn_direct, renderWith_of_capacity hcapacity,
      Writer.announce]
  | error f =>
    simp only [renderBy, hcapacity, renderWith, scriptWith_of_fault hcapacity]
    rfl

/-- Rendering to a sink asks it for one write after another. -/
theorem renderTo_eq_renderBy [Sink σ] (t : Template) (convert : Conversion) (v : Value) (s : σ) :
    t.renderTo convert v s = t.renderBy convert v (.ofSink σ) s := by
  have hannounce : (Writer.ofSink σ).announce (t.capacity v) s = Sink.announce s (t.capacity v) := by
    cases t.capacity v <;> rfl
  rw [renderBy_eq_handTo, Run.handTo_ofSink, hannounce, renderTo]

/-- A recorder with room for some writes holds these. -/
theorem renderTo_of_room (t : Template) (convert : Conversion) (v : Value) (k : Nat) :
    t.renderTo convert v ({ room := some k } : Recorder) =
      ({ room := some k, held := ((t.renderWith convert v).writes.take k).reverse,
         sizes := (t.capacity v).toOption.toList },
        if (t.renderWith convert v).writes.length ≤ k then (t.renderWith convert v).ending
        else some (.sink .diskFull)) := by
  have hwrites := Recorder.writeAll_of_room (k := k)
    (r := { room := some k, sizes := (t.capacity v).toOption.toList }) (by simp)
    (t.renderWith convert v).writes
  have hannounced : Sink.announce ({ room := some k } : Recorder) (t.capacity v) =
      { room := some k, sizes := (t.capacity v).toOption.toList } := by
    cases t.capacity v <;> rfl
  rw [renderTo, hannounced, Run.deliver, hwrites]
  by_cases hall : (t.renderWith convert v).writes.length ≤ k
  · simp [hall, Run.ending]
  · simp [hall]

/-- A stream with a limit holds the writes before the first that would pass it. -/
theorem renderTo_of_limit (t : Template) (convert : Conversion) (v : Value) (limit : Int) :
    ∃ k, Text.FirstPast limit (t.renderWith convert v).writes k ∧
      ∃ c : Counted TextStream,
        t.renderTo convert v ({ stream := { limit := some limit } } : Counted TextStream) =
          (c, if k = (t.renderWith convert v).writes.length then (t.renderWith convert v).ending
            else some (.sink (.output .noSpace))) ∧
        c.stream.parts.reverse = (t.renderWith convert v).writes.take k ∧
        c.written = c.stream.text.length := by
  have hlimit : ({ stream := { limit := some limit } } : Counted TextStream).stream.limit =
      some limit := rfl
  obtain ⟨k, hfirst, hwrites⟩ := Counted.writeAll_of_limit hlimit (t.renderWith convert v).writes
  have hannounced : Sink.announce ({ stream := { limit := some limit } } : Counted TextStream)
      (t.capacity v) = { stream := { limit := some limit } } := by
    cases t.capacity v <;> rfl
  generalize hws : (t.renderWith convert v).writes = ws at hfirst hwrites ⊢
  refine ⟨k, by simpa using hfirst,
    ⟨⟨some limit, (ws.take k).reverse, (ws.take k).flatten.length⟩, (ws.take k).flatten.length⟩,
    ?_, by simp, by simp [TextStream.text]⟩
  rw [renderTo, hannounced, Run.deliver, hws, hwrites]
  by_cases hall : k = ws.length
  · simp [hall, Run.ending]
  · simp [hall]

/-- A refused write ends the render where it is: no later write is asked for, and the
refusal is reported as it is. Without one, every write is made and the run ends as it does. -/
theorem refused_write_keeps_prefix (t : Template) (convert : Conversion) (v : Value) :
    let r := t.renderWith convert v
    (∀ {σ : Type} (w : Writer σ) (s : σ), w.NeverRefuses →
      t.renderBy convert v w s = (w.after r.writes (w.announce (t.capacity v) s), r.ending)) ∧
    (∀ {σ : Type} (w : Writer σ) (s : σ) (k : Nat) (error : SinkError),
      w.RefusesAfter error k (w.announce (t.capacity v) s) →
      t.renderBy convert v w s =
        (w.after (r.writes.take (k + 1)) (w.announce (t.capacity v) s),
          if r.writes.length ≤ k then r.ending else some (.sink error))) ∧
    (∀ k : Nat, t.renderTo convert v ({ room := some k } : Recorder) =
      ({ room := some k, held := (r.writes.take k).reverse,
         sizes := (t.capacity v).toOption.toList },
        if r.writes.length ≤ k then r.ending else some (.sink .diskFull))) ∧
    ∀ limit : Int, ∃ k, Text.FirstPast limit r.writes k ∧
      ∃ c : Counted TextStream,
        t.renderTo convert v ({ stream := { limit := some limit } } : Counted TextStream) =
          (c, if k = r.writes.length then r.ending else some (.sink (.output .noSpace))) ∧
        c.stream.parts.reverse = r.writes.take k ∧ c.written = c.stream.text.length := by
  refine ⟨fun w s hnever => ?_, fun w s k error hrefuses => ?_, ?_, ?_⟩
  · rw [renderBy_eq_handTo, Run.handTo_of_neverRefuses hnever]
  · rw [renderBy_eq_handTo, Run.handTo_of_refusesAfter hrefuses]
  · exact t.renderTo_of_room convert v
  · exact t.renderTo_of_limit convert v

/-- A section over two elements, written to a buffer, and to a writer that refuses only the fifth of
seven writes. -/
theorem refused_write_keeps_prefix_section :
    let t : Template := ⟨[⟨[], .opening false ⟨FieldName.dot, 0⟩ 2⟩,
      ⟨Text.of "<", .print true ⟨FieldName.dot, 0⟩⟩, ⟨Text.of ">", .closing⟩,
      ⟨Text.of "!", .tail⟩]⟩
    let v : Value := .sequence [.text (Text.of "a"), .text (Text.of "b")]
    (Writer.ofSink Buffer).NeverRefuses ∧
      ((t.renderBy .ok v (.ofSink Buffer) {}).1.text, (t.renderBy .ok v (.ofSink Buffer) {}).2) =
        (Text.of "<a><b>!", none) ∧
      (Writer.failingAt 4 .diskFull).RefusesAfter .diskFull 4 ([], 0) ∧
      t.renderBy .ok v (.failingAt 4 .diskFull) ([], 0) =
        (([Text.of "<", Text.of "a", Text.of ">", Text.of "<"], 5), some (.sink .diskFull)) := by
  intro t v
  have hrefuses := Writer.refusesAfter_failingAt 4 0 .diskFull []
  have hkept := refused_write_keeps_prefix t .ok v
  refine ⟨Writer.neverRefuses_buffer, ?_, hrefuses, ?_⟩
  · rw [hkept.1 _ _ Writer.neverRefuses_buffer]
    decide
  · rw [hkept.2.1 (.failingAt 4 .diskFull) ([], 0) 4 .diskFull hrefuses]
    decide

end Template

end Stencil
