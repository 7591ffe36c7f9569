import Stencil.Proofs.Render.Replace
import Stencil.Proofs.Sink.Encoder

namespace Stencil

namespace Value

/-- Has a custom value report another hint. -/
inductive Rehints : Value → Value → Prop where
  | custom (c : Content Value) (hint : Nat → Int) :
      Rehints (.custom c) (.custom { c with hint := .ok hint })

/-- Values that differ in their hints are shown alike. -/
theorem Rehints.shownAlike {v w : Value} (hvw : Rehints v w) : ShownAlike Rehints v w := by
  cases hvw with
  | custom c hint =>
    -- A custom value hands on itself, so it is the whole value that is replaced there.
    have hself : Replaced Rehints (.custom c) (.custom { c with hint := .ok hint }) :=
      .inr (.here (.custom c hint))
    have hplan : ∀ p, PlanAlike (fun _ => True) (Replaced Rehints) (resolve c p)
        (resolve { c with hint := .ok hint } p) :=
      fun p => .resolve (fun _ => trivial) .refl hself p
    exact {
      shows := fun _ _ => rfl
      own := fun convert => .some ⟨fun _ => hplan _, rfl, fun _ _ _ => hplan _⟩
      truthy := rfl
      items := .ofTruthy hself rfl id
      field := fun _ _ => rfl }

/-- A sum whose terms are there is there. -/
theorem sumHints_ok {xs ys : List (Except Fault Int)}
    (hterms : List.Forall₂ (fun x y => (∃ m, x = .ok m) → ∃ n, y = .ok n) xs ys) {a b m : Int}
    (hsum : sumHints a xs = .ok m) : ∃ n, sumHints b ys = .ok n := by
  induction hterms generalizing a b with
  | nil => exact ⟨b, rfl⟩
  | @cons x y xs ys hxy _ ih =>
    cases x with
    | error f => cases hsum
    | ok k =>
      obtain ⟨n, rfl⟩ := hxy ⟨k, rfl⟩
      exact ih hsum

/-- A value that has a hint has one whatever hints its custom values report. -/
theorem hint_of_rehints {v w : Value} (hvw : InPlace Rehints v w) (literal : Nat) :
    (∃ m, v.hint literal = .ok m) → ∃ n, w.hint literal = .ok n := by
  induction hvw with
  | here hvw =>
    cases hvw with
    | custom c hint => exact fun _ => ⟨hint literal, by simp [Value.hint, Except.map]⟩
  | element | entry => exact fun _ => ⟨0, by simp only [hint]⟩
  | attr table name before after _ ih =>
    rw [hint_record, hint_record]
    rintro ⟨m, hm⟩
    refine sumHints_ok ?_ hm
    rw [List.forall₂_map_left_iff, List.forall₂_map_right_iff]
    refine List.forall₂_same.2 fun s _ => ?_
    -- An attribute is the one that is replaced, or the same on both sides.
    have hlookup := lookup_alike (R := fun x y => (∃ m, x.hint literal = .ok m) →
      ∃ n, y.hint literal = .ok n) (fun _ => id) ih before after name s.attr
    unfold attr
    generalize (before ++ (name, _) :: after).lookup s.attr = x at hlookup ⊢
    generalize (before ++ (name, _) :: after).lookup s.attr = y at hlookup ⊢
    cases hlookup with
    | none => exact id
    | some hvalue => exact hvalue
  | held present _ ih =>
    simp only [hint]
    cases present with
    | true => exact ih
    | false => exact id
  | success _ ih => simpa only [hint] using ih
  | adapted _ ih => simpa only [hint] using ih

end Value

/-- What a writer was asked for: an expected size, or a write. -/
inductive Call where
  | reserve (n : Int)
  | write (t : Text)
deriving DecidableEq

namespace Writer

/-- Takes everything, and keeps what it was asked for in order. -/
def journal : Writer (List Call) where
  write t s := (s ++ [.write t], none)
  reserve n s := s ++ [.reserve n]

theorem neverRefuses_journal : journal.NeverRefuses := fun _ _ => rfl

theorem after_journal (ts : List Text) (calls : List Call) :
    journal.after ts calls = calls ++ ts.map .write := by
  induction ts generalizing calls with
  | nil => exact (List.append_nil calls).symm
  | cons t ts ih =>
    have hrest := ih (calls ++ [.write t])
    rw [List.append_assoc] at hrest
    exact hrest

end Writer

/-- A stream that takes every write as long as it is good, is good again after it, and then holds
the text behind what it held before. -/
structure Unfailing {σ : Type} [Sink σ] (good : σ → Prop) (content : σ → Text) : Prop where
  takes : ∀ {s}, good s → ∀ t, ∃ s', Sink.write s t = .ok s' ∧ good s' ∧ content s' = content s ++ t

theorem TextStream.unfailing : Unfailing (fun s : TextStream => s.limit = none) text where
  takes {s} hlimit t := by
    refine ⟨{ s with parts := t :: s.parts, size := s.size + t.length }, ?_, hlimit, ?_⟩
    · simp [Sink.write, hlimit]
    · simp [text]

/-- A counted stream that does not fail counts every code point that it comes to hold. -/
theorem Unfailing.writeAll {σ : Type} [Sink σ] {good : σ → Prop} {content : σ → Text}
    (hstream : Unfailing good content) {c : Counted σ} (hgood : good c.stream) (ts : List Text) :
    ∃ d : Counted σ, Sink.writeAll c ts = (d, none) ∧
      content d.stream = content c.stream ++ ts.flatten ∧
      d.written = c.written + ts.flatten.length := by
  induction ts generalizing c with
  | nil => exact ⟨c, rfl, by simp, by simp⟩
  | cons t ts ih =>
    obtain ⟨stream, hwrite, hgood', hcontent⟩ := hstream.takes hgood t
    obtain ⟨d, hrest, hheld, hcounted⟩ :=
      ih (c := ⟨stream, c.written + t.length⟩) hgood'
    refine ⟨d, ?_, ?_, ?_⟩
    · rw [Sink.writeAll, Counted.write_of_ok hwrite]
      exact hrest
    · rw [hheld, hcontent, List.flatten_cons, List.append_assoc]
    · rw [hcounted, List.flatten_cons, List.length_append, Nat.add_assoc]

namespace Template

/-- There is a capacity whatever the hints are, if all of them are there. -/
theorem capacity_of_rehints {t : Template} {v w : Value}
    (hhints : Relation.ReflTransGen (Value.InPlace Value.Rehints) v w) {m : Int}
    (hm : t.capacity v = .ok m) : ∃ n, t.capacity w = .ok n := by
  induction hhints with
  | refl => exact ⟨m, hm⟩
  | tail _ hstep ih => exact Value.hint_of_rehints hstep t.literalSize ih

/-- A render that comes to a text ends without a fault, and its writes are that text. -/
theorem render_of_renderText {t : Template} {convert : Conversion} {v : Value} {text : Text}
    (htext : t.renderText convert v = .ok text) :
    (∃ n, t.capacity v = .ok n) ∧
      t.render convert v = ⟨(t.render convert v).writes, none⟩ ∧
      (t.render convert v).writes.flatten = text := by
  rw [renderText_eq] at htext
  cases hcapacity : t.capacity v with
  | error f =>
    rw [renderWith, scriptWith_of_fault hcapacity] at htext
    cases htext
  | ok n =>
    rw [renderWith_of_capacity hcapacity] at htext
    refine ⟨⟨n, rfl⟩, ?_⟩
    generalize t.render convert v = r at htext
    obtain ⟨writes, _ | f⟩ := r
    · cases htext
      exact ⟨rfl, rfl⟩
    · cases htext

section Finished

variable {t : Template} {convert : Conversion} {v : Value} {writes : List Text} {n : Int}
  (hcapacity : t.capacity v = .ok n) (hrun : t.render convert v = ⟨writes, none⟩)

include hcapacity hrun

/-- A buffer holds the text, its writes one by one, and a capacity that never shrinks. -/
theorem renderTo_buffer (capacity : Int) :
    ∃ b : Buffer, t.renderTo convert v ({ capacity } : Buffer) = (b, none) ∧
      b.text = writes.flatten ∧ b.parts.reverse = writes ∧ b.capacity = max capacity n := by
  refine ⟨⟨writes.reverse, max capacity n⟩, ?_, ?_, ?_, rfl⟩
  · rw [renderTo, renderWith_of_capacity hcapacity, hcapacity, hrun, Run.deliver,
      Buffer.writeAll_eq]
    simp [Sink.announce, Sink.reserve]
  · simp [Buffer.text]
  · simp

/-- A stream that never fails holds the text, and as many characters are counted. -/
theorem renderTo_unfailing {σ : Type} [Sink σ] {good : σ → Prop} {content : σ → Text}
    (hstream : Unfailing good content) {stream : σ} (hgood : good stream)
    (hempty : content stream = []) :
    ∃ c : Counted σ, t.renderTo convert v ({ stream } : Counted σ) = (c, none) ∧
      content c.stream = writes.flatten ∧ c.written = writes.flatten.length := by
  obtain ⟨c, hwrites, hheld, hcounted⟩ := hstream.writeAll (c := { stream }) hgood writes
  have hreserve : Sink.announce ({ stream } : Counted _) (.ok n) = { stream } := rfl
  refine ⟨c, ?_, by rw [hheld, hempty, List.nil_append], by rw [hcounted, Nat.zero_add]⟩
  rw [renderTo, renderWith_of_capacity hcapacity, hcapacity, hreserve, hrun, Run.deliver, hwrites]
  rfl

/-- A writer that refuses nothing has taken all writes. -/
theorem renderInto_of_neverRefuses {σ : Type} {u : Writer σ} (hnever : u.NeverRefuses) (s : σ) :
    t.renderInto convert v (.ofWriter u) s = (u.after writes (u.reserve n s), none) := by
  rw [renderInto_ofWriter, renderBy_of_capacity hcapacity, Run.handTo_of_neverRefuses hnever, hrun]
  rfl

/-- One size, and then the writes. -/
theorem renderInto_journal :
    t.renderInto convert v (.ofWriter .journal) [] =
      (.reserve n :: writes.map .write, none) := by
  rw [renderInto_of_neverRefuses hcapacity hrun Writer.neverRefuses_journal, Writer.after_journal]
  rfl

end Finished

/-- Changed hints change no write and no outcome, nor what an encoder is asked for once it is told a
size, and a sink sees the same whether it is asked for texts only or for entities and numbers too.
And where a render comes to a text, each sink gets this text, in the same writes: a buffer, which
keeps the larger of its own size and the one that it is told; a stream that does not fail, which is
counted; and an encoder that can only write texts, which is told one size, before the first
write. -/
theorem text_of_every_sink (t : Template) (convert : Conversion) {v w : Value}
    (hhints : Relation.ReflTransGen (Value.InPlace Value.Rehints) v w) :
    t.script convert w = t.script convert v ∧ t.render convert w = t.render convert v ∧
    (∀ n, t.capacity w = .ok n → ∀ {σ : Type} (e : Encoder σ) (s : σ),
      t.renderInto convert w e s = t.renderOn (.asking e convert) v (e.reserve n s)) ∧
    (∀ {σ : Type} [Sink σ] (s : σ),
      t.renderInto convert w (.ofWriter (.ofSink σ)) s = t.renderTo convert w s) ∧
    ∀ text, t.renderText convert v = .ok text →
      let writes := (t.render convert v).writes
      writes.flatten = text ∧ ∃ n, t.capacity w = .ok n ∧
      (∀ capacity : Int, ∃ b : Buffer, t.renderTo convert w ({ capacity } : Buffer) = (b, none) ∧
        b.text = text ∧ b.parts.reverse = writes ∧ b.capacity = max capacity n) ∧
      (∀ {σ : Type} [Sink σ] {good : σ → Prop} {content : σ → Text}, Unfailing good content →
        ∀ stream, good stream → content stream = [] →
          ∃ c : Counted σ, t.renderTo convert w ({ stream } : Counted σ) = (c, none) ∧
            content c.stream = text ∧ c.written = text.length) ∧
      t.renderInto convert w (.ofWriter .journal) [] =
        (.reserve n :: writes.map .write, none) ∧
      ∀ {σ : Type} (u : Writer σ), u.NeverRefuses → ∀ s,
        t.renderInto convert w (.ofWriter u) s = (u.after writes (u.reserve n s), none) := by
  have hscript : t.script convert w = t.script convert v :=
    (script_eq_of_shownAlike Value.Rehints.shownAlike hhints t convert).symm
  have hrender : t.render convert w = t.render convert v := by rw [render, render, hscript]
  refine ⟨hscript, hrender, fun n hn σ e s => ?_, fun s => ?_, fun text htext => ?_⟩
  · rw [renderInto_of_capacity hn, renderOn_asking, hscript]
  · rw [renderInto_ofWriter, renderTo_eq_renderBy]
  · obtain ⟨⟨m, hm⟩, hfinished, rfl⟩ := render_of_renderText htext
    obtain ⟨n, hn⟩ := capacity_of_rehints hhints hm
    have hrun : t.render convert w = ⟨(t.render convert v).writes, none⟩ := hrender.trans hfinished
    exact ⟨rfl, n, hn, renderTo_buffer hn hrun,
      fun hstream stream hgood hempty => renderTo_unfailing hn hrun hstream hgood hempty,
      renderInto_journal hn hrun, fun u hnever s => renderInto_of_neverRefuses hn hrun hnever s⟩

/-- A custom value that is held, with a hint of seven and then of nine, for a buffer of eight. -/
theorem text_of_every_sink_held :
    let t : Template := ⟨[⟨Text.of "a", .print true ⟨FieldName.dot, 0⟩⟩, ⟨Text.of "b", .tail⟩]⟩
    let held (hint : Int) : Value := .optional (.custom
      { hint := .ok fun _ => hint, shown := fun _ _ => .ask (.escaped (Text.of "<")) }) true
    let text := Text.of "a&lt;b"
    Relation.ReflTransGen (Value.InPlace Value.Rehints) (held 7) (held 9) ∧
      t.renderText .ok (held 7) = .ok text ∧
      Unfailing (fun s : TextStream => s.limit = none) TextStream.text ∧
      Writer.journal.NeverRefuses ∧
      (∃ b : Buffer, t.renderTo .ok (held 9) ({ capacity := 8 } : Buffer) = (b, none) ∧
        b.text = text ∧ b.capacity = 9) ∧
      (∃ c : Counted TextStream,
        t.renderTo .ok (held 9) ({ stream := {} } : Counted TextStream) = (c, none) ∧
        c.stream.text = text ∧ c.written = 6) ∧
      t.renderInto .ok (held 9) (.ofWriter .journal) [] =
        ([.reserve 9, .write (Text.of "a"), .write (Text.of "&lt;"), .write (Text.of "b")], none) := by
  intro t held text
  have hhints : Relation.ReflTransGen (Value.InPlace Value.Rehints) (held 7) (held 9) :=
    .single (.held true (.here (.custom _ fun _ => 9)))
  have htext : t.renderText .ok (held 7) = .ok text := by decide
  obtain ⟨-, n, hn, hbuffer, hstream, hjournal, -⟩ :=
    (text_of_every_sink t .ok hhints).2.2.2.2 text htext
  obtain ⟨b, hb, hheld, -, hcapacity⟩ := hbuffer 8
  obtain ⟨c, hc, hcontent, hwritten⟩ := hstream TextStream.unfailing {} rfl rfl
  have hnine : t.capacity (held 9) = .ok 9 := by decide
  obtain rfl : 9 = n := Except.ok.inj (hnine.symm.trans hn)
  refine ⟨hhints, htext, TextStream.unfailing, Writer.neverRefuses_journal,
    ⟨b, hb, hheld, hcapacity⟩, ⟨c, hc, hcontent, hwritten⟩, ?_⟩
  rw [hjournal]
  rfl

end Template

end Stencil
