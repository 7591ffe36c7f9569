import Stencil.Proofs.Number.Plain
import Stencil.Proofs.Render.Related
import Stencil.Proofs.Value.Parts
import Stencil.Render.Trace

namespace Stencil

/-- The run with a function applied to each write. -/
def Run.mapWrites (f : Text → Text) (r : Run) : Run := ⟨r.writes.map f, r.fault⟩

theorem Trace.ofShown_mapWrites (r : Run) :
    ofShown (r.mapWrites Entities.encode) = (ofShown r).escape := by
  simp [ofShown, Run.mapWrites, escape, Piece.escape, Function.comp_def]

namespace Value

/-- Neither a custom value, unless it refuses every answer, nor a record with a field that goes
through Markdown. -/
def Builtin : Value → Prop
  | custom c => ∃ f, c = .failing f
  | record table _ => ∀ s ∈ table.specs, s.markdown = false
  | _ => True

theorem builtin_unset (name : Text) : (unset name).Builtin := ⟨_, rfl⟩

/-- A value that is built in asks for nothing in its sections. -/
theorem Builtin.asksOnly {v : Value} (hv : v.Builtin) (convert : Conversion) (Q : Request → Prop) :
    v.AsksOnly convert Q := by
  cases v with
  | custom c =>
    obtain ⟨f, rfl⟩ := hv
    exact ⟨fun _ _ hask => (List.not_mem_nil hask).elim,
      fun _ _ _ _ hask => (List.not_mem_nil hask).elim⟩
  | _ => trivial

/-- To show a value with entities is to show it without them and to write them then. -/
theorem showAs_escaped {v : Value} (hall : v.Everywhere Builtin) (convert : Conversion) :
    v.showAs convert .escaped = (v.showAs convert .unescaped).mapWrites Entities.encode := by
  unfold showAs
  induction v using Value.scriptAs.induct with
  | case1 t => simp only [scriptAs, scriptText, Script.run_ask]; rfl
  | case2 b =>
    have hplain : Entities.Plain (boolText b) := by cases b <;> decide
    simp [scriptAs, Request.run, Run.write, Run.mapWrites, Entities.encode_of_plain hplain]
  | case3 n =>
    have hplain := Entities.encode_of_plain n.plain_toText
    simp only [scriptAs, Script.run_ask, Request.run, Number.text?]
    split
    · simp [Run.writeShort, Run.write, Run.mapWrites, hplain]
    · rfl
  | case4 inner ih => exact ih (hall.part (.held inner true))
  | case5 inner present hpresent =>
    simp only [scriptAs, hpresent, Bool.false_eq_true, if_false]
    rfl
  | case6 inner ih => exact ih (hall.part (.success inner))
  | case7 c =>
    obtain ⟨f, rfl⟩ := hall.self
    rfl
  | case8 inner ih => exact ih (hall.part (.adapted inner))
  | case9 v htext hbool hnumber hoptional hsuccess hcustom hadapted =>
    rw [scriptAs.eq_8 convert .escaped v htext hbool hnumber hoptional hsuccess hcustom hadapted,
      scriptAs.eq_8 convert .unescaped v htext hbool hnumber hoptional hsuccess hcustom hadapted]
    rfl

/-- No field of a built-in value is marked as Markdown. -/
theorem markdown_of_builtin {v : Value} (hall : v.Everywhere Builtin) {hash : Hash} {name : Text}
    {f : Field} (hfield : v.field? hash name = some f) : f.markdown = false := by
  induction v using Value.field?.induct with
  | case1 entries =>
    obtain ⟨w, _, rfl⟩ := Option.map_eq_some_iff.1 hfield
    rfl
  | case2 table attrs =>
    obtain ⟨s, hlookup, rfl⟩ := Option.map_eq_some_iff.1 hfield
    rw [FieldTable.lookup_eq] at hlookup
    exact hall.self s (List.mem_of_find?_eq_some hlookup)
  | case3 inner ih => exact ih (hall.part (.adapted inner)) hfield
  | case4 v hmapping hrecord hadapted => simp [Value.field?] at hfield

/-- The same holds of a field, and of whatever else a variable tag names. -/
theorem showTag_escaped {v : Value} (hall : v.Everywhere Builtin) (convert : Conversion)
    (name : FieldName) :
    v.showTag convert true name = (v.showTag convert false name).mapWrites Entities.encode := by
  unfold showTag
  rcases v.scriptTag_cases name with hself | ⟨c, hown, hanswer⟩ | ⟨f, -, hfield, hvalue⟩ | hnone
  · rw [hself, hself]
    exact showAs_escaped hall convert
  · obtain ⟨f, rfl⟩ := (hall.own hown).self
    rw [hanswer, hanswer]
    rfl
  · have hmarkdown := markdown_of_builtin hall hfield
    have hshown := showAs_escaped (hall.field (fun _ _ _ => builtin_unset _) hfield) convert
    rw [hvalue, hvalue, hmarkdown]
    exact hshown
  · rw [hnone, hnone]
    rfl

end Value

/-- The tag that shows the same without entities. -/
def Block.Tag.unescaped : Block.Tag → Block.Tag
  | .print _ name => .print false name
  | t => t

/-- The block whose variable, if it has one, is shown without entities. -/
def Block.unescaped (b : Block) : Block := { b with tag := b.tag.unescaped }

namespace Interpretation

variable {α : Type}

/-- The steps of a walk over blocks whose variables are all shown without entities. -/
def unescaping (i : Interpretation α) : Interpretation α :=
  { i with shown := fun _ name v => i.shown false name v }

theorem each_unescaping (i : Interpretation α) (body : Value → α) (steps : List (Step Value)) :
    i.unescaping.each body steps = i.each body steps := by
  induction steps with
  | nil => rfl
  | cons step steps ih => cases step <;> rw [each, each, ih] <;> rfl

/-- A tag that shows without entities does what the tag does, as an interpretation sees it that
leaves entities out. -/
theorem tag_unescaped (i : Interpretation α) (body : Nat → Value → α) (t : Block.Tag) (v : Value) :
    i.tag body t.unescaped v = i.unescaping.tag body t v := by
  cases t with
  | opening inverted name children =>
    simp only [Block.Tag.unescaped, tag, nested, each_unescaping]
    rfl
  | _ => rfl

end Interpretation

/-- Walking the blocks without entities is walking them with an interpretation that leaves entities
out. -/
theorem Block.walkOn_unescaped {α : Type} (i : Interpretation α) (bs : List Block)
    (skip count : Nat) (v : Value) :
    walkOn i (bs.map unescaped) skip count v = walkOn i.unescaping bs skip count v := by
  induction bs generalizing skip count v with
  | nil => rfl
  | cons b bs ih =>
    cases count with
    | zero => rw [List.map_cons, walkOn, walkOn]; rfl
    | succ count =>
      cases skip with
      | succ skip => exact ih skip count v
      | zero =>
        have hbody : walkOn i (bs.map unescaped) 0 = walkOn i.unescaping bs 0 := by
          funext children w
          exact ih 0 children w
        have hchildren : b.tag.unescaped.children = b.tag.children := by cases b.tag <;> rfl
        have htag := i.tag_unescaped (walkOn i.unescaping bs 0) b.tag v
        rw [List.map_cons, walkOn, walkOn, ih, hbody]
        simp only [unescaped, hchildren, htag]
        rfl

namespace Template

/-- The template with every variable shown without entities. -/
def unescaped (t : Template) : Template := ⟨t.blocks.map Block.unescaped⟩

/-- Every variable of the template is shown with entities. -/
def EscapesAll (t : Template) : Prop := ∀ b ∈ t.blocks, ∀ name, b.tag ≠ .print false name

/-- The trace of a template remembers where the writes come from, and these are those of the
render. -/
theorem erase_trace (t : Template) (convert : Conversion) (v : Value) :
    (t.trace convert v).erase = t.render convert v := by
  rw [trace, render, ← renderOn_scripts]
  refine renderOn_related (S := fun (a : Trace) (b : Script) => a.erase = b.run) (R := Eq) ?_ rfl
  exact {
    done := rfl
    literal := fun b hb hne => rfl
    fail := fun f => rfl
    andThen := by
      intro a b r q hr hq
      simp only [Interpretation.traces, Interpretation.scripts, Trace.erase_andThen, hr, hq,
        Script.run_andThen]
    shown := by
      rintro b hb escaped name htag v w rfl
      exact Trace.erase_ofShown _
    plan := by
      rintro b hb inverted name children htag v w rfl
      refine .of_refl (fun r => ?_) (fun _ => rfl) _
      exact (Trace.erase_ofShown _).trans (Script.run_ask r).symm }

/-- Asking for entities everywhere is the same as writing them where a variable was
shown without; and literal text is the text of some block either way. -/
theorem trace_eq_escape {t : Template} (hescapes : t.EscapesAll) (convert : Conversion) {v : Value}
    (hall : v.Everywhere Value.Builtin) :
    t.trace convert v = (t.unescaped.trace convert v).escape ∧
      ∀ text, Piece.literal text ∈ (t.trace convert v).pieces → ∃ b ∈ t.blocks, text = b.html := by
  have hunescaped : t.unescaped.trace convert v =
      t.renderOn (Interpretation.traces convert).unescaping v := by
    have hsize : t.unescaped.size = t.size := List.length_map _
    rw [trace, renderOn, hsize]
    exact Block.walkOn_unescaped _ t.blocks 0 t.size v
  rw [hunescaped, trace]
  -- What a section goes on with has to be builtin too, so that goes along with the value.
  refine renderOn_related
    (S := fun (a b : Trace) => a = b.escape ∧
      ∀ text, Piece.literal text ∈ a.pieces → ∃ b ∈ t.blocks, text = b.html)
    (R := fun v w => v = w ∧ v.Everywhere Value.Builtin) ?_ ⟨rfl, hall⟩
  exact {
    done := ⟨rfl, by simp [Interpretation.traces]⟩
    literal := by
      intro b hb hne
      refine ⟨rfl, fun text htext => ⟨b, hb, ?_⟩⟩
      simpa [Interpretation.traces] using htext
    fail := fun f => ⟨rfl, by simp [Interpretation.traces]⟩
    andThen := by
      rintro a b a' b' ⟨rfl, ha⟩ ⟨rfl, hb⟩
      refine ⟨(Trace.escape_andThen a' b').symm, fun text htext => ?_⟩
      rcases Trace.mem_andThen htext with h | h
      · exact ha text h
      · exact hb text h
    shown := by
      rintro b hb escaped name htag v w ⟨rfl, hall⟩
      cases escaped with
      | false => exact absurd htag (hescapes b hb name)
      | true =>
        refine ⟨?_, by simp [Interpretation.traces, Trace.ofShown]⟩
        simp only [Interpretation.traces, Interpretation.unescaping]
        rw [Value.showTag_escaped hall, Trace.ofShown_mapWrites]
    plan := by
      rintro b hb inverted name children htag v w ⟨rfl, hall⟩
      refine .of_forall (fun r hask => ?_) fun u hu =>
        ⟨rfl, hall.tagPlan u hu⟩
      have hnothing : v.Everywhere (Value.AsksOnly convert fun _ => False) :=
        hall.imp fun _ hv => hv.asksOnly convert _
      exact (Value.asks_of_tagPlan hnothing hask).elim }

/-- If every variable is shown with entities, each write is literal text of the template or free of
markup; and without entities the same pieces are written, those of the variables before their
entities are. -/
theorem inert_of_escapesAll {t : Template} (hescapes : t.EscapesAll) (convert : Conversion)
    {v : Value} (hall : v.Everywhere Value.Builtin) :
    (∀ text ∈ (t.render convert v).writes,
      (∃ b ∈ t.blocks, text = b.html) ∨ Entities.Inert text) ∧
    (t.trace convert v).erase = t.render convert v ∧
    (t.unescaped.trace convert v).erase = t.unescaped.render convert v ∧
    t.trace convert v = (t.unescaped.trace convert v).escape := by
  obtain ⟨hescape, hliteral⟩ := trace_eq_escape hescapes convert hall
  refine ⟨fun text htext => ?_, erase_trace t convert v, erase_trace t.unescaped convert v, hescape⟩
  rw [← erase_trace] at htext
  obtain ⟨piece, hpiece, rfl⟩ := List.mem_map.1 htext
  cases piece with
  | literal text => exact .inl (hliteral text hpiece)
  | shown text =>
    right
    rw [hescape] at hpiece
    obtain ⟨before, _, hbefore⟩ := List.mem_map.1 hpiece
    cases before with
    | literal text => cases hbefore
    | shown text =>
      cases hbefore
      exact Entities.inert_encode text

/-- A field of a mapping between literal tags. -/
theorem inert_of_escapesAll_attribute :
    let t : Template := ⟨[⟨Text.of "<a href=", .print true ⟨Text.of "x", 0⟩⟩,
      ⟨Text.of ">", .tail⟩]⟩
    let v : Value := .mapping [(.name (Text.of "x"), .text (Text.of "<&>"))]
    t.EscapesAll ∧ v.Everywhere Value.Builtin ∧
      (t.render .ok v).writes =
        [Text.of "<a href=", Text.of "&lt;&amp;&gt;", Text.of ">"] ∧
      (t.unescaped.render .ok v).writes = [Text.of "<a href=", Text.of "<&>", Text.of ">"] ∧
      ∀ text ∈ (t.render .ok v).writes, (∃ b ∈ t.blocks, text = b.html) ∨ Entities.Inert text := by
  intro t v
  have hescapes : t.EscapesAll := by
    intro b hb name
    simp only [t, List.mem_cons, List.not_mem_nil, or_false] at hb
    rcases hb with rfl | rfl <;> simp
  have hall : v.Everywhere Value.Builtin := by
    refine .mapping trivial fun key w hw => ?_
    simp only [List.mem_singleton, Prod.mk.injEq] at hw
    exact hw.2 ▸ .of_parts trivial fun u hu => by cases hu
  exact ⟨hescapes, hall, by decide, by decide, (inert_of_escapesAll hescapes .ok hall).1⟩

end Template

end Stencil
