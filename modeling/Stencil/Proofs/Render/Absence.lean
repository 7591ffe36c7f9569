import Stencil.Proofs.Sink.Encoder
import Stencil.Proofs.Render.Replace

namespace Stencil

namespace Value

/-- The values that stand for something that is not there. -/
inductive Missing : Value → Prop where
  | absent : Missing .absent
  | optional (inner : Value) : Missing (.optional inner false)
  | failure (error : Text) : Missing (.failure error)
  | exception (error : Text) : Missing (.exception error)

namespace Missing

variable {v w : Value}

/-- What is missing shows nothing, however it is shown. -/
theorem scriptAs_eq (hv : Missing v) (convert : Conversion) (mode : Mode) :
    v.scriptAs convert mode = .done := by cases hv <;> rfl

theorem own_eq (hv : Missing v) : v.own? = none := by cases hv <;> rfl

theorem truthy_eq (hv : Missing v) : v.truthy = .ok false := by cases hv <;> rfl

theorem sectionItems_eq (hv : Missing v) : v.sectionItems = .ok [] := by cases hv <;> rfl

/-- A name leads nowhere in what is missing. -/
theorem field_eq (hv : Missing v) (hash : Hash) (name : Text) : v.field? hash name = none := by
  cases hv <;> rfl

/-- And it counts nothing. -/
theorem hint_eq (hv : Missing v) (literal : Nat) : v.hint literal = .ok 0 := by
  cases hv <;> simp [hint]

/-- Any two values that are missing answer alike: which of the ways to be missing it is, and the
text of an error, cannot be told. -/
theorem sameAnswers (hv : Missing v) (hw : Missing w) : SameAnswers v w where
  shows convert mode := by rw [hv.scriptAs_eq, hw.scriptAs_eq]
  own := by rw [hv.own_eq, hw.own_eq]
  truthy := by rw [hv.truthy_eq, hw.truthy_eq]
  items := by rw [hv.sectionItems_eq, hw.sectionItems_eq]
  field hash name := by rw [hv.field_eq, hw.field_eq]
  hint literal := by rw [hv.hint_eq, hw.hint_eq]

end Missing

/-- Forgets whether, and by what error, something failed: what is missing may be missing in any
other way, and a success becomes a value that is present. -/
inductive Forgets : Value → Value → Prop where
  | missing {v w : Value} (hv : Missing v) (hw : Missing w) : Forgets v w
  | success (inner : Value) : Forgets (.success inner) (.optional inner true)

/-- A value answers as what stands in its place without its error. -/
theorem Forgets.sameAnswers {v w : Value} (hvw : Forgets v w) : SameAnswers v w := by
  cases hvw with
  | missing hv hw => exact hv.sameAnswers hw
  | success inner =>
    exact {
      shows := fun convert mode => by simp only [scriptAs, if_true]
      own := rfl
      truthy := rfl
      items := rfl
      field := fun hash name => rfl
      hint := fun literal => by simp only [hint, if_true] }

end Value

namespace Template

/-- Whatever is forgotten about failures anywhere in a value, every encoder is told the same size,
is asked for the same and sees the same outcome, and so does every writer and every sink. -/
theorem render_of_forgets {v w : Value}
    (hvw : Relation.ReflTransGen (Value.InPlace Value.Forgets) v w) (t : Template)
    (convert : Conversion) :
    t.capacity v = t.capacity w ∧ t.render convert v = t.render convert w ∧
    (∀ {σ : Type} (e : Encoder σ) (s : σ),
      t.renderInto convert v e s = t.renderInto convert w e s) ∧
    (∀ {σ : Type} [Sink σ] (s : σ), t.renderTo convert v s = t.renderTo convert w s) ∧
    ∀ {σ : Type} (writer : Writer σ) (s : σ),
      t.renderBy convert v writer s = t.renderBy convert w writer s := by
  obtain ⟨hcapacity, hscript⟩ := script_eq_of_inPlace Value.Forgets.sameAnswers hvw t convert
  refine ⟨hcapacity, by rw [render, render, hscript], ?_, ?_, ?_⟩
  · exact renderInto_congr hcapacity hscript
  · exact renderTo_congr hcapacity hscript
  · exact renderBy_congr hcapacity hscript

/-- A failure in a list in a success: the error does not show where the inverse section runs with
the failure itself. -/
theorem render_of_forgets_inverse :
    let t : Template := ⟨[⟨[], .opening false ⟨FieldName.dot, 0⟩ 5⟩,
      ⟨[], .opening false ⟨FieldName.dot, 0⟩ 4⟩, ⟨[], .opening true ⟨FieldName.dot, 0⟩ 2⟩,
      ⟨Text.of "none", .print true ⟨FieldName.dot, 0⟩⟩, ⟨[], .closing⟩, ⟨[], .closing⟩]⟩
    let v : Value := .success (.sequence [.failure (Text.of "secret"), .text (Text.of "a")])
    let w : Value := .optional (.sequence [.absent, .text (Text.of "a")]) true
    Relation.ReflTransGen (Value.InPlace Value.Forgets) v w ∧
      t.render .ok v = t.render .ok w ∧ (t.render .ok w).writes = [Text.of "none"] := by
  intro t v w
  have hsuccess : Value.InPlace Value.Forgets v
      (.optional (.sequence [.failure (Text.of "secret"), .text (Text.of "a")]) true) :=
    .here (.success _)
  have hfailure : Value.InPlace Value.Forgets
      (.optional (.sequence [.failure (Text.of "secret"), .text (Text.of "a")]) true) w :=
    .held true (.element [] _ (.here (.missing (.failure _) .absent)))
  have hvw : Relation.ReflTransGen (Value.InPlace Value.Forgets) v w :=
    .tail (.single hsuccess) hfailure
  exact ⟨hvw, (render_of_forgets hvw t .ok).2.1, by decide⟩

end Template

end Stencil
