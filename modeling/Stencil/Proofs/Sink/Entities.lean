import Stencil.Proofs.Sink.Prefix
import Stencil.Proofs.Text.Entities
import Stencil.Sink.Encoder
import Stencil.Sink.Operation
import Stencil.Value.Input

namespace Stencil

namespace Input

/-- A text and a marked text are both their own plain form. -/
theorem plain?_toNotation {i : Input} {s : Text} (htext : i.text? = some s) :
    i.toNotation.plain? = some s := by
  cases i with
  | text t => exact htext
  | marked t => exact htext
  | _ => cases htext

theorem toValue_of_text {i : Input} {s : Text} (htext : i.text? = some s) : i.toValue = .text s := by
  cases i with
  | text t => exact congrArg Value.text (Option.some.inj htext)
  | marked t => exact congrArg Value.text (Option.some.inj htext)
  | _ => cases htext

/-- A text is written with entities alike whether or not it is marked, by every operation and every
encoder that leaves this to its writer. What is written has no markup but its entities, one pass
over these gives the text back, and it is the text itself exactly if that has no significant
character. -/
theorem escaped_lossless {i : Input} {s : Text} (htext : i.text? = some s) (convert : Conversion) :
    (Operation.escaped i.toNotation).run convert = .write (Entities.encode s) ∧
      i.toValue.showAs convert .escaped = .write (Entities.encode s) ∧
      i.toValue.showAs convert .unescaped = .write s ∧
      (∀ {σ : Type} (w : Writer σ) (state : σ), (Encoder.ofWriter w).escaped s state =
        ((w.write (Entities.encode s) state).1,
          (w.write (Entities.encode s) state).2.map Failure.sink)) ∧
      Entities.Inert (Entities.encode s) ∧ Entities.decode (Entities.encode s) = s ∧
      (∀ t, Entities.encode (s ++ t) = Entities.encode s ++ Entities.encode t) ∧
      (Entities.encode s = s ↔ ∀ c ∈ s,
        c ≠ '&' ∧ c ≠ '<' ∧ c ≠ '>' ∧ c ≠ Text.doubleQuote ∧ c ≠ Text.singleQuote) := by
  have hshown : ∀ mode, i.toValue.showAs convert mode = (Value.scriptText convert mode s).run := by
    intro mode
    rw [toValue_of_text htext]
    rfl
  have hwritten : (Operation.escaped i.toNotation).run convert = .write (Entities.encode s) := by
    rw [Operation.run, plain?_toNotation htext]
    rfl
  exact ⟨hwritten, (hshown .escaped).trans (Script.run_ask _),
    (hshown .unescaped).trans (Script.run_ask _), fun w state => Run.handTo_write _ w state,
    Entities.inert_encode s, Entities.decode_encode s, Entities.encode_append s,
    Entities.encode_eq_self_iff.trans Entities.plain_iff⟩

/-- A marked text that holds an entity and the beginning of another one, which what follows would
end. -/
theorem escaped_lossless_marked :
    let s := Text.of "<b>&amp;lt; &#3"
    let e := Text.of "&lt;b&gt;&amp;amp;lt; &amp;#3"
    (Input.marked s).text? = some s ∧
      (Operation.escaped (Input.marked s).toNotation).run .ok = .write e ∧
      Entities.Inert e ∧ Entities.decode e = s ∧
      Entities.encode (s ++ Text.of "4;") = e ++ Text.of "4;" := by
  intro s e
  have hencode : Entities.encode s = e := by decide
  obtain ⟨hwritten, -, -, -, hinert, hdecode, happend, -⟩ :=
    escaped_lossless (i := .marked s) rfl .ok
  rw [hencode] at hwritten hinert hdecode happend
  exact ⟨rfl, hwritten, hinert, hdecode, happend _⟩

end Input

end Stencil
