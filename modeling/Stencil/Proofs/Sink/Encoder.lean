import Stencil.Proofs.Sink.Prefix
import Stencil.Sink.Encoder

namespace Stencil

namespace Encoder

variable {σ : Type}

/-- Without ways of its own an encoder writes what a request comes to. -/
theorem carryOut_ofWriter (w : Writer σ) (r : Request) (s : σ) :
    (ofWriter w).carryOut r s = r.run.handTo w s := by
  cases r <;> rfl

theorem carryOutAll_ofWriter (w : Writer σ) (rs : List Request) (s : σ) :
    (ofWriter w).carryOutAll rs s = (Run.each Request.run rs).handTo w s := by
  induction rs generalizing s with
  | nil => rfl
  | cons r rs ih =>
    rw [carryOutAll, carryOut_ofWriter, Run.each, Run.handTo_andThen]
    rcases r.run.handTo w s with ⟨s', _ | e⟩
    · exact ih s'
    · rfl

/-- Requests are carried out one after another, up to the first that fails. -/
theorem carryOutAll_append (e : Encoder σ) (rs qs : List Request) (s : σ) :
    e.carryOutAll (rs ++ qs) s =
      match e.carryOutAll rs s with
      | (s', none) => e.carryOutAll qs s'
      | failed => failed := by
  induction rs generalizing s with
  | nil => rfl
  | cons r rs ih =>
    rw [List.cons_append, carryOutAll, carryOutAll]
    rcases e.carryOut r s with ⟨s', _ | f⟩
    · exact ih s'
    · rfl

/-- And so are scripts. -/
theorem handTo_andThen (e : Encoder σ) (a b : Script) (s : σ) :
    (a.andThen b).handTo e s =
      match a.handTo e s with
      | (s', none) => b.handTo e s'
      | failed => failed := by
  obtain ⟨rs, _ | f⟩ := a
  · simp only [Script.andThen, Script.handTo, carryOutAll_append]
    rcases e.carryOutAll rs s with ⟨s', _ | g⟩ <;> rfl
  · simp only [Script.andThen, Script.handTo]
    rcases e.carryOutAll rs s with ⟨s', _ | g⟩ <;> rfl

theorem handTo_ask (e : Encoder σ) (r : Request) (s : σ) :
    (Script.ask r).handTo e s = e.carryOut r s := by
  simp only [Script.ask, Script.handTo, carryOutAll]
  rcases e.carryOut r s with ⟨s', _ | f⟩ <;> rfl

/-- Without ways of its own, an encoder does what a writer does with the run of a script. -/
theorem handTo_ofWriter (a : Script) (w : Writer σ) (s : σ) :
    a.handTo (ofWriter w) s = a.run.handTo w s := by
  rw [Script.handTo, Script.run, carryOutAll_ofWriter, Run.handTo_andThen]
  rcases (Run.each Request.run a.requests).handTo w s with ⟨s', _ | e⟩ <;> rfl

end Encoder

namespace Template

variable {σ : Type}

/-- Each request is made where the walk comes to it, and what comes of that is what comes of the
whole script. -/
theorem renderOn_asking (t : Template) (convert : Conversion) (v : Value) (e : Encoder σ) (s : σ) :
    t.renderOn (.asking e convert) v s = (t.script convert v).handTo e s := by
  have hrelated : Interpretation.Related (.asking e convert) (.scripts convert)
      (fun action a => ∀ s, action s = a.handTo e s) Eq t.blocks := {
    done := fun s => rfl
    literal := fun b hb hne s => (e.handTo_ask (.asIs b.html) s).symm
    fail := fun f s => rfl
    andThen := by
      intro a b r q hr hq s
      simp only [Interpretation.asking, Interpretation.scripts, Encoder.handTo_andThen, ← hr]
      rcases a s with ⟨s', _ | f⟩
      · exact hq s'
      · rfl
    shown := by
      rintro b hb escaped name htag v w rfl s
      rfl
    plan := by
      rintro b hb inverted name children htag v w rfl
      exact .of_refl (fun r s => (e.handTo_ask r s).symm) (fun _ => rfl) _ }
  rw [renderOn_related hrelated rfl, renderOn_scripts]

/-- Whatever its ways are, an encoder is told a size and asked for a script, and the script does not
depend on it. -/
theorem renderInto_eq_handTo (t : Template) (convert : Conversion) (v : Value) (e : Encoder σ)
    (s : σ) :
    t.renderInto convert v e s =
      (t.scriptWith convert v).handTo e (e.announce (t.capacity v) s) := by
  cases hcapacity : t.capacity v with
  | ok n => simp only [renderInto, hcapacity, renderOn_asking, scriptWith_of_capacity hcapacity,
      Writer.announce]
  | error f =>
    simp only [renderInto, hcapacity, scriptWith_of_fault hcapacity]
    rfl

/-- An encoder is told the capacity of the value, and then asked for what the script says. -/
theorem renderInto_of_capacity {t : Template} {v : Value} {n : Int} (hcapacity : t.capacity v = .ok n)
    {convert : Conversion} (e : Encoder σ) (s : σ) :
    t.renderInto convert v e s = (t.script convert v).handTo e (e.reserve n s) := by
  rw [renderInto_eq_handTo, scriptWith_of_capacity hcapacity, hcapacity, Writer.announce]

theorem renderBy_of_capacity {t : Template} {v : Value} {n : Int} (hcapacity : t.capacity v = .ok n)
    {convert : Conversion} (w : Writer σ) (s : σ) :
    t.renderBy convert v w s = (t.render convert v).handTo w (w.reserve n s) := by
  rw [renderBy_eq_handTo, renderWith_of_capacity hcapacity, hcapacity, Writer.announce]

/-- An encoder that can only write texts sees what a writer sees. -/
theorem renderInto_ofWriter (t : Template) (convert : Conversion) (v : Value) (w : Writer σ)
    (s : σ) : t.renderInto convert v (.ofWriter w) s = t.renderBy convert v w s := by
  rw [renderInto_eq_handTo, renderBy_eq_handTo, Encoder.handTo_ofWriter, renderWith]
  rfl

section Congruence

variable {t : Template} {convert : Conversion} {v w : Value}
  (hcapacity : t.capacity v = t.capacity w) (hscript : t.script convert v = t.script convert w)

include hcapacity hscript

/-- Values with the same capacity and the same script are rendered alike into every encoder. -/
theorem renderInto_congr (e : Encoder σ) (s : σ) :
    t.renderInto convert v e s = t.renderInto convert w e s := by
  rw [renderInto_eq_handTo, renderInto_eq_handTo, scriptWith, scriptWith, hcapacity, hscript]

/-- Values with one capacity and one script are rendered alike by every writer. -/
theorem renderBy_congr (writer : Writer σ) (s : σ) :
    t.renderBy convert v writer s = t.renderBy convert w writer s := by
  rw [← renderInto_ofWriter, ← renderInto_ofWriter, renderInto_congr hcapacity hscript]

theorem renderTo_congr [Sink σ] (s : σ) : t.renderTo convert v s = t.renderTo convert w s := by
  rw [renderTo_eq_renderBy, renderTo_eq_renderBy, renderBy_congr hcapacity hscript]

end Congruence

end Template

end Stencil
