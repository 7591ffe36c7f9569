import Mathlib.Logic.Relation
import Stencil.Proofs.Render.Related
import Stencil.Value.Hint

namespace Stencil

namespace Value

/-- Replaces one part of a value, at any depth, by a part that is related to it. -/
inductive InPlace (S : Value → Value → Prop) : Value → Value → Prop where
  | here {v w : Value} (hvw : S v w) : InPlace S v w
  | element {v w : Value} (before after : List Value) (hvw : InPlace S v w) :
      InPlace S (.sequence (before ++ v :: after)) (.sequence (before ++ w :: after))
  | entry {v w : Value} (key : Key) (before after : List (Key × Value)) (hvw : InPlace S v w) :
      InPlace S (.mapping (before ++ (key, v) :: after)) (.mapping (before ++ (key, w) :: after))
  | attr {v w : Value} (table : FieldTable) (name : Text) (before after : List (Text × Value))
      (hvw : InPlace S v w) :
      InPlace S (.record table (before ++ (name, v) :: after))
        (.record table (before ++ (name, w) :: after))
  | held {v w : Value} (present : Bool) (hvw : InPlace S v w) :
      InPlace S (.optional v present) (.optional w present)
  | success {v w : Value} (hvw : InPlace S v w) : InPlace S (.success v) (.success w)
  | adapted {v w : Value} (hvw : InPlace S v w) : InPlace S (.adapted v) (.adapted w)

/-- Two values that answer everything alike. -/
structure SameAnswers (v w : Value) : Prop where
  shows : ∀ convert mode, v.scriptAs convert mode = w.scriptAs convert mode
  own : v.own? = w.own?
  truthy : v.truthy = w.truthy
  items : v.sectionItems = w.sectionItems
  field : ∀ hash name, v.field? hash name = w.field? hash name
  hint : ∀ literal, v.hint literal = w.hint literal

/-- Replacing the value of one key replaces what this key, and no other, leads to. -/
theorem lookup_alike {κ : Type} [BEq κ] {R : Value → Value → Prop} (hrefl : ∀ u, R u u)
    {v w : Value} (hvw : R v w) (before after : List (κ × Value)) (key k : κ) :
    Option.Rel R ((before ++ (key, v) :: after).lookup k)
      ((before ++ (key, w) :: after).lookup k) := by
  induction before with
  | nil =>
    rw [List.nil_append, List.nil_append, List.lookup_cons, List.lookup_cons]
    cases k == key with
    | true => exact .some hvw
    | false => exact optionRel_refl hrefl _
  | cons e before ih =>
    rw [List.cons_append, List.cons_append, List.lookup_cons, List.lookup_cons]
    cases k == e.1 with
    | true => exact optionRel_refl hrefl _
    | false => exact ih

/-- The values are the same, or one part of them is replaced. -/
def Replaced (S : Value → Value → Prop) (v w : Value) : Prop := v = w ∨ InPlace S v w

theorem Replaced.refl {S : Value → Value → Prop} (v : Value) : Replaced S v v := .inl rfl

/-- Two values that answer alike wherever it makes a difference to what is written; what they hand
on to a section may be related values again. -/
structure ShownAlike (S : Value → Value → Prop) (v w : Value) : Prop where
  shows : ∀ convert mode, v.scriptAs convert mode = w.scriptAs convert mode
  own : ∀ convert, Option.Rel (OwnAlike convert (Replaced S)) v.own? w.own?
  truthy : v.truthy = w.truthy
  items : ItemsAlike (Replaced S) v.sectionItems w.sectionItems
  field : ∀ hash name, v.field? hash name = w.field? hash name

/-- Values with the same answers are shown alike. -/
theorem SameAnswers.shownAlike {S : Value → Value → Prop} {v w : Value} (hvw : SameAnswers v w) :
    ShownAlike S v w where
  shows := hvw.shows
  own := fun _ => hvw.own ▸ optionRel_refl (OwnAlike.refl .refl) _
  truthy := hvw.truthy
  items := hvw.items ▸ .of_forall fun _ _ u _ => .refl u
  field := hvw.field

namespace InPlace

variable {S : Value → Value → Prop} {v w : Value}

/-- Replacing values in place changes no hint, if it changes none of the values replaced. -/
theorem hint_eq (hhint : ∀ {v w}, S v w → ∀ literal, v.hint literal = w.hint literal)
    (hvw : InPlace S v w) (literal : Nat) : v.hint literal = w.hint literal := by
  induction hvw with
  | here hvw => exact hhint hvw literal
  | element | entry => simp only [hint]
  | attr table name before after _ ih =>
    simp only [hint, attrHints_eq_map, List.map_append, List.map_cons, ih]
  | held present _ ih => rw [hint, hint, ih]
  | success _ ih => simpa only [hint] using ih
  | adapted _ ih => simpa only [hint] using ih

variable (hsame : ∀ {v w}, S v w → ShownAlike S v w)

include hsame

/-- A value shows what it did with its parts replaced. -/
theorem scriptAs_eq (hvw : InPlace S v w) (convert : Conversion) (mode : Mode) :
    v.scriptAs convert mode = w.scriptAs convert mode := by
  induction hvw with
  | here hvw => exact (hsame hvw).shows convert mode
  | element | entry | attr => rfl
  | held present _ ih => rw [scriptAs, scriptAs, ih]
  | success _ ih => exact ih
  | adapted _ ih => exact ih

/-- The answers of a custom value run with its parts, replaced or not. -/
theorem own_alike (hvw : InPlace S v w) (convert : Conversion) :
    Option.Rel (OwnAlike convert (Replaced S)) v.own? w.own? := by
  induction hvw with
  | here hvw => exact (hsame hvw).own convert
  | element | entry | attr | held | success => exact .none
  | adapted _ ih => exact ih

/-- Whether a value is true does not depend on its parts. -/
theorem truthy_eq (hvw : InPlace S v w) : v.truthy = w.truthy := by
  induction hvw with
  | here hvw => exact (hsame hvw).truthy
  | element before after => exact inhabited_congr (by simp)
  | entry key before after => cases before <;> rfl
  | attr | held | success => rfl
  | adapted _ ih => exact ih

/-- A section runs with the items, each of them replaced or not. -/
theorem sectionItems_alike (hvw : InPlace S v w) :
    ItemsAlike (Replaced S) v.sectionItems w.sectionItems := by
  have hrefl : ∀ vs, List.Forall₂ (Replaced S) vs vs := fun vs =>
    List.forall₂_same.2 fun u _ => .refl u
  have htruthy := hvw.truthy_eq hsame
  induction hvw with
  | here hvw => exact (hsame hvw).items
  | element before after hvw =>
    exact .items (List.rel_append (hrefl before) (.cons (.inr hvw) (hrefl after)))
  -- A mapping or a record goes on with itself, so it is the whole value that is replaced there.
  | entry key before after hvw =>
    exact .ofTruthy (Or.inr (.entry key before after hvw)) htruthy _
  | attr table name before after hvw =>
    exact .ofTruthy (Or.inr (.attr table name before after hvw)) htruthy _
  | held present hvw => exact .items (onceIf_alike (Or.inr hvw) present)
  | success hvw => exact .items (.cons (.inr hvw) .nil)
  | adapted _ ih => exact ih htruthy

/-- A name leads to the field that it led to, replaced or not. -/
theorem field_alike (hvw : InPlace S v w) (hash : Hash) (name : Text) :
    Option.Rel (Field.Alike (Replaced S)) (v.field? hash name) (w.field? hash name) := by
  induction hvw with
  | here hvw =>
    rw [(hsame hvw).field]
    exact optionRel_refl (fun f => ⟨.refl f.value, rfl⟩) _
  | element | held | success => exact .none
  | entry key before after hvw =>
    have hlookup := lookup_alike Replaced.refl (.inr hvw) before after key (.name name)
    simp only [field?]
    generalize (before ++ (key, _) :: after).lookup (.name name) = x at hlookup
    generalize (before ++ (key, _) :: after).lookup (.name name) = y at hlookup
    cases hlookup with
    | none => exact .none
    | some hvalue => exact .some ⟨hvalue, rfl⟩
  | attr table attrName before after hvw =>
    simp only [field?]
    cases table.lookup hash name with
    | none => exact .none
    | some s =>
      have hlookup := lookup_alike Replaced.refl (.inr hvw) before after attrName s.attr
      refine .some ⟨?_, rfl⟩
      simp only [Value.attr]
      generalize (before ++ (attrName, _) :: after).lookup s.attr = x at hlookup ⊢
      generalize (before ++ (attrName, _) :: after).lookup s.attr = y at hlookup ⊢
      cases hlookup with
      | none => exact .refl (unset s.attr)
      | some hvalue => exact hvalue
  | adapted _ ih => exact ih

/-- No tag can tell a value from the one with parts replaced. -/
theorem bisimulation (convert : Conversion) :
    Bisimulation convert (fun _ => True) (Replaced S) := by
  rintro v w (rfl | hvw)
  · exact .refl .refl v
  · exact {
      shows := hvw.scriptAs_eq hsame convert
      own := hvw.own_alike hsame convert
      items := .ofSection (.inr hvw) (hvw.truthy_eq hsame) (hvw.sectionItems_alike hsame)
      field := fun {name} _ => hvw.field_alike hsame name.hash name.text }

end InPlace

end Value

namespace Template

variable {S : Value → Value → Prop} {v w : Value}

/-- Parts that show the same may be replaced one after another: the template asks for the same. -/
theorem script_eq_of_shownAlike (hsame : ∀ {v w}, S v w → Value.ShownAlike S v w)
    (hvw : Relation.ReflTransGen (Value.InPlace S) v w) (t : Template) (convert : Conversion) :
    t.script convert v = t.script convert w := by
  induction hvw with
  | refl => rfl
  | tail _ hstep ih =>
    refine ih.trans ?_
    exact script_eq_of_bisimulation (Value.InPlace.bisimulation hsame convert)
      (fun _ _ _ _ => trivial) (.inr hstep)

/-- Parts that give the same answers may be replaced one after another: the capacity is the same,
and the template asks for the same. -/
theorem script_eq_of_inPlace (hsame : ∀ {v w}, S v w → Value.SameAnswers v w)
    (hvw : Relation.ReflTransGen (Value.InPlace S) v w) (t : Template) (convert : Conversion) :
    t.capacity v = t.capacity w ∧ t.script convert v = t.script convert w := by
  refine ⟨?_, script_eq_of_shownAlike (fun h => (hsame h).shownAlike) hvw t convert⟩
  induction hvw with
  | refl => rfl
  | tail _ hstep ih => exact ih.trans (hstep.hint_eq (fun h => (hsame h).hint) t.literalSize)

end Template

end Stencil
