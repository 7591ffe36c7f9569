import Stencil.Proofs.Record.Table
import Stencil.Proofs.Render.Replace
import Stencil.Proofs.Sink.Encoder
import Stencil.Proofs.Value.Hint

namespace Stencil

namespace Value

/-- Two values of one shape that agree on what some names lead to, at every depth. Maps may have
different entries under other names as long as both or neither are empty; records of one type may
have different attributes where the field is hidden or has another name in templates. -/
inductive AgreeOn (names : Text → Prop) : Value → Value → Prop where
  | same (v : Value) : AgreeOn names v v
  | sequence {vs ws : List Value} (hlength : vs.length = ws.length)
      (hitems : ∀ p ∈ vs.zip ws, AgreeOn names p.1 p.2) :
      AgreeOn names (.sequence vs) (.sequence ws)
  | mapping {es fs : List (Key × Value)} (hempty : es = [] ↔ fs = [])
      (hpresent : ∀ n, names n →
        ((es.lookup (.name n)).isSome = true ↔ (fs.lookup (.name n)).isSome = true))
      (hentry : ∀ n, names n → ∀ v w, es.lookup (.name n) = some v → fs.lookup (.name n) = some w →
        AgreeOn names v w) :
      AgreeOn names (.mapping es) (.mapping fs)
  | record {hasher : Hasher} {type : Text} {fields : List FieldDecl} {table : FieldTable}
      {attrs others : List (Text × Value)}
      (hbuild : RecordType.buildTable hasher type (some fields) = .ok table)
      (hattr : ∀ f ∈ fields, f.skip = false → names f.templateName →
        AgreeOn names (attr attrs f.name) (attr others f.name)) :
      AgreeOn names (.record table attrs) (.record table others)
  | optional {v w : Value} (present : Bool) (hinner : AgreeOn names v w) :
      AgreeOn names (.optional v present) (.optional w present)
  | success {v w : Value} (hinner : AgreeOn names v w) : AgreeOn names (.success v) (.success w)
  | adapted {v w : Value} (hinner : AgreeOn names v w) : AgreeOn names (.adapted v) (.adapted w)

namespace AgreeOn

variable {names : Text → Prop} {v w : Value}

/-- Values that agree on the names are shown alike. -/
theorem scriptAs_eq (hvw : AgreeOn names v w) (convert : Conversion) (mode : Mode) :
    v.scriptAs convert mode = w.scriptAs convert mode := by
  induction hvw with
  | same | sequence | mapping | record => rfl
  | optional present _ ih => rw [scriptAs, scriptAs, ih]
  | success _ ih => exact ih
  | adapted _ ih => exact ih

theorem own_eq (hvw : AgreeOn names v w) : v.own? = w.own? := by
  induction hvw with
  | same | sequence | mapping | record | optional | success => rfl
  | adapted _ ih => exact ih

/-- And are true alike: no mapping becomes empty, or ceases to be. -/
theorem truthy_eq (hvw : AgreeOn names v w) : v.truthy = w.truthy := by
  induction hvw with
  | same | record | optional | success => rfl
  | sequence hlength => exact inhabited_congr hlength
  | @mapping es fs hempty =>
    have hisEmpty : es.isEmpty = fs.isEmpty := by
      rw [Bool.eq_iff_iff, List.isEmpty_iff, List.isEmpty_iff, hempty]
    rw [truthy, truthy, hisEmpty]
  | adapted _ ih => exact ih

theorem sectionItems_alike (hvw : AgreeOn names v w) :
    ItemsAlike (AgreeOn names) v.sectionItems w.sectionItems := by
  have htruthy := hvw.truthy_eq
  induction hvw with
  | same v => exact .of_forall fun _ _ u _ => .same u
  | sequence hlength hitems =>
    exact .items (List.forall₂_iff_zip.2 ⟨hlength, fun hp => hitems _ hp⟩)
  -- A mapping or a record goes on with itself.
  | mapping hempty hpresent hentry =>
    exact .ofTruthy (AgreeOn.mapping hempty hpresent hentry) htruthy _
  | record hbuild hattr => exact .ofTruthy (AgreeOn.record hbuild hattr) htruthy _
  | optional present hinner => exact .items (onceIf_alike hinner present)
  | success hinner => exact .items (.cons hinner .nil)
  | adapted _ ih => exact ih htruthy

/-- A name that is asked for leads to fields that agree, or to none in both values. -/
theorem field_alike (hvw : AgreeOn names v w) {name : Text} (hname : names name) (hash : Hash) :
    Option.Rel (Field.Alike (AgreeOn names)) (v.field? hash name) (w.field? hash name) := by
  induction hvw with
  | same v => exact optionRel_refl (fun f => ⟨.same f.value, rfl⟩) _
  | sequence | optional | success => exact .none
  | @mapping es fs hempty hpresent hentry =>
    have hboth := hpresent name hname
    simp only [field?]
    cases hes : es.lookup (.name name) with
    | none =>
      cases hfs : fs.lookup (.name name) with
      | none => exact .none
      | some w => simp [hes, hfs] at hboth
    | some v =>
      cases hfs : fs.lookup (.name name) with
      | none => simp [hes, hfs] at hboth
      | some w => exact .some ⟨hentry name hname v w hes hfs, rfl⟩
  | @record hasher type fields table attrs others hbuild hattr =>
    simp only [field?, FieldTable.lookup_eq]
    cases hspec : table.specs.find? fun s => s.hash == hash && s.name == name with
    | none => exact .none
    | some s =>
      -- The field that is found has the name that is asked for, and it is not a hidden one.
      have hfound := List.find?_some hspec
      simp only [Bool.and_eq_true, beq_iff_eq] at hfound
      obtain ⟨_, ⟨⟩, hshows⟩ := RecordType.shows_of_buildTable hbuild
      obtain ⟨f, hf, hvisible, htemplate, hfield⟩ :=
        hshows.declared (List.mem_of_find?_eq_some hspec)
      have hasked : names f.templateName := by
        rw [htemplate, hfound.2]
        exact hname
      have hagree := hattr f hf hvisible hasked
      rw [hfield] at hagree
      exact .some ⟨hagree, rfl⟩
  | adapted _ ih => exact ih

/-- A tag with one of the names cannot tell such values apart. -/
theorem bisimulation (names : Text → Prop) (convert : Conversion) :
    Bisimulation convert (fun name => names name.text) (AgreeOn names) := fun hvw => {
  shows := hvw.scriptAs_eq convert
  own := by
    rw [hvw.own_eq]
    exact optionRel_refl (OwnAlike.refl .same) _
  items := .ofSection hvw hvw.truthy_eq hvw.sectionItems_alike
  field := fun hname => hvw.field_alike hname _ }

end AgreeOn

/-- Values that agree on every name differ in hidden attributes only, which no hint counts. -/
theorem AgreeOn.hint_eq {v w : Value} (hvw : AgreeOn (fun _ => True) v w) (literal : Nat) :
    v.hint literal = w.hint literal := by
  induction hvw with
  | same => rfl
  | sequence | mapping => simp only [hint]
  | @record hasher type fields table attrs others hbuild hattr ih =>
    have hspec : ∀ s ∈ table.specs,
        (attr attrs s.attr).hint literal = (attr others s.attr).hint literal := by
      intro s hs
      obtain ⟨_, ⟨⟩, hshows⟩ := RecordType.shows_of_buildTable hbuild
      obtain ⟨f, hf, hvisible, -, hfield⟩ := hshows.declared hs
      have hsame := ih f hf hvisible trivial
      rwa [hfield] at hsame
    rw [hint_record, hint_record, List.map_congr_left hspec]
  | optional present _ ih => rw [hint, hint, ih]
  | success _ ih => simpa only [hint] using ih
  | adapted _ ih => simpa only [hint] using ih

end Value

namespace Template

/-- The names in the tags of the template. -/
def Named (t : Template) (name : Text) : Prop :=
  ∃ b ∈ t.blocks, ∃ n, b.tag.name? = some n ∧ n.text = name

end Template

end Stencil
