import Stencil.Markdown.Convert
import Stencil.Proofs.Render.Faults
import Stencil.Proofs.Render.Related
import Stencil.Render.Sourced

namespace Stencil

/-- With extensions that exist, every text is converted. -/
theorem Markdown.convert_total {extensions : List Text}
    (hknown : ∀ e ∈ extensions, isExtension e = true) (t : Text) :
    ∃ html, convert extensions t = .ok html := by
  have hnone : extensions.find? (fun e => !isExtension e) = none :=
    List.find?_eq_none.2 fun e he => by simp [hknown e he]
  exact ⟨toHtmlWith (readsTables extensions) t, by rw [convert, hnone]⟩

namespace Value

/-- The value is a text, or holds one in wrappers that show it. -/
inductive Holds (t : Text) : Value → Prop where
  | text : Holds t (.text t)
  | optional {inner : Value} (hinner : Holds t inner) : Holds t (.optional inner true)
  | success {inner : Value} (hinner : Holds t inner) : Holds t (.success inner)
  | adapted {inner : Value} (hinner : Holds t inner) : Holds t (.adapted inner)

/-- The value is a record in which the name leads to a field that is shown through Markdown and that
holds this text. -/
inductive MarkedText (name : FieldName) (source : Text) : Value → Prop where
  | record {table : FieldTable} {attrs : List (Text × Value)} {s : FieldSpec}
      (hspec : table.lookup name.hash name.text = some s) (hmarkdown : s.markdown = true)
      (hholds : Holds source (attr attrs s.attr)) : MarkedText name source (.record table attrs)
  | adapted {inner : Value} (hinner : MarkedText name source inner) :
      MarkedText name source (.adapted inner)

/-- No field of the value is shown through Markdown. -/
def Unmarked : Value → Prop
  | record table _ => ∀ s ∈ table.specs, s.markdown = false
  | _ => True

/-- The value is no custom one that asks for a conversion: its answers are the same with each of
them, and it never gives up for want of an extension. -/
def Steady : Value → Prop
  | custom c =>
    (∀ convert convert', c.shown convert = c.shown convert' ∧ c.nested convert = c.nested convert' ∧
      c.fieldShown convert = c.fieldShown convert' ∧
      c.fieldNested convert = c.fieldNested convert') ∧
    ∀ convert name, ¬ c.Raises convert (.unknownExtension name)
  | _ => True

variable {v : Value} {c d : Conversion}

/-- A text is converted, in whatever it is held. -/
theorem Holds.scriptAs_markup {source : Text} (hholds : Holds source v) (c : Conversion) :
    v.scriptAs c .markup = .answer (c source) fun html => .ask (.asIs html) := by
  induction hholds with
  | text => rfl
  | optional _ ih => simpa only [scriptAs, if_true] using ih
  | success _ ih => exact ih
  | adapted _ ih => exact ih

/-- Only for a text that is shown as Markdown does it matter how that is converted. -/
theorem scriptAs_eq_of_not_holds (hsteady : v.Everywhere Steady) (c d : Conversion) {mode : Mode}
    (hnone : mode = .markup → ∀ source, ¬ Holds source v) :
    v.scriptAs c mode = v.scriptAs d mode := by
  induction v using scriptAs.induct with
  | case1 t =>
    cases mode with
    | escaped | unescaped => rfl
    | markup => exact absurd .text (hnone rfl t)
  | case2 | case3 => rfl
  | case4 inner ih =>
    have hinner := ih (hsteady.part (.held inner true))
      fun hmode source hholds => hnone hmode source (.optional hholds)
    simpa only [scriptAs, if_true] using hinner
  | case5 inner present hpresent => simp only [scriptAs, hpresent, Bool.false_eq_true, if_false]
  | case6 inner ih =>
    exact ih (hsteady.part (.success inner))
      fun hmode source hholds => hnone hmode source (.success hholds)
  | case7 content => exact congrFun (hsteady.self.1 c d).1 mode
  | case8 inner ih =>
    exact ih (hsteady.part (.adapted inner))
      fun hmode source hholds => hnone hmode source (.adapted hholds)
  | case9 v htext hbool hnumber hoptional hsuccess hcustom hadapted =>
    rw [scriptAs.eq_8 c mode v htext hbool hnumber hoptional hsuccess hcustom hadapted,
      scriptAs.eq_8 d mode v htext hbool hnumber hoptional hsuccess hcustom hadapted]

theorem keptUnset_steady : Everywhere.KeptUnset Steady := fun _ _ _ =>
  ⟨fun _ _ => ⟨rfl, rfl, rfl, rfl⟩, fun _ _ hraises =>
    nomatch (Stops.raised (f := .unknownExtension _) hraises).of_unset⟩

/-- A name leads to a marked text if it leads to a field marked as Markdown that holds the text. -/
theorem markedText_iff {name : FieldName} {source : Text} :
    MarkedText name source v ↔
      ∃ f, v.field? name.hash name.text = some f ∧ f.markdown = true ∧ Holds source f.value := by
  constructor
  · intro hmarked
    induction hmarked with
    | @record table attrs s hspec hmarkdown hholds =>
      exact ⟨⟨attr attrs s.attr, s.markdown⟩, by simp only [field?, hspec, Option.map_some],
        hmarkdown, hholds⟩
    | adapted _ ih => exact ih
  · rintro ⟨f, hfield, hmarkdown, hholds⟩
    induction v using field?.induct with
    | case1 entries =>
      -- The entries of a mapping are never marked.
      obtain ⟨w, _, rfl⟩ := Option.map_eq_some_iff.1 hfield
      cases hmarkdown
    | case2 table attrs =>
      obtain ⟨s, hspec, rfl⟩ := Option.map_eq_some_iff.1 hfield
      exact .record hspec hmarkdown hholds
    | case3 inner ih => exact .adapted (ih hfield)
    | case4 v hmapping hrecord hadapted =>
      rw [field?.eq_4 _ _ v hmapping hrecord hadapted] at hfield
      cases hfield

/-- A value holds one text at most. -/
theorem Holds.unique {source source' : Text} (hholds : Holds source v) (hholds' : Holds source' v) :
    source = source' := by
  induction hholds with
  | text =>
    cases hholds'
    rfl
  | optional _ ih =>
    cases hholds' with
    | optional hinner => exact ih hinner
  | success _ ih =>
    cases hholds' with
    | success hinner => exact ih hinner
  | adapted _ ih =>
    cases hholds' with
    | adapted hinner => exact ih hinner

/-- A name leads to one text at most. -/
theorem MarkedText.unique {name : FieldName} {source source' : Text}
    (hmarked : MarkedText name source v) (hmarked' : MarkedText name source' v) :
    source = source' := by
  obtain ⟨f, hfield, _, hholds⟩ := markedText_iff.1 hmarked
  obtain ⟨f', hfield', _, hholds'⟩ := markedText_iff.1 hmarked'
  obtain rfl : f = f' := Option.some.inj (hfield.symm.trans hfield')
  exact hholds.unique hholds'

/-- A value that has a field does not answer for its fields itself. -/
theorem own_of_field {hash : Hash} {name : Text} {f : Field} (hfield : v.field? hash name = some f) :
    v.own? = none := by
  induction v using field?.induct with
  | case1 | case2 => rfl
  | case3 inner ih => exact ih hfield
  | case4 v hmapping hrecord hadapted =>
    rw [field?.eq_4 _ _ v hmapping hrecord hadapted] at hfield
    cases hfield

/-- With entities or without, a field that is shown through Markdown is shown alike. -/
theorem scriptTag_of_marked {name : FieldName} (hname : name.isDot = false) {f : Field}
    (hfield : v.field? name.hash name.text = some f) (hmarkdown : f.markdown = true)
    (c : Conversion) (escaped : Bool) : v.scriptTag c escaped name = f.value.scriptAs c .markup := by
  simp only [scriptTag, scriptField, hname, own_of_field hfield, hfield, hmarkdown,
    Bool.false_eq_true, if_false, if_true]

/-- The HTML is written as it is, and at once. -/
theorem MarkedText.showTag {name : FieldName} {source : Text} (hmarked : MarkedText name source v)
    (hname : name.isDot = false) (c : Conversion) (escaped : Bool) :
    v.showTag c escaped name = .answer (c source) .write := by
  obtain ⟨f, hfield, hmarkdown, hholds⟩ := markedText_iff.1 hmarked
  rw [Value.showTag, scriptTag_of_marked hname hfield hmarkdown, hholds.scriptAs_markup,
    Script.run_answer]
  simp only [Script.run_ask, Request.run]

/-- Any other tag shows the same however Markdown is converted. -/
theorem scriptTag_eq_of_not_marked (hsteady : v.Everywhere Steady) (c d : Conversion)
    (escaped : Bool) {name : FieldName}
    (hnone : name.isDot = false → ∀ source, ¬ MarkedText name source v) :
    v.scriptTag c escaped name = v.scriptTag d escaped name := by
  have hplain : Mode.ofTag escaped ≠ .markup := by cases escaped <;> decide
  rcases v.scriptTag_cases name with hself | ⟨content, hown, hanswer⟩ | ⟨f, hdot, hfield, hvalue⟩ |
    hempty
  · rw [hself, hself]
    exact scriptAs_eq_of_not_holds hsteady c d fun hmode => absurd hmode hplain
  · rw [hanswer, hanswer, ((hsteady.own hown).self.1 c d).2.2.1]
  · rw [hvalue, hvalue]
    have hfine := hsteady.field keptUnset_steady hfield
    refine scriptAs_eq_of_not_holds hfine c d fun hmode source hholds => ?_
    have hmarkdown : f.markdown = true := by
      cases hmark : f.markdown with
      | true => rfl
      | false =>
        rw [hmark] at hmode
        exact absurd hmode hplain
    exact hnone hdot source (markedText_iff.2 ⟨f, hfield, hmarkdown, hholds⟩)
  · rw [hempty, hempty]

/-- A section over a steady value does not depend on the conversion. -/
theorem plan_eq_of_steady (hsteady : v.Everywhere Steady) (c d : Conversion) (inverted : Bool) :
    v.plan c inverted = v.plan d inverted := by
  unfold plan
  cases hown : v.own? with
  | some content => simp only [((hsteady.own hown).self.1 c d).2.1]
  | none => rfl

/-- A section does the same however Markdown is converted. -/
theorem tagPlan_eq_of_steady (hsteady : v.Everywhere Steady) (c d : Conversion) (inverted : Bool)
    (name : FieldName) : v.tagPlan c inverted name = v.tagPlan d inverted name := by
  rcases v.tagPlan_cases name with hself | ⟨content, hown, hanswer⟩ | ⟨f, hfield, hvalue⟩ | hnone
  · rw [hself, hself]
    exact plan_eq_of_steady hsteady c d inverted
  · rw [hanswer, hanswer, ((hsteady.own hown).self.1 c d).2.2.2]
  · rw [hvalue, hvalue]
    exact plan_eq_of_steady (hsteady.field keptUnset_steady hfield) c d inverted
  · rw [hnone, hnone]

/-- Without such fields there is nothing to convert at any depth. -/
theorem MarkedText.not_unmarked {name : FieldName} {source : Text}
    (hmarked : MarkedText name source v) : ¬ v.Everywhere Unmarked := by
  induction hmarked with
  | record hspec hmarkdown hholds =>
    intro hall
    rw [FieldTable.lookup_eq] at hspec
    rw [hall.self _ (List.mem_of_find?_eq_some hspec)] at hmarkdown
    cases hmarkdown
  | adapted _ ih => exact fun hall => ih (hall.part (.adapted _))

end Value

/-- The write is the HTML of this source: it is made by a variable tag with the name of a field that
is shown through Markdown and that holds the source. -/
inductive Origin.Converts (source : Text) : Origin → Prop where
  | tag {escaped : Bool} {name : FieldName} {v : Value} (hname : name.isDot = false)
      (hmarked : v.MarkedText name source) : Converts source (.tag escaped name v)

/-- The write can come up when the template is rendered with the value: the variable tag is one of
the template, and what it is come to with is a part of the value, or the section of a custom value
in it is what writes. -/
inductive Origin.Within (t : Template) (root : Value) : Origin → Prop where
  | literal : Within t root .literal
  | tag {b : Block} {escaped : Bool} {name : FieldName} {v : Value} (hb : b ∈ t.blocks)
      (htag : b.tag = .print escaped name) (hpart : Relation.ReflTransGen Value.Part v root) :
      Within t root (.tag escaped name v)
  | nested {content : Content Value}
      (hpart : Relation.ReflTransGen Value.Part (.custom content) root) : Within t root .nested

/-- Two writes from one place, which are the same text unless each is what a conversion makes of
the same source. -/
structure SourcedWrite.SameButHtml (c d : Conversion) (p q : SourcedWrite) : Prop where
  origin : p.origin = q.origin
  html : ∀ source, p.origin.Converts source → c source = .ok p.text ∧ d source = .ok q.text
  kept : (∀ source, ¬ p.origin.Converts source) → p.text = q.text

namespace SourcedRun

/-- The same writes but for HTML, and the same end. -/
structure SameButHtml (c d : Conversion) (a b : SourcedRun) : Prop where
  writes : List.Forall₂ (SourcedWrite.SameButHtml c d) a.writes b.writes
  fault : a.fault = b.fault

variable {c d : Conversion}

theorem SameButHtml.andThen {a a' b b' : SourcedRun} (ha : SameButHtml c d a a')
    (hb : SameButHtml c d b b') : SameButHtml c d (a.andThen b) (a'.andThen b') := by
  unfold SourcedRun.andThen
  rw [← ha.fault]
  cases a.fault with
  | none => exact ⟨List.rel_append ha.writes hb.writes, hb.fault⟩
  | some f => exact ha

/-- A run whose writes are no HTML is the same as itself. -/
theorem sameButHtml_ofRun {origin : Origin} (hnone : ∀ source, ¬ origin.Converts source) (r : Run) :
    SameButHtml c d (ofRun origin r) (ofRun origin r) := by
  refine ⟨List.forall₂_same.2 fun p hp => ⟨rfl, fun source hsource => ?_, fun _ => rfl⟩, rfl⟩
  obtain ⟨t, _, rfl⟩ := List.mem_map.1 hp
  exact absurd hsource (hnone source)

/-- What a variable tag shows with one conversion and with another. -/
theorem sameButHtml_shown (hc : ∀ text, ∃ html, c text = .ok html)
    (hd : ∀ text, ∃ html, d text = .ok html) (escaped : Bool) (name : FieldName) {v : Value}
    (hsteady : v.Everywhere Value.Steady) :
    SameButHtml c d (ofRun (.tag escaped name v) (v.showTag c escaped name))
      (ofRun (.tag escaped name v) (v.showTag d escaped name)) := by
  by_cases hsome : name.isDot = false ∧ ∃ source, v.MarkedText name source
  · obtain ⟨hname, source, hmarked⟩ := hsome
    obtain ⟨html, hhtml⟩ := hc source
    obtain ⟨html', hhtml'⟩ := hd source
    rw [hmarked.showTag hname, hmarked.showTag hname, hhtml, hhtml']
    refine ⟨.cons ⟨rfl, fun source' hconverts => ?_, fun hnone => ?_⟩ .nil, rfl⟩
    · cases hconverts with
      | tag _ hmarked' =>
        obtain rfl := hmarked.unique hmarked'
        exact ⟨hhtml, hhtml'⟩
    · exact absurd (.tag hname hmarked) (hnone source)
  · have hnone : name.isDot = false → ∀ source, ¬ v.MarkedText name source :=
      fun hname source hmarked => hsome ⟨hname, source, hmarked⟩
    rw [Value.showTag, Value.scriptTag_eq_of_not_marked hsteady c d escaped hnone]
    refine sameButHtml_ofRun (fun source hconverts => ?_) _
    cases hconverts with
    | tag hname hmarked => exact hnone hname source hmarked

end SourcedRun

namespace Template

variable {c d : Conversion}

theorem erase_renderSourced (t : Template) (c : Conversion) (v : Value) :
    (t.renderSourced c v).erase = t.render c v := by
  have hrelated : Interpretation.Related (.sourced c) (.scripts c) (fun a b => a.erase = b.run) Eq
      t.blocks := {
    done := rfl
    literal := fun b hb hne => by simp only [Interpretation.scripts, Script.run_ask]; rfl
    fail := fun f => rfl
    andThen := by
      intro a b r q ha hb
      simp only [Interpretation.sourced, Interpretation.scripts, Script.run_andThen, ← ha, ← hb]
      exact SourcedRun.erase_andThen a b
    shown := by
      rintro b hb escaped name htag v w rfl
      exact SourcedRun.erase_ofRun _ _
    plan := by
      rintro b hb inverted name children htag v w rfl
      refine .of_refl (fun r => ?_) (fun _ => rfl) _
      simp only [Interpretation.sourced, Interpretation.scripts, Script.run_ask]
      exact SourcedRun.erase_ofRun _ _ }
  rw [renderSourced, renderOn_related hrelated rfl, renderOn_scripts, render]

theorem renderSourced_sameButHtml (t : Template) (hc : ∀ text, ∃ html, c text = .ok html)
    (hd : ∀ text, ∃ html, d text = .ok html) {v : Value} (hsteady : v.Everywhere Value.Steady) :
    SourcedRun.SameButHtml c d (t.renderSourced c v) (t.renderSourced d v) := by
  have hrelated : Interpretation.Related (.sourced c) (.sourced d) (SourcedRun.SameButHtml c d)
      (fun v w => v = w ∧ v.Everywhere Value.Steady) t.blocks := {
    done := ⟨.nil, rfl⟩
    literal := by
      intro b hb hne
      refine SourcedRun.sameButHtml_ofRun (fun source hconverts => ?_) (.write b.html)
      cases hconverts
    fail := fun f => ⟨.nil, rfl⟩
    andThen := .andThen
    shown := by
      rintro b hb escaped name htag v w ⟨rfl, hall⟩
      exact SourcedRun.sameButHtml_shown hc hd escaped name hall
    plan := by
      rintro b hb inverted name children htag v w ⟨rfl, hall⟩
      have hplan := Value.tagPlan_eq_of_steady hall c d inverted name
      simp only [Interpretation.sourced, ← hplan]
      refine .of_forall (fun r _ => ?_) fun w hw => ⟨rfl, hall.tagPlan w hw⟩
      refine SourcedRun.sameButHtml_ofRun (fun source hconverts => ?_) _
      cases hconverts }
  exact renderOn_related hrelated ⟨rfl, hsteady⟩

theorem within_of_mem_renderSourced (t : Template) (c : Conversion) (root : Value) :
    ∀ p ∈ (t.renderSourced c root).writes, p.origin.Within t root := by
  -- Two equal walks, of which one is looked at: what they go on with comes from the root.
  have hrelated : Interpretation.Related (.sourced c) (.sourced c)
      (fun a _ => ∀ p ∈ a.writes, p.origin.Within t root)
      (fun v w => v = w ∧ Relation.ReflTransGen Value.Part v root) t.blocks := {
    done := nofun
    literal := by
      intro b hb hne p hp
      obtain rfl := List.mem_singleton.1 hp
      exact .literal
    fail := nofun
    andThen := by
      intro a b _ _ ha hb p hp
      simp only [Interpretation.sourced, SourcedRun.andThen] at hp
      split at hp
      · exact (List.mem_append.1 hp).elim (ha p) (hb p)
      · exact ha p hp
    shown := by
      rintro b hb escaped name htag v _ ⟨rfl, hv⟩ p hp
      obtain ⟨text, _, rfl⟩ := List.mem_map.1 hp
      exact .tag hb htag hv
    plan := by
      rintro b hb inverted name children htag v _ ⟨rfl, hv⟩
      have hasks : v.Everywhere (Value.AsksOnly c fun _ =>
          ∃ content, Relation.ReflTransGen Value.Part (.custom content) root) := by
        intro w hw
        cases w with
        | custom content =>
          exact ⟨fun _ _ _ => ⟨content, hw.trans hv⟩, fun _ _ _ _ _ => ⟨content, hw.trans hv⟩⟩
        | _ => trivial
      have hparts : v.Everywhere fun w => Relation.ReflTransGen Value.Part w root :=
        fun w hw => hw.trans hv
      refine .of_forall (fun r hr p hp => ?_) fun w hw => ⟨rfl, (hparts.tagPlan w hw).self⟩
      obtain ⟨content, hcontent⟩ := Value.asks_of_tagPlan hasks hr
      obtain ⟨text, _, rfl⟩ := List.mem_map.1 hp
      exact .nested hcontent }
  exact renderOn_related hrelated ⟨rfl, .refl⟩

/-- Without a field that is shown through Markdown, no conversion is asked for anything. -/
theorem script_eq_of_unmarked (t : Template) {v : Value} (hsteady : v.Everywhere Value.Steady)
    (hunmarked : v.Everywhere Value.Unmarked) (c d : Conversion) : t.script c v = t.script d v := by
  have hrelated : Interpretation.Related (.scripts c) (.scripts d) Eq
      (fun v w => v = w ∧ v.Everywhere Value.Steady ∧ v.Everywhere Value.Unmarked) t.blocks := {
    done := rfl
    literal := fun b hb hne => rfl
    fail := fun f => rfl
    andThen := by
      rintro a b a' b' rfl rfl
      rfl
    shown := by
      rintro b hb escaped name htag v _ ⟨rfl, hall, hnone⟩
      exact Value.scriptTag_eq_of_not_marked hall c d escaped
        fun _ _ hmarked => hmarked.not_unmarked hnone
    plan := by
      rintro b hb inverted name children htag v _ ⟨rfl, hall, hnone⟩
      have hplan := Value.tagPlan_eq_of_steady hall c d inverted name
      simp only [Interpretation.scripts, ← hplan]
      exact .of_forall (fun _ _ => trivial) fun w hw => ⟨rfl, hall.tagPlan w hw, hnone.tagPlan w hw⟩ }
  rw [← renderOn_scripts, ← renderOn_scripts]
  exact renderOn_related hrelated ⟨rfl, hsteady, hunmarked⟩

/-- An unknown extension is a fault of the conversion only. -/
theorem fault_ne_unknownExtension {hasher : Hasher} {source : Text} {t : Template}
    (hcompile : compileWith hasher source = .ok t) (hc : ∀ text, ∃ html, c text = .ok html)
    {v : Value} (hsteady : v.Everywhere Value.Steady) (name : Text) :
    (t.render c v).fault ≠ some (.unknownExtension name) := by
  have hconvert : ∀ text f, c text = .error f → f ≠ .unknownExtension name := by
    intro text f hf
    obtain ⟨html, hhtml⟩ := hc text
    rw [hhtml] at hf
    cases hf
  have hall : v.Everywhere (Value.Within c (fun _ => True) (· ≠ .unknownExtension name)) := by
    refine hsteady.imp fun w hw => ⟨fun _ _ => trivial, ?_⟩
    rintro f hstops rfl
    cases hstops with
    | raised hraises => exact hw.2 c name hraises
  have hwithin : (Block.walk c t.blocks 0 t.blocks.length v).Within _ _ :=
    Block.walk_within hconvert (fits_of_compile hcompile) (Nat.le_refl _) hall
  exact Script.fault_run_ne nofun fun hfault => hwithin.fault _ hfault rfl

/-- Where no custom value asks for a conversion, two conversions that never fail make the same
writes but for those of variable tags with the name of a field that is shown through Markdown and
that holds a text, where each of them writes what it makes of that text, as it is and at once. Such
a field shows the same with entities and without. In a value without one, conversions make no
difference, and an unknown extension is no fault. -/
theorem converts_marked_fields {hasher : Hasher} {input : Text} {t : Template}
    (hcompile : compileWith hasher input = .ok t) {root : Value}
    (hsteady : root.Everywhere Value.Steady) :
    (∀ c d : Conversion, (∀ text, ∃ html, c text = .ok html) → (∀ text, ∃ html, d text = .ok html) →
      (t.renderSourced c root).erase = t.render c root ∧
      (t.renderSourced d root).erase = t.render d root ∧
      SourcedRun.SameButHtml c d (t.renderSourced c root) (t.renderSourced d root) ∧
      ∀ p ∈ (t.renderSourced c root).writes, p.origin.Within t root) ∧
    (∀ (c : Conversion) {v : Value} {name : FieldName} {source : Text}, name.isDot = false →
      v.MarkedText name source → ∀ escaped, v.showTag c escaped name = .answer (c source) .write) ∧
    (∀ (c : Conversion) {v : Value} {name : FieldName} {f : Value.Field}, name.isDot = false →
      v.field? name.hash name.text = some f → f.markdown = true →
      v.showTag c true name = v.showTag c false name) ∧
    (root.Everywhere Value.Unmarked → ∀ c d : Conversion, t.render c root = t.render d root ∧
      ∀ name, (t.render c root).fault ≠ some (.unknownExtension name)) := by
  refine ⟨fun c d hc hd => ?_, fun c v name source hname hmarked escaped => ?_,
    fun c v name f hname hfield hmarkdown => ?_, fun hunmarked c d => ?_⟩
  · exact ⟨erase_renderSourced t c root, erase_renderSourced t d root,
      renderSourced_sameButHtml t hc hd hsteady, within_of_mem_renderSourced t c root⟩
  · exact hmarked.showTag hname c escaped
  · rw [Value.showTag, Value.showTag, Value.scriptTag_of_marked hname hfield hmarkdown,
      Value.scriptTag_of_marked hname hfield hmarkdown]
  · have hsame : ∀ d : Conversion, t.render c root = t.render d root := fun d => by
      rw [render, render, script_eq_of_unmarked t hsteady hunmarked c d]
    refine ⟨hsame d, fun name => ?_⟩
    rw [hsame .ok]
    exact fault_ne_unknownExtension hcompile (fun text => ⟨text, rfl⟩) hsteady name

/-- A record with a field that is shown through Markdown, which a section goes on with too: only the
variable tag with its name converts it. A map of the same name asks for no extension. -/
theorem converts_marked_fields_post :
    let name : FieldName := ⟨Text.of "md", 7⟩
    let input := Text.of "\x7b\x7bmd\x7d\x7d,\x7b\x7b#md\x7d\x7d\x7b\x7b.\x7d\x7d\x7b\x7b/md\x7d\x7d"
    let t : Template := ⟨[⟨[], .print true name⟩, ⟨Text.of ",", .opening false name 2⟩,
      ⟨[], .print true ⟨FieldName.dot, 7⟩⟩, ⟨[], .closing⟩]⟩
    let post : FieldTable := .ofSpecs [⟨Text.of "md", Text.of "md", 7, true⟩]
    let source := Text.of "*a*"
    let root : Value := .record post [(Text.of "md", .optional (.text source) true)]
    let plain : Value := .mapping [(.name (Text.of "md"), .text source)]
    let c := Markdown.convert [Text.of "tables"]
    let d : Conversion := .ok
    compileWith (.constant 7) input = .ok t ∧
      root.Everywhere Value.Steady ∧ plain.Everywhere Value.Steady ∧
      (∀ text, ∃ html, c text = .ok html) ∧ (∀ text, ∃ html, d text = .ok html) ∧
      SourcedRun.SameButHtml c d (t.renderSourced c root) (t.renderSourced d root) ∧
      (t.render c root).writes = [Text.of "<p><em>a</em></p>", Text.of ",", source] ∧
      (t.render d root).writes = [source, Text.of ",", source] ∧
      name.isDot = false ∧ root.MarkedText name source ∧
      root.showTag c true name = .answer (c source) .write ∧
      root.showTag c true name = root.showTag c false name ∧
      plain.Everywhere Value.Unmarked ∧
      t.render (Markdown.convert [Text.of "tags"]) plain = t.render c plain ∧
      (t.render (Markdown.convert [Text.of "tags"]) plain).fault ≠
        some (.unknownExtension (Text.of "tags")) := by
  intro name input t post source root plain c d
  have hcompile : compileWith (.constant 7) input = .ok t := by decide
  have hc : ∀ text, ∃ html, c text = .ok html := by
    refine Markdown.convert_total fun e he => ?_
    obtain rfl := List.mem_singleton.1 he
    decide
  have hd : ∀ text, ∃ html, d text = .ok html := fun text => ⟨text, rfl⟩
  have hname : name.isDot = false := by decide
  have hmarked : root.MarkedText name source := .record rfl rfl (.optional .text)
  have hplain : plain.Everywhere Value.Unmarked :=
    .mapping trivial fun key w hmem => by
      obtain ⟨rfl, rfl⟩ := Prod.mk.inj (List.mem_singleton.1 hmem)
      exact .text trivial
  have hsteady : root.Everywhere Value.Steady :=
    .record trivial fun name w hmem => by
      obtain ⟨rfl, rfl⟩ := Prod.mk.inj (List.mem_singleton.1 hmem)
      refine .of_parts trivial fun u hpart => ?_
      cases hpart
      exact .text trivial
  have hsteady' : plain.Everywhere Value.Steady :=
    .mapping trivial fun key w hmem => by
      obtain ⟨rfl, rfl⟩ := Prod.mk.inj (List.mem_singleton.1 hmem)
      exact .text trivial
  obtain ⟨hruns, htag, hfield, -⟩ := converts_marked_fields hcompile hsteady
  obtain ⟨-, -, hsame, -⟩ := hruns c d hc hd
  obtain ⟨hsame', hfault⟩ := (converts_marked_fields hcompile hsteady').2.2.2 hplain
    (Markdown.convert [Text.of "tags"]) c
  refine ⟨hcompile, hsteady, hsteady', hc, hd, hsame, by decide, by decide, hname, hmarked,
    htag c hname hmarked true,
    hfield c hname rfl rfl, hplain, hsame', hfault _⟩

end Template

end Stencil
