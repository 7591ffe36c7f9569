import Stencil.Proofs.Render.Concatenation
import Stencil.Proofs.Render.Meaning

namespace Stencil

/-- The text of runs one after another is that of each, put together. -/
theorem Run.text_each {α : Type} (f : α → Run) (xs : List α) :
    (each f xs).text = (xs.mapM fun x => (f x).text).map List.flatten := by
  induction xs with
  | nil => rfl
  | cons x xs ih =>
    rw [each, text_andThen, ih, List.mapM_cons]
    cases (f x).text with
    | error e => rfl
    | ok t => cases xs.mapM fun x => (f x).text <;> rfl

theorem mapM_mapError {α β ε δ : Type} (f : ε → δ) (g : α → Except ε β) (xs : List α) :
    (xs.mapM fun x => (g x).mapError f) = (xs.mapM g).mapError f := by
  induction xs with
  | nil => rfl
  | cons x xs ih =>
    rw [List.mapM_cons, List.mapM_cons, ih]
    cases g x with
    | error e => rfl
    | ok b => cases xs.mapM g <;> rfl

theorem mapM_congr {α β ε : Type} {f g : α → Except ε β} {xs : List α}
    (hsame : ∀ x ∈ xs, f x = g x) : xs.mapM f = xs.mapM g := by
  induction xs with
  | nil => rfl
  | cons x xs ih =>
    rw [List.forall_mem_cons] at hsame
    rw [List.mapM_cons, List.mapM_cons, hsame.1, ih hsame.2]

namespace Builder

variable {hasher : Hasher} {b : Builder}

/-- The template of a section around what a builder has read. -/
def sectionTemplate (inverted : Bool) (name : FieldName) (b : Builder) : Template :=
  ⟨⟨[], .opening inverted name (b.blocks.toList.length + 1)⟩ ::
    (b.blocks.toList ++ [⟨b.pending.reverse, .closing⟩])⟩

/-- Between the tags of a section everything is read as it is by itself. -/
theorem Reads.inSection {ts : List Token} (hreads : Reads hasher {} ts b) (hopened : b.opened = [])
    {name : FieldName} (hname : name.text ≠ []) (hhash : hasher name.text = some name.hash)
    (inverted : Bool) (width offset : Nat) :
    ∃ c : Builder, c.opened = [] ∧ c.template = b.sectionTemplate inverted name ∧
      Reads hasher {} (.tag ⟨.opening inverted, name.text⟩ 0 ::
        (ts.map (Token.shift width) ++ [.tag ⟨.closing, name.text⟩ offset])) c := by
  let a : Builder := ⟨#[⟨[], .opening inverted name 0⟩], [⟨0, name.text, 0⟩], []⟩
  have hopening : Step hasher {} (.tag ⟨.opening inverted, name.text⟩ 0) a :=
    .opening rfl hname hhash
  have hbody := hreads.behind a width
  rw [behind_start] at hbody
  have hinside : (a.behind width b).opened = [⟨0, name.text, 0⟩] := by
    simp [Builder.behind, hopened, a]
  have hpending : (a.behind width b).pending = b.pending := by
    simp [Builder.behind, a]
  have hblocks : (a.behind width b).blocks.toList =
      [] ++ ⟨[], .opening inverted name 0⟩ :: b.blocks.toList := by
    simp [Builder.behind, a]
  have hclosed := toList_pushClosing hblocks
  rw [hpending, List.length_nil] at hclosed
  refine ⟨⟨(a.behind width b).pushClosing 0, [], []⟩, rfl, ?_, ?_⟩
  · rw [template, finished, if_pos rfl, hclosed]
    rfl
  · exact .cons hopening (hbody.append (.cons (.closing rfl hname hinside rfl) (.nil _)))

/-- The section runs the whole of what stands between its tags for each of its items. -/
theorem script_sectionTemplate (hb : Block.Balanced hasher b.blocks.toList) (inverted : Bool)
    (name : FieldName) (convert : Conversion) (v : Value) :
    (b.sectionTemplate inverted name).script convert v =
      (v.tagPlan convert inverted name).script (b.template.script convert) := by
  have honce : ∀ w, Block.walk convert (b.blocks.toList ++ [⟨b.pending.reverse, .closing⟩]) 0
      (b.blocks.toList.length + 1) w = b.template.script convert w := fun w => by
    rw [hb.walk_body, script_template hb]
  have hsection := Block.walk_section honce [] inverted name 0 v
  rw [Block.walk_zero, Script.andThen_done] at hsection
  have hsize : (b.sectionTemplate inverted name).size = b.blocks.toList.length + 1 + 0 + 1 := by
    simp [Template.size, sectionTemplate]
  rw [Template.script, hsize, sectionTemplate, hsection]
  rfl

end Builder

namespace Template

/-- A name that a section can have directly between its sign and the closing braces, and that leads
to a field. -/
structure SectionName (name : Text) : Prop where
  nonempty : name ≠ []
  closed : Tag.closeBrace ∉ name
  trimmed : name.trim = name
  notDot : name ≠ FieldName.dot
  encodable : name.hasSurrogate = false

/-- A source between the tags of a section, or of an inverse one. -/
def wrapped (inverted : Bool) (name source : Text) : Text :=
  Tag.signed (if inverted then '^' else '#') name ++ (source ++ Tag.signed '/' name)

/-- A sealed source in a section is read as the opening tag, its own tokens moved behind that, and
the closing tag. -/
theorem scan_wrapped {name source : Text} (hname : SectionName name)
    (hsource : Token.Sealed source) (inverted : Bool) :
    ∃ width offset, Token.scan (wrapped inverted name source) =
      .tag ⟨.opening inverted, name⟩ 0 ::
        ((Token.scan source).map (Token.shift width) ++ [.tag ⟨.closing, name⟩ offset]) := by
  have hsign : Tag.Kind.ofSign? (if inverted then '^' else '#') = some (.opening inverted) := by
    cases inverted <;> rfl
  have hopening := Tag.written_signed hsign hname.closed hname.trimmed
    (source ++ Tag.signed '/' name)
  have hend : Tag.Written ⟨.closing, name⟩ (Tag.signed '/' name) [] :=
    Tag.written_signed (by decide) hname.closed hname.trimmed []
  have hclosing : ∀ offset,
      Token.Scans offset (Tag.signed '/' name) [.tag ⟨.closing, name⟩ offset] := by
    intro offset
    have hscans : Token.Scans offset (Tag.signed '/' name ++ []) [.tag ⟨.closing, name⟩ offset] :=
      .tag hend (.nil _)
    rwa [List.append_nil] at hscans
  have hinside : ∀ offset, Token.Scans offset (source ++ Tag.signed '/' name)
      ((Token.scan source).map (Token.shift offset) ++
        [.tag ⟨.closing, name⟩ (offset + source.length)]) :=
    fun offset => hsource.scans_append (hclosing (offset + source.length))
  exact ⟨_, _, Token.scanFrom_eq_iff.2 (.tag hopening (hinside _))⟩

/-- A value that has a name in a map is rendered as its section is. -/
theorem renderText_named {w : Template} {name : Text} (convert : Conversion) (v : Value) :
    w.renderText convert (.mapping [(.name name, v)]) =
      (w.render convert (.mapping [(.name name, v)])).text.mapError .fault := by
  have hcapacity : w.capacity (.mapping [(.name name, v)]) = .ok 0 := by
    simp [capacity, Value.hint]
  rw [renderText_eq, renderWith_of_capacity hcapacity]

/-- A section around a source that can be read by itself compiles. Over a value that the section
runs its body with some values of, it renders what the source renders of each of these, one after
another; and the render fails over every other value, which does not say whether it is true. -/
theorem compile_wrapped {name source : Text} (hname : SectionName name) {t : Template}
    (hsource : SelfContained Hasher.standard source t) (inverted : Bool) :
    ∃ w, compile (wrapped inverted name source) = .ok w ∧
      ∀ v : Value, v.own? = none → (¬ v.Undecided → ∃ vs, v.RunsWith inverted vs) ∧
        (∀ vs, v.RunsWith inverted vs → ∀ convert, (∀ x ∈ vs, ∃ n, t.capacity x = .ok n) →
          w.renderText convert (.mapping [(.name name, v)]) =
            (vs.mapM (t.renderText convert)).map List.flatten) ∧
        ((∀ vs, ¬ v.RunsWith inverted vs) → v.Undecided ∧ ∀ convert, ∃ f,
          w.renderText convert (.mapping [(.name name, v)]) = .error (.fault f)) := by
  obtain ⟨b, hreads, hopened, rfl⟩ := compileWith_eq_ok_iff.1 hsource.compiles
  obtain ⟨hash, hhash⟩ := Option.isSome_iff_exists.1
    ((Hasher.standard_isSome_iff name).2 hname.encodable)
  have hnamed : (⟨name, hash⟩ : FieldName).text ≠ [] := hname.nonempty
  obtain ⟨width, offset, hscan⟩ := scan_wrapped hname hsource.isSealed inverted
  obtain ⟨c, hclosed, hc, hwhole⟩ :=
    hreads.inSection hopened hnamed hhash inverted width offset
  rw [← hscan] at hwhole
  refine ⟨c.template, compileWith_eq_ok_iff.2 ⟨c, hwhole, hclosed, rfl⟩, fun v hplain => ?_⟩
  have hnames : (Value.mapping [(.name name, v)]).Names ⟨name, hash⟩ v :=
    .field hname.notDot (.entry (by simp))
  have hscript : ∀ convert, c.template.script convert (.mapping [(.name name, v)]) =
      (v.plan convert inverted).script (b.template.script convert) := fun convert => by
    rw [hc, Builder.script_sectionTemplate (hreads.balanced hopened),
      Value.tagPlan_of_names hnames]
  refine ⟨(v.runsWith_or_undecided inverted).resolve_right, fun vs hvs convert hhints => ?_,
    fun hnone => ⟨(v.runsWith_or_undecided inverted).resolve_left fun ⟨vs, hvs⟩ => hnone vs hvs,
      fun convert => ?_⟩⟩
  · have honce : ∀ x ∈ vs, b.template.renderText convert x =
        (b.template.render convert x).text.mapError .fault := fun x hx => by
      obtain ⟨n, hn⟩ : ∃ n, b.template.capacity x = .ok n := hhints x hx
      rw [renderText_eq, renderWith_of_capacity hn]
    have hrender : (fun x => (b.template.script convert x).run) = b.template.render convert := rfl
    rw [renderText_named, render, hscript, Value.plan_of_runsWith hplain hvs, Plan.script_bodies,
      Script.run_each, hrender, Run.text_each]
    change _ = (vs.mapM (b.template.renderText convert)).map List.flatten
    rw [mapM_congr honce, mapM_mapError]
    cases vs.mapM fun x => (b.template.render convert x).text <;> rfl
  · have hrefused : ∃ f, v.items inverted = .error f := by
      cases hitems : v.items inverted with
      | ok vs => exact absurd ((v.runsWith_iff inverted vs).2 hitems) (hnone vs)
      | error f => exact ⟨f, rfl⟩
    obtain ⟨f, hf⟩ := hrefused
    refine ⟨f, ?_⟩
    rw [renderText_named, render, hscript, Value.plan, hplain, hf]
    rfl

/-- An inverse section in a section over a list. -/
theorem compile_wrapped_elements :
    let source := Text.of "<\x7b\x7b^.\x7d\x7d-\x7b\x7b/.\x7d\x7d>"
    let t : Template := ⟨[⟨Text.of "<", .opening true ⟨FieldName.dot, 9543377984702455280⟩ 1⟩,
      ⟨Text.of "-", .closing⟩, ⟨Text.of ">", .tail⟩]⟩
    let v : Value := .sequence [.text [], .text (Text.of "a")]
    SectionName (Text.of "x") ∧ SelfContained Hasher.standard source t ∧ v.own? = none ∧
      v.RunsWith false [.text [], .text (Text.of "a")] ∧
      ∃ w, compile (Text.of "\x7b\x7b#x\x7d\x7d" ++ (source ++ Text.of "\x7b\x7b/x\x7d\x7d")) = .ok w ∧
        w.renderText .ok (.mapping [(.name (Text.of "x"), v)]) = .ok (Text.of "<-><>") := by
  intro source t v
  have hscan : Token.scan source = [.char '<', .tag ⟨.opening true, FieldName.dot⟩ 1, .char '-',
      .tag ⟨.closing, FieldName.dot⟩ 8, .char '>'] := by decide
  have hsource : SelfContained Hasher.standard source t := by
    refine ⟨by decide +kernel, by decide, fun name offset htoken => ?_⟩
    rw [hscan] at htoken
    simp at htoken
  have hname : SectionName (Text.of "x") :=
    ⟨by decide, by decide, by decide, by decide, by decide⟩
  have hruns : v.RunsWith false [.text [], .text (Text.of "a")] := .elements _
  obtain ⟨w, hw, hrender⟩ := compile_wrapped hname hsource false
  refine ⟨hname, hsource, rfl, hruns, w, hw, ?_⟩
  rw [(hrender v rfl).2.1 _ hruns .ok fun x hx => by
    simp only [List.mem_cons, List.not_mem_nil, or_false] at hx
    rcases hx with rfl | rfl <;> exact ⟨_, rfl⟩]
  decide

end Template

end Stencil
