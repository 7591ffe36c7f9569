import Stencil.Config.Basic
import Stencil.Proofs.Config.Expansion
import Stencil.Proofs.Text.Order

namespace Stencil

namespace Data

/-- Data with its references replaced, where they have a value. -/
def filled (env : Environment) (d : Data) : Data := d.mapTexts (Reference.filled env)

end Data

namespace Config

open Reference

/-- Entries whose keys are texts. -/
def keyed (es : List (Text × Data)) : List (Scalar × Data) := es.map fun e => (.text e.1, e.2)

/-- Looking for a key finds what it found before all keys and all data were replaced. -/
theorem lookup_map {α β γ δ : Type} [BEq α] [LawfulBEq α] [BEq γ] [LawfulBEq γ] {g : α → γ}
    (hg : Function.Injective g) (f : β → δ) (es : List (α × β)) (a : α) :
    (es.map fun e => (g e.1, f e.2)).lookup (g a) = (es.lookup a).map f := by
  induction es with
  | nil => rfl
  | cons e es ih =>
    have hkey : (g a == g e.1) = (a == e.1) := by
      rw [Bool.eq_iff_iff, beq_iff_eq, beq_iff_eq, hg.eq_iff]
    rw [List.map_cons, List.lookup_cons, List.lookup_cons, hkey, ih]
    cases a == e.1 <;> rfl

theorem lookup_keyed (es : List (Text × Data)) (name : Text) :
    (keyed es).lookup (.text name) = es.lookup name := by
  have hlookup := lookup_map (fun _ _ => Scalar.text.inj) id es name
  rwa [Option.map_id_fun, id_eq] at hlookup

/-- The keys that are no section, as they come. -/
def unknown (es : List (Text × Data)) : List Text :=
  (es.map Prod.fst).filter fun k => k ≠ outputName ∧ k ≠ markdownName

/-- Of keys that are texts the unknown ones can be listed. -/
theorem unknownKeys_keyed (es : List (Text × Data)) :
    unknownKeys (keyed es) = .ok (unknown es) := by
  induction es with
  | nil => rfl
  | cons e es ih =>
    have hrest : unknownKeys (es.map fun e => (.text e.1, e.2)) = .ok (unknown es) := ih
    rw [keyed, List.map_cons, unknownKeys, hrest]
    simp only [Except.map, unknown, List.map_cons, List.filter_cons]
    by_cases hknown : e.1 = outputName ∨ e.1 = markdownName
    · rw [if_pos hknown]
      rcases hknown with hknown | hknown <;> simp [hknown]
    · rw [if_neg hknown]
      rw [not_or] at hknown
      simp [hknown]

theorem checkKeys_of_known {es : List (Text × Data)} (hknown : unknown es = []) :
    checkKeys (keyed es) = .ok () := by
  rw [checkKeys, unknownKeys_keyed, hknown]

/-- They are reported in order, whatever else is wrong. -/
theorem checkKeys_of_unknown {es : List (Text × Data)} (hunknown : unknown es ≠ []) :
    checkKeys (keyed es) = .error (.unknownSections ((unknown es).mergeSort Text.le)) := by
  rw [checkKeys, unknownKeys_keyed]
  cases hkeys : unknown es with
  | nil => exact absurd hkeys hunknown
  | cons k ks => rfl

/-- The variables without a value in all the data, in depth-first order. -/
def unset (env : Environment) (es : List (Text × Data)) : List Text :=
  es.flatMap fun e => e.2.texts.flatMap (Reference.unset env)

/-- The entries with their references replaced. -/
def filled (env : Environment) (es : List (Text × Data)) : List (Text × Data) :=
  es.map fun e => (e.1, e.2.filled env)

/-- Expanding leaves keys as they are. -/
theorem expandEntries_keyed (env : Environment) (es : List (Text × Data)) :
    Data.expandEntries env (keyed es) = verdict (unset env es) (keyed (filled env es)) := by
  rw [Data.expandEntries_eq, Data.entryTexts_eq_flatMap, Data.mapEntries_eq_map]
  simp [keyed, unset, filled, Data.filled, List.flatMap_map, List.flatMap_assoc, Function.comp_def]

/-- The data of a key in a section, if there is such a section and such a key. -/
def setting (name key : Text) (es : List (Text × Data)) : Option Data :=
  match es.lookup name with
  | some (.mapping entries) => entries.lookup (.text key)
  | _ => none

/-- A setting is expanded in its place. -/
theorem setting_filled (env : Environment) (es : List (Text × Data)) (name key : Text) :
    setting name key (filled env es) = (setting name key es).map (Data.filled env) := by
  unfold setting
  have hlookup : (filled env es).lookup name = (es.lookup name).map (Data.filled env) :=
    lookup_map (fun _ _ => id) (Data.filled env) es name
  rw [hlookup]
  cases es.lookup name with
  | none => rfl
  | some d =>
    cases d with
    | scalar s => cases s <;> rfl
    | list items => rfl
    | mapping entries =>
      simp only [Option.map_some, Data.filled, Data.mapTexts, Data.mapEntries_eq_map]
      exact lookup_map (fun _ _ => id) (Data.mapTexts (Reference.filled env)) entries (.text key)

/-- There is such a section, which is neither falsy nor a mapping. -/
def Misplaced (name : Text) (es : List (Text × Data)) : Prop :=
  ∃ d, es.lookup name = some d ∧ d.isFalsy = false ∧ ∀ entries, d ≠ .mapping entries

/-- A section that is neither false nor a mapping is refused by its name. -/
theorem sectionOf_of_misplaced {name : Text} {es : List (Text × Data)}
    (hmisplaced : Misplaced name es) : sectionOf name (keyed es) = .error (.notAMapping name) := by
  obtain ⟨d, hlookup, hfalsy, hmapping⟩ := hmisplaced
  rw [sectionOf, lookup_keyed, hlookup]
  cases d with
  | mapping entries => exact absurd rfl (hmapping entries)
  | scalar s => simp only [hfalsy, Bool.false_eq_true, if_false]
  | list items => simp only [hfalsy, Bool.false_eq_true, if_false]

/-- Any other section gives entries, and the settings of the section are looked up among them. -/
theorem sectionOf_of_not_misplaced {name : Text} {es : List (Text × Data)}
    (hplaced : ¬ Misplaced name es) :
    ∃ entries, sectionOf name (keyed es) = .ok entries ∧
      ∀ key, entries.lookup (.text key) = setting name key es := by
  unfold sectionOf setting
  rw [lookup_keyed]
  cases hlookup : es.lookup name with
  | none => exact ⟨[], rfl, fun _ => rfl⟩
  | some d =>
    have hfalsy (hmapping : ∀ entries, d ≠ .mapping entries) : d.isFalsy = true := by
      by_contra hfalsy
      exact hplaced ⟨d, hlookup, by simpa using hfalsy, hmapping⟩
    cases d with
    | mapping entries => exact ⟨entries, rfl, fun _ => rfl⟩
    | scalar s => exact ⟨[], by simp only [hfalsy (by simp), if_true], fun _ => rfl⟩
    | list items => exact ⟨[], by simp only [hfalsy (by simp), if_true], fun _ => rfl⟩

/-- The entries get through to the names of extensions. -/
structure Admitted (env : Environment) (es : List (Text × Data)) : Prop where
  known : unknown es = []
  resolved : unset env es = []
  output : ¬ Misplaced outputName (filled env es)
  markdown : ¬ Misplaced markdownName (filled env es)

def pathKey : Text := Text.of "path"

def encodingKey : Text := Text.of "encoding"

def extensionsKey : Text := Text.of "extensions"

/-- What is said about extensions, with the references replaced; null if nothing is said. -/
def extensionsOf (env : Environment) (es : List (Text × Data)) : Data :=
  ((setting markdownName extensionsKey es).map (Data.filled env)).getD .null

/-- The first stage: unknown keys. -/
theorem ofEntries_of_unknown {es : List (Text × Data)} (hunknown : unknown es ≠ [])
    (env : Environment) :
    ofEntries env (keyed es) = .error (.unknownSections ((unknown es).mergeSort Text.le)) := by
  rw [ofEntries, checkKeys_of_unknown hunknown]
  rfl

section

variable {env : Environment} {es : List (Text × Data)}

/-- The second stage: a variable that is not set, anywhere in the data. -/
theorem ofEntries_of_unset (hknown : unknown es = []) {n : Text} {ns : List Text}
    (hunset : unset env es = n :: ns) : ofEntries env (keyed es) = .error (.unset n) := by
  rw [ofEntries, checkKeys_of_known hknown, expandEntries_keyed, hunset]
  rfl

/-- Once the references are replaced, the sections are looked at and then the extensions. -/
theorem ofEntries_of_resolved (hknown : unknown es = []) (hresolved : unset env es = []) :
    ofEntries env (keyed es) = do
      let output ← sectionOf outputName (keyed (filled env es))
      let markdown ← sectionOf markdownName (keyed (filled env es))
      let extensions ← namesOf (entryOr .null "extensions" markdown)
      return { path := entryOr .null "path" output
               charset := entryOr (Data.text (Text.of "utf-8")) "encoding" output
               extensions } := by
  rw [ofEntries, checkKeys_of_known hknown, expandEntries_keyed, hresolved]
  rfl

/-- The third stage: an output section of the wrong form. -/
theorem ofEntries_of_output (hknown : unknown es = []) (hresolved : unset env es = [])
    (houtput : Misplaced outputName (filled env es)) :
    ofEntries env (keyed es) = .error (.notAMapping outputName) := by
  rw [ofEntries_of_resolved hknown hresolved, sectionOf_of_misplaced houtput]
  rfl

/-- The fourth stage: a Markdown section of the wrong form. -/
theorem ofEntries_of_markdown (hknown : unknown es = []) (hresolved : unset env es = [])
    (houtput : ¬ Misplaced outputName (filled env es))
    (hmarkdown : Misplaced markdownName (filled env es)) :
    ofEntries env (keyed es) = .error (.notAMapping markdownName) := by
  obtain ⟨output, hsection, -⟩ := sectionOf_of_not_misplaced houtput
  rw [ofEntries_of_resolved hknown hresolved, hsection, sectionOf_of_misplaced hmarkdown]
  rfl

/-- Of entries that are admitted only three settings count. -/
theorem ofEntries_of_admitted (hadmitted : Admitted env es) :
    ofEntries env (keyed es) = (namesOf (extensionsOf env es)).map fun names =>
      { path := ((setting outputName pathKey es).map (Data.filled env)).getD .null
        charset := ((setting outputName encodingKey es).map (Data.filled env)).getD
          (Data.text (Text.of "utf-8"))
        extensions := names } := by
  obtain ⟨output, houtput, hsettings⟩ := sectionOf_of_not_misplaced hadmitted.output
  obtain ⟨markdown, hmarkdown, hextensions⟩ := sectionOf_of_not_misplaced hadmitted.markdown
  have hentry (d : Data) (key : String) :
      entryOr d key output =
        ((setting outputName (Text.of key) es).map (Data.filled env)).getD d := by
    rw [entryOr, hsettings, setting_filled]
  have hnames : entryOr .null "extensions" markdown = extensionsOf env es := by
    rw [entryOr, hextensions, setting_filled, extensionsOf, extensionsKey]
  have hreturn (names : Except ConfigError (List Text)) (f : List Text → Config) :
      (do let ns ← names
          return f ns) = names.map f := by
    cases names <;> rfl
  rw [ofEntries_of_resolved hadmitted.known hadmitted.resolved, houtput, hmarkdown, ← hnames,
    pathKey, encodingKey, ← hentry, ← hentry]
  exact hreturn _ _

end

theorem text?_eq_some_iff {d : Data} {t : Text} : d.text? = some t ↔ d = .text t := by
  constructor
  · intro htext
    unfold Data.text? at htext
    split at htext
    · cases htext
      rfl
    · cases htext
  · rintro rfl
    rfl

theorem mapM_text?_eq_some_iff {items : List Data} {names : List Text} :
    items.mapM Data.text? = some names ↔ items = names.map Data.text := by
  induction items generalizing names with
  | nil => cases names <;> simp
  | cons d ds ih =>
    simp only [List.mapM_cons, Option.bind_eq_bind, Option.bind_eq_some_iff, text?_eq_some_iff, ih,
      Option.pure_def, Option.some.injEq]
    constructor
    · rintro ⟨t, rfl, ts, rfl, rfl⟩
      rfl
    · cases names with
      | nil => simp
      | cons n names =>
        intro hitems
        obtain ⟨rfl, rfl⟩ := List.cons.inj hitems
        exact ⟨n, rfl, names, rfl, rfl⟩

/-- The names that are given: none by null, and those of a list of texts. -/
inductive Named : Data → List Text → Prop where
  | null : Named .null []
  | list (names : List Text) : Named (.list (names.map Data.text)) names

theorem namesOf_of_texts {d : Data} {names : List Text}
    (hlisted : listed? d = some (names.map Data.text)) : namesOf d = .ok names := by
  rw [namesOf, hlisted]
  simp only [mapM_text?_eq_some_iff.2 rfl]

/-- Extensions that are named are the names. -/
theorem namesOf_of_named {d : Data} {names : List Text} (hnamed : Named d names) :
    namesOf d = .ok names := by
  cases hnamed with
  | null => rfl
  | list names => exact namesOf_of_texts rfl

/-- The stages in order, each with the entries that fail in it and what they fail with, and the
configuration of the entries that fail in none. -/
structure Staged (env : Environment) (es : List (Text × Data)) : Prop where
  unknown : unknown es ≠ [] → ∃ names, names.Perm (unknown es) ∧ Text.Sorted names ∧
    ∀ env' es', (Config.unknown es').Perm (Config.unknown es) →
      ofEntries env' (keyed es') = .error (.unknownSections names)
  unset : Config.unknown es = [] → ∀ n ns, unset env es = n :: ns →
    ofEntries env (keyed es) = .error (.unset n)
  output : Config.unknown es = [] → Config.unset env es = [] →
    Misplaced outputName (filled env es) →
      ofEntries env (keyed es) = .error (.notAMapping outputName)
  markdown : Config.unknown es = [] → Config.unset env es = [] →
    ¬ Misplaced outputName (filled env es) → Misplaced markdownName (filled env es) →
      ofEntries env (keyed es) = .error (.notAMapping markdownName)
  loaded : Admitted env es →
    ∀ names, Named (extensionsOf env es) names →
      ofEntries env (keyed es) =
        .ok { path := ((setting outputName pathKey es).map (Data.filled env)).getD .null
              charset := ((setting outputName encodingKey es).map (Data.filled env)).getD
                (Data.text (Text.of "utf-8"))
              extensions := names }

/-- The same path, encoding and extensions, whatever else the sections hold. -/
structure SameSettings (es es' : List (Text × Data)) : Prop where
  path : setting outputName pathKey es = setting outputName pathKey es'
  encoding : setting outputName encodingKey es = setting outputName encodingKey es'
  extensions : setting markdownName extensionsKey es = setting markdownName extensionsKey es'

/-- Entries whose keys are texts go through the stages, and of those that get through all of them
only the path, the encoding and the extensions count. -/
theorem ofEntries_staged (env : Environment) (es : List (Text × Data)) :
    Staged env es ∧ ∀ es', Admitted env es → Admitted env es' → SameSettings es es' →
      ofEntries env (keyed es) = ofEntries env (keyed es') := by
  refine ⟨⟨fun hunknown => ?_, fun hknown _ _ => ofEntries_of_unset hknown, ofEntries_of_output,
    ofEntries_of_markdown, fun hadmitted names hnamed => ?_⟩, fun es' hes hes' hsame => ?_⟩
  · -- The keys are reported in the one order in which they are sorted, however they came.
    have hsorted := Text.sorted_mergeSort (unknown es)
    refine ⟨_, List.mergeSort_perm _ _, hsorted, fun env' es' hperm => ?_⟩
    have hunknown' : unknown es' ≠ [] := by
      intro hnil
      rw [hnil] at hperm
      exact hunknown hperm.nil_eq.symm
    rw [ofEntries_of_unknown hunknown', Text.sorted_unique hsorted (Text.sorted_mergeSort _)]
    exact (List.mergeSort_perm _ _).trans (hperm.symm.trans (List.mergeSort_perm _ _).symm)
  · rw [ofEntries_of_admitted hadmitted, namesOf_of_named hnamed]
    rfl
  · rw [ofEntries_of_admitted hes, ofEntries_of_admitted hes', extensionsOf, extensionsOf,
      hsame.path, hsame.encoding, hsame.extensions]

/-- An output section that a variable makes empty is none, and one that it does not is refused; if
the variable is not set, that comes first, and unknown sections come before all. -/
theorem ofEntries_staged_variable :
    let x := Data.text (Text.of "$\x7bX\x7d")
    let toc := Text.of "toc"
    let es : List (Text × Data) := [(outputName, x), (markdownName, .mapping [(.null, x),
      (.text extensionsKey, .list [.text (Text.of "$\x7bY:-toc\x7d")])])]
    ofEntries [(Text.of "X", [])] (keyed es) = .ok { extensions := [toc] } ∧
      ofEntries [(Text.of "X", toc)] (keyed es) = .error (.notAMapping outputName) ∧
      ofEntries [] (keyed es) = .error (.unset (Text.of "X")) ∧
      ofEntries [] (keyed ((Text.of "zeta", x) :: (Text.of "alpha", x) :: es)) =
        .error (.unknownSections [Text.of "alpha", Text.of "zeta"]) := by
  intro x toc es
  refine ⟨?_, ?_, ?_, ?_⟩
  · refine (ofEntries_staged _ es).1.loaded ⟨rfl, by decide, ?_, ?_⟩ [toc] (.list [toc])
    · rintro ⟨d, hd, hfalsy, -⟩
      cases hd
      cases hfalsy
    · rintro ⟨d, hd, -, hmapping⟩
      cases hd
      exact hmapping _ rfl
  · exact (ofEntries_staged _ es).1.output rfl (by decide) ⟨_, rfl, rfl, by rintro _ ⟨⟩⟩
  · exact (ofEntries_staged _ es).1.unset rfl _ _ rfl
  · obtain ⟨names, hperm, hsorted, hfails⟩ := (ofEntries_staged []
      ((Text.of "zeta", x) :: (Text.of "alpha", x) :: es)).1.unknown (by decide)
    have hnames : names = [Text.of "alpha", Text.of "zeta"] :=
      Text.sorted_unique hsorted (by decide) (hperm.trans (.swap _ _ _))
    rw [hfails [] _ (.refl _), hnames]

end Config

end Stencil
