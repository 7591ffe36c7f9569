import Stencil.Proofs.Config.Stages
import Stencil.Proofs.Results

namespace Stencil

namespace Config

/-- The names that are read from data other than a list: the code points of a text and the keys of a
mapping, which are none if it is empty, the texts that data of another kind lists, and none from
what is falsy, like zero and false. -/
inductive Misread : Data → List Text → Prop where
  | characters (t : Text) : Misread (.text t) (t.map fun c => [c])
  | keys (es : List (Text × Data)) : Misread (.mapping (keyed es)) (es.map Prod.fst)
  | items {f : Foreign} {ts : List Text} (hfalsy : f.falsy = false)
      (hitems : f.items = some (ts.map .text)) : Misread (.scalar (.foreign f)) ts
  | falsy {s : Scalar} (hfalsy : s.isFalsy = true) (hnull : s ≠ .null) (htext : ∀ t, s ≠ .text t) :
      Misread (.scalar s) []

/-- A number that is not zero, or true, or data of another kind that lists nothing and is not
falsy. -/
def Unlistable (d : Data) : Prop :=
  ∃ s, d = .scalar s ∧ s.isFalsy = false ∧ (∀ t, s ≠ .text t) ∧ ∀ f, s = .foreign f → f.items = none

/-- Entries whose keys are all texts are keyed by texts. -/
theorem exists_keyed {entries : List (Scalar × Data)}
    (hkeys : ∀ e ∈ entries, ∃ t, e.1 = .text t) : ∃ es, entries = keyed es := by
  induction entries with
  | nil => exact ⟨[], rfl⟩
  | cons e entries ih =>
    rw [List.forall_mem_cons] at hkeys
    obtain ⟨⟨t, ht⟩, hrest⟩ := hkeys
    obtain ⟨es, rfl⟩ := ih hrest
    exact ⟨(t, e.2) :: es, by rw [keyed, keyed, List.map_cons, ← ht]⟩

/-- Either all keys are texts, or one is not. -/
theorem keyed_or_unnamed (entries : List (Scalar × Data)) :
    (∃ es, entries = keyed es) ∨ ∃ e ∈ entries, ∀ t, e.1 ≠ .text t := by
  by_cases hkeys : ∀ e ∈ entries, ∃ t, e.1 = .text t
  · exact .inl (exists_keyed hkeys)
  · simp only [not_forall, not_exists] at hkeys
    obtain ⟨e, he, hkey⟩ := hkeys
    exact .inr ⟨e, he, hkey⟩

/-- A key that is no text is an error of its own: the unknown keys cannot even be listed. -/
theorem ofEntries_of_unnamed {entries : List (Scalar × Data)}
    (hunnamed : ∃ e ∈ entries, ∀ t, e.1 ≠ .text t) (env : Environment) :
    ofEntries env entries = .error .unnamedSection := by
  have hkeys : unknownKeys entries = .error .unnamedSection := by
    induction entries with
    | nil => simp at hunnamed
    | cons e entries ih =>
      obtain ⟨k, d⟩ := e
      cases k with
      | text t =>
        have hrest : ∃ e ∈ entries, ∀ t, e.1 ≠ .text t := by simpa using hunnamed
        rw [unknownKeys, ih hrest]
        rfl
      | _ => rfl
  rw [ofEntries, checkKeys, hkeys]
  rfl

/-- What is listed consists of texts, or is refused as it is. -/
theorem namesOf_of_listed {d : Data} {items : List Data} (hlisted : listed? d = some items) :
    (∃ names, items = names.map Data.text ∧ namesOf d = .ok names) ∨
      ∃ e, namesOf d = .error e ∧ e.isTypeError = false := by
  rw [namesOf, hlisted]
  simp only
  cases hnames : items.mapM Data.text? with
  | some names => exact .inl ⟨names, mapM_text?_eq_some_iff.1 hnames, rfl⟩
  | none =>
    refine .inr ?_
    cases (Data.list items).toNotation.inner? with
    | some shown => exact ⟨_, rfl, rfl⟩
    | none => exact ⟨_, rfl, rfl⟩

theorem listed?_of_falsy {s : Scalar} (hfalsy : s.isFalsy = true) :
    listed? (.scalar s) = some [] := if_pos hfalsy

theorem listed?_of_truthy {s : Scalar} (hfalsy : s.isFalsy = false) :
    listed? (.scalar s) = scalarListed? s := if_neg (by simp [hfalsy])

theorem listed?_text (t : Text) : listed? (.text t) = some (t.map fun c => Data.text [c]) := by
  cases t <;> rfl

/-- Only a text and data of another kind can be listed. -/
theorem scalarListed?_eq_none_iff {s : Scalar} :
    scalarListed? s = none ↔ (∀ t, s ≠ .text t) ∧ ∀ f, s = .foreign f → f.items = none := by
  cases s <;> simp [scalarListed?]

/-- What cannot be made a list of is a number but zero, or true, or a foreign value without
items. -/
theorem unlistable_iff {d : Data} : Unlistable d ↔ listed? d = none := by
  constructor
  · rintro ⟨s, rfl, hfalsy, hnone⟩
    rw [listed?_of_truthy hfalsy, scalarListed?_eq_none_iff]
    exact hnone
  · intro hlisted
    cases d with
    | list items => cases hlisted
    | mapping entries => cases hlisted
    | scalar s =>
      cases hfalsy : s.isFalsy with
      | true => rw [listed?_of_falsy hfalsy] at hlisted; cases hlisted
      | false =>
        rw [listed?_of_truthy hfalsy, scalarListed?_eq_none_iff] at hlisted
        exact ⟨s, rfl, hfalsy, hlisted⟩

theorem not_unlistable_of_listed {d : Data} {items : List Data}
    (hlisted : listed? d = some items) : ¬ Unlistable d := by
  rw [unlistable_iff, hlisted]
  simp

theorem text_injective : Function.Injective Data.text := fun _ _ hsame =>
  Scalar.text.inj (Data.scalar.inj hsame)

/-- The texts that the keys of a mapping are. -/
theorem exists_keyed_of_keys {entries : List (Scalar × Data)} {names : List Text}
    (hkeys : (entries.map fun e => Data.scalar e.1) = names.map Data.text) :
    ∃ es, entries = keyed es ∧ names = es.map Prod.fst := by
  have htexts : ∀ e ∈ entries, ∃ t, e.1 = .text t := by
    intro e he
    have hmem : Data.scalar e.1 ∈ names.map Data.text := hkeys ▸ List.mem_map_of_mem he
    obtain ⟨t, -, ht⟩ := List.mem_map.1 hmem
    exact ⟨t, (Data.scalar.inj ht).symm⟩
  obtain ⟨es, rfl⟩ := exists_keyed htexts
  refine ⟨es, rfl, ?_⟩
  rw [keyed, List.map_map] at hkeys
  exact (List.map_injective_iff.2 text_injective (by rw [List.map_map, ← hkeys]; rfl)).symm

/-- The texts that data of another kind lists. -/
theorem texts_of_toData {items : List Foreign.Item} {names : List Text}
    (hitems : items.map Foreign.Item.toData = names.map Data.text) : items = names.map .text := by
  have hinjective : Function.Injective Foreign.Item.toData := by
    rintro (t | t) (u | u) hsame <;> simp_all [Foreign.Item.toData]
  exact List.map_injective_iff.2 hinjective (by rw [hitems, List.map_map]; rfl)

/-- What a scalar is read as, if what it lists are texts. -/
theorem named_or_misread_of_listed {s : Scalar} {names : List Text}
    (hlisted : listed? (.scalar s) = some (names.map Data.text)) :
    Named (.scalar s) names ∨ Misread (.scalar s) names := by
  by_cases htext : ∃ t, s = .text t
  · obtain ⟨t, rfl⟩ := htext
    have hcharacters : names = t.map fun c => [c] :=
      List.map_injective_iff.2 text_injective
        (by rw [← Option.some.inj ((listed?_text t).symm.trans hlisted), List.map_map]; rfl)
    exact .inr (hcharacters ▸ .characters t)
  · rw [not_exists] at htext
    cases hfalsy : s.isFalsy with
    | true =>
      have hnone : names = [] := by
        simpa using (Option.some.inj ((listed?_of_falsy hfalsy).symm.trans hlisted)).symm
      subst hnone
      by_cases hnull : s = .null
      · exact .inl (hnull ▸ .null)
      · exact .inr (.falsy hfalsy hnull htext)
    | false =>
      rw [listed?_of_truthy hfalsy] at hlisted
      -- What is left is a scalar of another kind; the others cannot be listed.
      cases s with
      | text t => exact absurd rfl (htext t)
      | foreign f =>
        obtain ⟨items, hitems, hmap⟩ := Option.map_eq_some_iff.1 hlisted
        exact .inr (.items hfalsy (hitems.trans (congrArg some (texts_of_toData hmap))))
      | _ => cases hlisted

/-- How the names of extensions are read from data: right, or not as from a list, or not at all. -/
theorem namesOf_cases (d : Data) :
    (∃ names, namesOf d = .ok names ∧ (Named d names ∨ Misread d names)) ∨
      (∃ e, namesOf d = .error e ∧ e.isTypeError = false ∧ ¬ Unlistable d) ∨
      namesOf d = .error .unlistable ∧ Unlistable d := by
  cases d with
  | list items =>
    rcases namesOf_of_listed (d := .list items) rfl with ⟨names, rfl, hok⟩ | ⟨e, herror, he⟩
    · exact .inl ⟨names, hok, .inl (.list names)⟩
    · exact .inr (.inl ⟨e, herror, he, not_unlistable_of_listed rfl⟩)
  | mapping entries =>
    rcases namesOf_of_listed (d := .mapping entries) rfl with
      ⟨names, hnames, hok⟩ | ⟨e, herror, he⟩
    · obtain ⟨es, rfl, rfl⟩ := exists_keyed_of_keys hnames
      exact .inl ⟨_, hok, .inr (.keys es)⟩
    · exact .inr (.inl ⟨e, herror, he, not_unlistable_of_listed rfl⟩)
  | scalar s =>
    cases hlisted : listed? (.scalar s) with
    | none =>
      refine .inr (.inr ⟨?_, unlistable_iff.2 hlisted⟩)
      rw [namesOf, hlisted]
    | some items =>
      rcases namesOf_of_listed hlisted with ⟨names, rfl, hok⟩ | ⟨e, herror, he⟩
      · exact .inl ⟨names, hok, named_or_misread_of_listed hlisted⟩
      · exact .inr (.inl ⟨e, herror, he, not_unlistable_of_listed hlisted⟩)

/-- What is misread gives the names of its parts. -/
theorem namesOf_of_misread {d : Data} {names : List Text} (hmisread : Misread d names) :
    namesOf d = .ok names := by
  cases hmisread with
  | characters t => exact namesOf_of_texts (by rw [listed?_text, List.map_map]; rfl)
  | items hfalsy hitems =>
    refine namesOf_of_texts ?_
    rw [listed?_of_truthy (s := .foreign _) hfalsy, scalarListed?, hitems, Option.map_some, List.map_map]
    rfl
  | keys es => exact namesOf_of_texts (by rw [listed?, keyed, List.map_map, List.map_map]; rfl)
  | falsy hfalsy _ _ => exact namesOf_of_texts (listed?_of_falsy hfalsy)

/-- The entry gives names if it names them, or if it is misread. -/
theorem namesOf_eq_ok_iff {d : Data} {names : List Text} :
    namesOf d = .ok names ↔ Named d names ∨ Misread d names := by
  constructor
  · intro hok
    rcases namesOf_cases d with ⟨names', hok', hread⟩ | ⟨e, herror, -⟩ | ⟨herror, -⟩
    · obtain rfl := Except.ok.inj (hok.symm.trans hok')
      exact hread
    · cases hok.symm.trans herror
    · cases hok.symm.trans herror
  · rintro (hnamed | hmisread)
    · exact namesOf_of_named hnamed
    · exact namesOf_of_misread hmisread

/-- The entry raises an error of another class exactly if it cannot be made a list of. -/
theorem namesOf_isTypeError_iff {d : Data} :
    (∃ e, namesOf d = .error e ∧ e.isTypeError = true) ↔ Unlistable d := by
  constructor
  · rintro ⟨e, herror, he⟩
    rcases namesOf_cases d with ⟨names, hok, -⟩ | ⟨e', herror', he', -⟩ | ⟨-, hunlistable⟩
    · cases hok.symm.trans herror
    · obtain rfl := Except.error.inj (herror.symm.trans herror')
      cases he.symm.trans he'
    · exact hunlistable
  · intro hunlistable
    refine ⟨.unlistable, ?_, rfl⟩
    rw [namesOf, unlistable_iff.1 hunlistable]

/-- Entries that are not admitted are refused for their values, not for their types. -/
theorem ofEntries_of_not_admitted {env : Environment} {es : List (Text × Data)}
    (hadmitted : ¬ Admitted env es) :
    ∃ e, ofEntries env (keyed es) = .error e ∧ e.isTypeError = false := by
  by_cases hknown : unknown es = []
  · cases hunset : unset env es with
    | cons n ns => exact ⟨_, ofEntries_of_unset hknown hunset, rfl⟩
    | nil =>
      by_cases houtput : Misplaced outputName (filled env es)
      · exact ⟨_, ofEntries_of_output hknown hunset houtput, rfl⟩
      · by_cases hmarkdown : Misplaced markdownName (filled env es)
        · exact ⟨_, ofEntries_of_markdown hknown hunset houtput hmarkdown, rfl⟩
        · exact absurd ⟨hknown, hunset, houtput, hmarkdown⟩ hadmitted
  · exact ⟨_, ofEntries_of_unknown hknown env, rfl⟩

/-- Entries get through to the names of extensions, or are refused before, for their types only if a
key is no text. -/
theorem admitted_or_refused (env : Environment) (entries : List (Scalar × Data)) :
    (∃ es, entries = keyed es ∧ Admitted env es) ∨
      ∃ e, ofEntries env entries = .error e ∧
        (e.isTypeError = true → ∃ e ∈ entries, ∀ t, e.1 ≠ .text t) := by
  rcases keyed_or_unnamed entries with ⟨es, rfl⟩ | hunnamed
  · by_cases hadmitted : Admitted env es
    · exact .inl ⟨es, rfl, hadmitted⟩
    · obtain ⟨e, herror, he⟩ := ofEntries_of_not_admitted hadmitted
      refine .inr ⟨e, herror, fun htype => ?_⟩
      rw [he] at htype
      cases htype
  · exact .inr ⟨_, ofEntries_of_unnamed hunnamed env, fun _ => hunnamed⟩

/-- The extensions of a configuration are the names given as null or as a list of texts, or names
that other data is taken for. Entries are refused for their types if a key is no text, or if they
are admitted and the extensions cannot be listed; all that is refused otherwise is refused for its
values. -/
theorem ofEntries_extensions (env : Environment) (entries : List (Scalar × Data)) :
    (∀ names, (∃ c, ofEntries env entries = .ok c ∧ c.extensions = names) ↔
        ∃ es, entries = keyed es ∧ Admitted env es ∧
          (Named (extensionsOf env es) names ∨ Misread (extensionsOf env es) names)) ∧
      ((∃ e, ofEntries env entries = .error e ∧ e.isTypeError = true) ↔
        (∃ e ∈ entries, ∀ t, e.1 ≠ .text t) ∨
          ∃ es, entries = keyed es ∧ Admitted env es ∧ Unlistable (extensionsOf env es)) := by
  refine ⟨fun names => ⟨?_, ?_⟩, ?_, ?_⟩
  · rintro ⟨c, hok, rfl⟩
    rcases admitted_or_refused env entries with ⟨es, rfl, hadmitted⟩ | ⟨e, herror, -⟩
    · rw [ofEntries_of_admitted hadmitted, map_eq_ok_iff] at hok
      obtain ⟨names, hnames, rfl⟩ := hok
      exact ⟨es, rfl, hadmitted, namesOf_eq_ok_iff.1 hnames⟩
    · cases hok.symm.trans herror
  · rintro ⟨es, rfl, hadmitted, hread⟩
    rw [ofEntries_of_admitted hadmitted, namesOf_eq_ok_iff.2 hread]
    exact ⟨_, rfl, rfl⟩
  · rintro ⟨e, herror, he⟩
    rcases admitted_or_refused env entries with ⟨es, rfl, hadmitted⟩ | ⟨e', herror', hkeys⟩
    · rw [ofEntries_of_admitted hadmitted, map_eq_error_iff] at herror
      exact .inr ⟨es, rfl, hadmitted, namesOf_isTypeError_iff.1 ⟨e, herror, he⟩⟩
    · obtain rfl := Except.error.inj (herror.symm.trans herror')
      exact .inl (hkeys he)
  · rintro (hunnamed | ⟨es, rfl, hadmitted, hunlistable⟩)
    · exact ⟨_, ofEntries_of_unnamed hunnamed env, rfl⟩
    · obtain ⟨e, herror, he⟩ := namesOf_isTypeError_iff.2 hunlistable
      rw [ofEntries_of_admitted hadmitted, herror]
      exact ⟨e, rfl, he⟩

/-- Extensions that are no list may be taken for names, or refused for their type, as may keys. -/
theorem extensions_not_validated :
    let extensions (d : Data) : List (Scalar × Data) :=
      [(.text markdownName, .mapping [(.text extensionsKey, d)])]
    ((∃ c, ofEntries [] (extensions (.text (Text.of "toc"))) = .ok c ∧
        c.extensions = [Text.of "t", Text.of "o", Text.of "c"]) ∧
      (∃ c, ofEntries [] (extensions (.mapping [(.text (Text.of "toc"), .null)])) = .ok c ∧
        c.extensions = [Text.of "toc"]) ∧
      (∃ c, ofEntries [] (extensions (.scalar (.bool false))) = .ok c ∧ c.extensions = [])) ∧
      (∃ e, ofEntries [] (extensions (.scalar (.int 3))) = .error e ∧ e.isTypeError = true) ∧
      (∃ e, ofEntries [] (extensions (.scalar (.bool true))) = .error e ∧ e.isTypeError = true) ∧
      ∃ e, ofEntries [] [(.int 1, .null)] = .error e ∧ e.isTypeError = true :=
  ⟨⟨⟨_, rfl, rfl⟩, ⟨_, rfl, rfl⟩, ⟨_, rfl, rfl⟩⟩, ⟨_, rfl, rfl⟩, ⟨_, rfl, rfl⟩, ⟨_, rfl, rfl⟩⟩

end Config

end Stencil
