import Mathlib.Data.List.Induction
import Stencil.Proofs.Record.Table
import Stencil.Proofs.Results

namespace Stencil

/-- A hash for every name. Nothing is asked of it; names may share their hash. -/
def Hasher.total (hash : Text → Hash) : Hasher := fun name => some (hash name)

namespace FieldDecl

/-- What a table keeps of a field. -/
def toSpec (hash : Text → Hash) (f : FieldDecl) : FieldSpec :=
  ⟨f.templateName, f.name, hash f.templateName, f.markdown⟩

/-- The fields that templates see, in order. -/
def shown (fs : List FieldDecl) : List FieldDecl := fs.filter fun f => !f.skip

/-- The names under which templates see them. -/
def shownNames (fs : List FieldDecl) : List Text := (shown fs).map templateName

theorem shown_cons_of_skip {f : FieldDecl} (hskip : f.skip = true) (fs : List FieldDecl) :
    shown (f :: fs) = shown fs := by
  simp [shown, hskip]

theorem shown_cons_of_not_skip {f : FieldDecl} (hskip : f.skip = false) (fs : List FieldDecl) :
    shown (f :: fs) = f :: shown fs := by
  simp [shown, hskip]

/-- A field declared again keeps its place, and a new one comes last. -/
theorem map_name_override (f : FieldDecl) (fs : List FieldDecl) :
    (f.override fs).map name =
      if f.name ∈ fs.map name then fs.map name else fs.map name ++ [f.name] := by
  induction fs with
  | nil => rfl
  | cons g gs ih =>
    unfold override
    by_cases hsame : g.name = f.name
    · simp [hsame]
    · rw [if_neg hsame, List.map_cons, ih, List.map_cons]
      by_cases hlater : f.name ∈ gs.map name
      · rw [if_pos hlater, if_pos (List.mem_cons_of_mem _ hlater)]
      · rw [if_neg hlater, if_neg (by simpa [Ne.symm hsame] using hlater), List.cons_append]

/-- A declaration takes the place of the one of the same name. -/
theorem mem_override {f g : FieldDecl} {fs : List FieldDecl} (hnodup : (fs.map name).Nodup)
    (hg : g ∈ f.override fs) : g = f ∨ g ∈ fs ∧ g.name ≠ f.name := by
  induction fs with
  | nil => exact .inl (List.mem_singleton.1 hg)
  | cons h fs ih =>
    rw [List.map_cons, List.nodup_cons] at hnodup
    unfold override at hg
    by_cases hsame : h.name = f.name
    · rw [if_pos hsame] at hg
      rcases List.mem_cons.1 hg with rfl | hg
      · exact .inl rfl
      · refine .inr ⟨List.mem_cons_of_mem _ hg, fun heq => hnodup.1 ?_⟩
        rw [hsame, ← heq]
        exact List.mem_map_of_mem hg
    · rw [if_neg hsame] at hg
      rcases List.mem_cons.1 hg with rfl | hg
      · exact .inr ⟨List.mem_cons_self, hsame⟩
      · rcases ih hnodup.2 hg with heq | ⟨hmem, hne⟩
        · exact .inl heq
        · exact .inr ⟨List.mem_cons_of_mem _ hmem, hne⟩

/-- What some declarations, one after another, leave of fields: each name once, at the place where
it first came, with the options of its last declaration. -/
structure Merged (listed fs : List FieldDecl) : Prop where
  names : fs.map name = (listed.map name).eraseDups
  nodup : (fs.map name).Nodup
  latest : ∀ f ∈ fs, listed.reverse.find? (fun g => g.name == f.name) = some f

namespace Merged

theorem nil : Merged [] [] := ⟨rfl, by simp, by simp⟩

theorem override {listed fs : List FieldDecl} (hmerged : Merged listed fs) (f : FieldDecl) :
    Merged (listed ++ [f]) (f.override fs) where
  names := by
    rw [map_name_override, hmerged.names, List.map_append, List.map_singleton,
      List.eraseDups_append]
    generalize listed.map name = names
    -- A name that came before keeps its place, and only a new one is put at the end.
    by_cases hbefore : f.name ∈ names
    · simp [List.removeAll, List.mem_eraseDups, hbefore]
    · simp [List.removeAll, List.mem_eraseDups, List.eraseDups_cons, hbefore]
  nodup := by
    have hnodup := hmerged.nodup
    rw [map_name_override]
    split
    · exact hnodup
    · rename_i hnew
      exact hnodup.append (List.nodup_singleton _) (List.disjoint_singleton.2 hnew)
  latest := by
    intro g hg
    rw [List.reverse_append, List.reverse_singleton, List.singleton_append, List.find?_cons]
    rcases mem_override hmerged.nodup hg with rfl | ⟨hmem, hne⟩
    · simp
    · rw [beq_eq_false_iff_ne.2 hne.symm]
      exact hmerged.latest g hmem

/-- The fields of a type are merged into those it inherits, one after another. -/
theorem overrideAll {listed fs : List FieldDecl} (hmerged : Merged listed fs)
    (own : List FieldDecl) :
    Merged (listed ++ own) (own.foldl (fun fs f => f.override fs) fs) := by
  induction own generalizing listed fs with
  | nil => rwa [List.append_nil]
  | cons f own ih =>
    rw [List.foldl_cons, List.append_cons]
    exact ih (hmerged.override f)

end Merged

/-- A name that comes again in a list, where no name came again before. -/
def FirstRepeated (names : List Text) (n : Text) : Prop :=
  ∃ before after, names = before ++ n :: after ∧ before.Nodup ∧ n ∈ before

/-- Names that are not all different have a first one that is repeated. -/
theorem exists_firstRepeated {names : List Text} (hnames : ¬ names.Nodup) :
    ∃ n, FirstRepeated names n := by
  induction names using List.reverseRecOn with
  | nil => exact absurd List.nodup_nil hnames
  | append_singleton names n ih =>
    by_cases hnodup : names.Nodup
    · refine ⟨n, names, [], rfl, hnodup, ?_⟩
      by_contra hnew
      exact hnames (hnodup.append (List.nodup_singleton _) (List.disjoint_singleton.2 hnew))
    · obtain ⟨m, before, after, rfl, hbefore⟩ := ih hnodup
      exact ⟨m, before, after ++ [n], by simp, hbefore⟩

end FieldDecl

namespace RecordDecl

/-- The fields that a chain of declarations lists, those of the base first. A plain class lists
none. -/
def listedAlong (chain : List RecordDecl) : List FieldDecl :=
  chain.flatMap fun d => if d.plain then [] else d.fields

/-- The type at the end of a chain of declarations, of which each extends the one before it. -/
inductive DeclaredAlong (hasher : Hasher) : List RecordDecl → RecordType → Prop where
  | alone {types : List RecordType} {d : RecordDecl} {t : RecordType}
      (hbase : d.baseIn types = .ok none) (hdeclare : declare hasher types d = .ok t) :
      DeclaredAlong hasher [d] t
  | extended {types : List RecordType} {chain : List RecordDecl} {d : RecordDecl}
      {base t : RecordType} (hchain : DeclaredAlong hasher chain base)
      (hbase : d.baseIn types = .ok (some base)) (hdeclare : declare hasher types d = .ok t) :
      DeclaredAlong hasher (chain ++ [d]) t

variable {hasher : Hasher} {types : List RecordType} {d : RecordDecl} {t : RecordType}

/-- A declared type has its own fields over those of its base. -/
theorem fields_of_declare {base : Option RecordType} (hbase : d.baseIn types = .ok base)
    (hdeclare : declare hasher types d = .ok t) : t.fields = d.fieldsOver base := by
  unfold declare at hdeclare
  rw [bind_eq_ok_iff] at hdeclare
  obtain ⟨base', hbase', hdeclare⟩ := hdeclare
  obtain rfl : base = base' := Except.ok.inj (hbase.symm.trans hbase')
  rw [bind_eq_ok_iff] at hdeclare
  obtain ⟨-, -, hdeclare⟩ := hdeclare
  split at hdeclare
  · rw [bind_eq_ok_iff] at hdeclare
    obtain ⟨table, -, hdeclare⟩ := hdeclare
    cases hdeclare
    rfl
  · cases hdeclare
    rfl

/-- One more declaration adds its fields to those of its base. -/
theorem merged_fieldsOver (d : RecordDecl) (base : Option RecordType) {listed : List FieldDecl}
    (hmerged : FieldDecl.Merged listed ((base.bind RecordType.fields).getD [])) :
    FieldDecl.Merged (listed ++ listedAlong [d]) ((d.fieldsOver base).getD []) := by
  rw [listedAlong, List.flatMap_singleton]
  unfold fieldsOver
  cases d.plain with
  | false => exact hmerged.overrideAll d.fields
  | true =>
    simp only [if_true, List.append_nil]
    exact hmerged

/-- Along a chain of types the fields are those that all of them list, merged in order. -/
theorem DeclaredAlong.merged {chain : List RecordDecl} (hchain : DeclaredAlong hasher chain t) :
    FieldDecl.Merged (listedAlong chain) (t.fields.getD []) := by
  induction hchain with
  | alone hbase hdeclare =>
    rw [fields_of_declare hbase hdeclare]
    exact merged_fieldsOver _ none .nil
  | @extended types chain d base t _ hbase hdeclare ih =>
    rw [fields_of_declare hbase hdeclare, listedAlong, List.flatMap_append]
    exact merged_fieldsOver d (some base) ih

end RecordDecl

namespace RecordType

open FieldDecl

variable {hash : Text → Hash} {type : Text} {seen : List Text} {fs : List FieldDecl}

/-- If the shown names are different, every field that is not skipped is visible. -/
theorem visible_of_nodup (hnodup : (shownNames fs).Nodup) (hseen : ∀ n ∈ shownNames fs, n ∉ seen) :
    visible (.total hash) type seen fs = .ok ((shown fs).map (toSpec hash)) := by
  induction fs generalizing seen with
  | nil => rfl
  | cons f fs ih =>
    unfold visible
    cases hskip : f.skip with
    | true =>
      rw [shownNames, shown_cons_of_skip hskip] at hnodup hseen
      rw [shown_cons_of_skip hskip]
      exact ih hnodup hseen
    | false =>
      rw [shownNames, shown_cons_of_not_skip hskip, List.map_cons] at hnodup hseen
      rw [List.nodup_cons] at hnodup
      rw [List.forall_mem_cons] at hseen
      have hrest := @ih (f.templateName :: seen) hnodup.2 fun n hn hmem =>
        (List.mem_cons.1 hmem).elim (fun heq => hnodup.1 (heq ▸ hn)) (hseen.2 n hn)
      simp only [Bool.false_eq_true, if_false, List.contains_eq_mem, hseen.1, decide_false,
        Hasher.total, hrest, shown_cons_of_not_skip hskip, List.map_cons]
      rfl

/-- The first name that is taken already ends the building. -/
theorem visible_of_repeated {before after : List Text} {n : Text}
    (hnames : shownNames fs = before ++ n :: after) (hnodup : before.Nodup)
    (hbefore : ∀ m ∈ before, m ∉ seen) (hn : n ∈ before ∨ n ∈ seen) :
    visible (.total hash) type seen fs = .error (.duplicateName n type) := by
  induction fs generalizing seen before with
  | nil => simp [shownNames, shown] at hnames
  | cons f fs ih =>
    unfold visible
    cases hskip : f.skip with
    | true =>
      rw [shownNames, shown_cons_of_skip hskip] at hnames
      exact ih hnames hnodup hbefore hn
    | false =>
      rw [shownNames, shown_cons_of_not_skip hskip, List.map_cons] at hnames
      cases before with
      | nil =>
        obtain ⟨rfl, -⟩ := List.cons.inj hnames
        have htaken : f.templateName ∈ seen := hn.resolve_left (by simp)
        simp only [Bool.false_eq_true, if_false, List.contains_eq_mem, htaken, decide_true,
          if_true]
      | cons m before =>
        obtain ⟨rfl, hrest⟩ := List.cons.inj hnames
        rw [List.nodup_cons] at hnodup
        rw [List.forall_mem_cons] at hbefore
        have herror := @ih (f.templateName :: seen) before hrest hnodup.2
          (fun k hk hmem => (List.mem_cons.1 hmem).elim (fun heq => hnodup.1 (heq ▸ hk))
            (hbefore.2 k hk))
          (by
            rcases hn with hn | hn
            · exact (List.mem_cons.1 hn).elim (fun heq => .inr (heq ▸ List.mem_cons_self)) .inl
            · exact .inr (List.mem_cons_of_mem _ hn))
        simp only [Bool.false_eq_true, if_false, List.contains_eq_mem, hbefore.1, decide_false,
          Hasher.total, herror]
        rfl

/-- How the building of a table ends for these fields, and what the table answers. -/
structure Resolves (hash : Text → Hash) (type : Text) (fs : List FieldDecl)
    (result : Except RecordError FieldTable) : Prop where
  built_iff : (∃ t, result = .ok t) ↔ (shownNames fs).Nodup
  refused : ∀ e, result = .error e →
    ∃ n, FirstRepeated (shownNames fs) n ∧ e = .duplicateName n type
  specs : ∀ t, result = .ok t → t.specs = (shown fs).map (toSpec hash)
  lookup_eq_some_iff : ∀ t, result = .ok t → ∀ n s,
    t.lookup (hash n) n = some s ↔ ∃ f ∈ shown fs, f.templateName = n ∧ f.toSpec hash = s
  lookup_eq_none_iff : ∀ t, result = .ok t → ∀ n,
    t.lookup (hash n) n = none ↔ n ∉ shownNames fs

/-- Then there is a table of them. -/
theorem buildTable_of_nodup (hnodup : (shownNames fs).Nodup) :
    buildTable (.total hash) type (some fs) = .ok (.ofSpecs ((shown fs).map (toSpec hash))) := by
  rw [buildTable, visible_of_nodup hnodup (by simp)]
  rfl

/-- Otherwise the first repeated name is reported. -/
theorem buildTable_of_repeated {n : Text} (hn : FirstRepeated (shownNames fs) n) :
    buildTable (.total hash) type (some fs) = .error (.duplicateName n type) := by
  obtain ⟨before, after, hnames, hnodup, hmem⟩ := hn
  rw [buildTable, visible_of_repeated hnames hnodup (by simp) (.inl hmem)]
  rfl

/-- The table of different names finds the field of a name, and nothing if there is none. -/
theorem lookup_iff_of_nodup (hnodup : (shownNames fs).Nodup) (n : Text) (s : FieldSpec) :
    (FieldTable.ofSpecs ((shown fs).map (toSpec hash))).lookup (hash n) n = some s ↔
      ∃ f ∈ shown fs, f.templateName = n ∧ f.toSpec hash = s := by
  have hbuild : buildTable (.total hash) [] (some fs) =
      .ok (.ofSpecs ((shown fs).map (toSpec hash))) := buildTable_of_nodup hnodup
  have hhashed := wellHashed_of_buildTable hbuild
  rw [hhashed.lookup_eq rfl]
  constructor
  · intro hfind
    have hname := List.find?_some hfind
    obtain ⟨f, hf, rfl⟩ := List.mem_map.1 (List.mem_of_find?_eq_some hfind)
    exact ⟨f, hf, beq_iff_eq.1 hname, rfl⟩
  · rintro ⟨f, hf, hname, rfl⟩
    exact hhashed.find_name (List.mem_map_of_mem hf) hname

/-- The table of a type resolves the names of its visible fields, and no others. -/
theorem resolves_buildTable (hash : Text → Hash) (type : Text) (fs : List FieldDecl) :
    Resolves hash type fs (buildTable (.total hash) type (some fs)) := by
  by_cases hnodup : (shownNames fs).Nodup
  · rw [buildTable_of_nodup hnodup]
    refine ⟨by simp [hnodup], by simp, ?_, ?_, ?_⟩
    · rintro t ⟨⟩
      rfl
    · rintro t ⟨⟩
      exact lookup_iff_of_nodup hnodup
    · rintro t ⟨⟩ n
      rw [Option.eq_none_iff_forall_ne_some, shownNames, List.mem_map]
      refine ⟨fun hnone => ?_, fun habsent s hs => ?_⟩
      · rintro ⟨f, hf, hname⟩
        exact hnone _ ((lookup_iff_of_nodup hnodup n _).2 ⟨f, hf, hname, rfl⟩)
      · obtain ⟨f, hf, hname, -⟩ := (lookup_iff_of_nodup hnodup n s).1 hs
        exact habsent ⟨f, hf, hname⟩
  · obtain ⟨n, hn⟩ := exists_firstRepeated hnodup
    rw [buildTable_of_repeated hn]
    refine ⟨by simp [hnodup], ?_, by simp, by simp, by simp⟩
    rintro e ⟨⟩
    exact ⟨n, hn, rfl⟩

/-- The table of a record type is built exactly if the names of its visible fields are different,
and finds exactly these names, whatever the hashes are. The fields are those of the chain along
which the type is declared. -/
theorem buildTable_resolves (hash : Text → Hash) (type : RecordType) {fs : List FieldDecl}
    (hfields : type.fields = some fs) :
    Resolves hash type.name fs (buildTable (.total hash) type.name type.fields) ∧
      ∀ hasher chain, RecordDecl.DeclaredAlong hasher chain type →
        Merged (RecordDecl.listedAlong chain) fs := by
  rw [hfields]
  refine ⟨resolves_buildTable hash type.name fs, fun hasher chain hchain => ?_⟩
  have hmerged := hchain.merged
  rw [hfields, Option.getD_some] at hmerged
  exact hmerged

/-- Two fields swap their names, a hidden one gives its name to a new field, and all hashes are
equal. -/
theorem buildTable_resolves_swapped :
    let title := Text.of "title"
    let body := Text.of "body"
    let slug := Text.of "slug"
    let post : RecordDecl := { name := Text.of "Post", fields := [⟨title, false, false, none⟩,
      ⟨body, true, false, none⟩, ⟨slug, false, false, some (Text.of "id")⟩] }
    let draft : RecordDecl := { name := Text.of "Draft", base := some post.name, fields :=
      [⟨slug, false, true, none⟩, ⟨Text.of "key", false, false, some slug⟩,
        ⟨body, true, false, some title⟩, ⟨title, false, false, some body⟩] }
    ∃ type t, RecordDecl.DeclaredAlong (.constant 0) [post, draft] type ∧
      buildTable (.total fun _ => 0) type.name type.fields = .ok t ∧
      t.specs.map FieldSpec.attr = [title, body, Text.of "key"] ∧
      t.lookup 0 title = some ⟨title, body, 0, true⟩ ∧
      t.lookup 0 slug = some ⟨slug, Text.of "key", 0, false⟩ ∧
      t.lookup 0 (Text.of "id") = none := by
  intro title body slug post draft
  let postType : RecordType := ⟨post.name, some post.fields,
    some (.ofSpecs ((shown post.fields).map (toSpec fun _ => 0)))⟩
  let draftFields : List FieldDecl := [⟨title, false, false, some body⟩,
    ⟨body, true, false, some title⟩, ⟨slug, false, true, none⟩,
    ⟨Text.of "key", false, false, some slug⟩]
  let draftType : RecordType := ⟨draft.name, some draftFields,
    some (.ofSpecs ((shown draftFields).map (toSpec fun _ => 0)))⟩
  have hpost : RecordDecl.declare (.constant 0) [] post = .ok postType := by
    rw [RecordDecl.declare, show post.checkNames = .ok () by decide +kernel]
    rfl
  have hdraft : RecordDecl.declare (.constant 0) [postType] draft = .ok draftType := by
    rw [RecordDecl.declare, show draft.checkNames = .ok () by decide +kernel]
    rfl
  have hchain : RecordDecl.DeclaredAlong (.constant 0) [post, draft] draftType :=
    .extended (.alone rfl hpost) rfl hdraft
  have hresolves := (buildTable_resolves (fun _ => 0) draftType rfl).1
  obtain ⟨t, ht⟩ := hresolves.built_iff.2 (by decide)
  have hlookup := hresolves.lookup_eq_some_iff t ht
  refine ⟨draftType, t, hchain, ht, ?_, ?_, ?_, ?_⟩
  · rw [hresolves.specs t ht]
    decide
  · exact (hlookup title _).2 ⟨⟨body, true, false, some title⟩, by decide, rfl, rfl⟩
  · exact (hlookup slug _).2 ⟨⟨Text.of "key", false, false, some slug⟩, by decide, rfl, rfl⟩
  · exact (hresolves.lookup_eq_none_iff t ht (Text.of "id")).2 (by decide)

end RecordType

end Stencil
