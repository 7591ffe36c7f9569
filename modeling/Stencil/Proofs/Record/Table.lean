import Mathlib.Data.List.Nodup
import Stencil.Record.Decl

namespace Stencil

namespace FieldSpec

/-- Fields that may follow when some names are taken: their names are new and different, and every
name comes with its hash. -/
structure Fresh (hasher : Hasher) (seen : List Text) (specs : List FieldSpec) : Prop where
  hashed : ∀ s ∈ specs, hasher s.name = some s.hash
  unseen : ∀ s ∈ specs, s.name ∉ seen
  nodup : (specs.map FieldSpec.name).Nodup

namespace Fresh

variable {hasher : Hasher} {seen : List Text}

theorem nil : Fresh hasher seen [] := ⟨by simp, by simp, by simp⟩

/-- A field with a name not seen before may come first. -/
theorem cons {s : FieldSpec} {specs : List FieldSpec} (hhash : hasher s.name = some s.hash)
    (hunseen : s.name ∉ seen) (hspecs : Fresh hasher (s.name :: seen) specs) :
    Fresh hasher seen (s :: specs) where
  hashed := List.forall_mem_cons.2 ⟨hhash, hspecs.hashed⟩
  unseen := List.forall_mem_cons.2
    ⟨hunseen, fun r hr hseen => hspecs.unseen r hr (List.mem_cons_of_mem _ hseen)⟩
  nodup := by
    rw [List.map_cons, List.nodup_cons, List.mem_map]
    refine ⟨?_, hspecs.nodup⟩
    rintro ⟨r, hr, hsame⟩
    exact hspecs.unseen r hr (hsame ▸ List.mem_cons_self)

end Fresh

end FieldSpec

namespace RecordType

/-- The fields that templates see of some declared ones, when some names are taken: a hidden one is
passed over, and every other one has a name that is not taken, and a hash. -/
inductive Shows (hasher : Hasher) : List Text → List FieldDecl → List FieldSpec → Prop where
  | nil (seen : List Text) : Shows hasher seen [] []
  | hidden {seen : List Text} {f : FieldDecl} {fs : List FieldDecl} {specs : List FieldSpec}
      (hskip : f.skip = true) (hrest : Shows hasher seen fs specs) : Shows hasher seen (f :: fs) specs
  | shown {seen : List Text} {f : FieldDecl} {fs : List FieldDecl} {specs : List FieldSpec}
      {hash : Hash} (hskip : f.skip = false) (hunseen : f.templateName ∉ seen)
      (hhash : hasher f.templateName = some hash)
      (hrest : Shows hasher (f.templateName :: seen) fs specs) :
      Shows hasher seen (f :: fs) (⟨f.templateName, f.name, hash, f.markdown⟩ :: specs)

variable {hasher : Hasher} {type : Text} {seen : List Text} {fields : List FieldDecl}
  {specs : List FieldSpec} {table : FieldTable}

theorem shows_of_visible (hvisible : visible hasher type seen fields = .ok specs) :
    Shows hasher seen fields specs := by
  fun_induction visible hasher type seen fields generalizing specs with
  | case1 seen =>
    cases hvisible
    exact .nil seen
  | case2 seen f fs hskip ih => exact .hidden hskip (ih hvisible)
  | case3 => cases hvisible
  | case4 => cases hvisible
  | case5 seen f fs hskip n hcontains h hhash =>
    rename_i ih
    cases hrest : visible hasher type (n :: seen) fs with
    | error e =>
      rw [hrest] at hvisible
      cases hvisible
    | ok rest =>
      rw [hrest] at hvisible
      cases hvisible
      exact .shown (by simpa using hskip) (by simpa using hcontains) hhash (ih hrest)

/-- A table is built of the fields that its type shows. -/
theorem shows_of_buildTable {fields : Option (List FieldDecl)}
    (hbuild : buildTable hasher type fields = .ok table) :
    ∃ fs, fields = some fs ∧ Shows hasher [] fs table.specs := by
  cases fields with
  | none => cases hbuild
  | some fs =>
    cases hvisible : visible hasher type [] fs with
    | error e =>
      rw [buildTable, hvisible] at hbuild
      cases hbuild
    | ok specs =>
      rw [buildTable, hvisible] at hbuild
      cases hbuild
      exact ⟨fs, rfl, shows_of_visible hvisible⟩

/-- Visible fields have names of their own, hashed by the hasher. -/
theorem Shows.fresh (hshows : Shows hasher seen fields specs) :
    FieldSpec.Fresh hasher seen specs := by
  induction hshows with
  | nil => exact .nil
  | hidden _ _ ih => exact ih
  | shown _ hunseen hhash _ ih => exact .cons hhash hunseen ih

/-- A field that templates see is one that is declared and is not hidden. -/
theorem Shows.declared (hshows : Shows hasher seen fields specs) {s : FieldSpec} (hs : s ∈ specs) :
    ∃ f ∈ fields, f.skip = false ∧ f.templateName = s.name ∧ f.name = s.attr := by
  induction hshows with
  | nil => cases hs
  | hidden _ _ ih =>
    obtain ⟨g, hg, hdeclared⟩ := ih hs
    exact ⟨g, List.mem_cons_of_mem _ hg, hdeclared⟩
  | @shown seen f fs specs hash hskip _ _ _ ih =>
    rcases List.mem_cons.1 hs with rfl | hs
    · exact ⟨f, List.mem_cons_self, hskip, rfl, rfl⟩
    · obtain ⟨g, hg, hdeclared⟩ := ih hs
      exact ⟨g, List.mem_cons_of_mem f hg, hdeclared⟩

/-- A declared field that is not hidden is one that templates see. -/
theorem Shows.listed (hshows : Shows hasher seen fields specs) {f : FieldDecl} (hf : f ∈ fields)
    (hskip : f.skip = false) :
    ∃ s ∈ specs, s.name = f.templateName ∧ s.attr = f.name ∧ s.markdown = f.markdown := by
  induction hshows with
  | nil => cases hf
  | hidden hhidden _ ih =>
    rcases List.mem_cons.1 hf with rfl | hf
    · rw [hhidden] at hskip
      cases hskip
    · exact ih hf
  | shown _ _ _ _ ih =>
    rcases List.mem_cons.1 hf with rfl | hf
    · exact ⟨_, List.mem_cons_self, rfl, rfl, rfl⟩
    · obtain ⟨s, hs, hlisted⟩ := ih hf
      exact ⟨s, List.mem_cons_of_mem _ hs, hlisted⟩

end RecordType

namespace FieldTable

/-- Every name in the table comes with its hash, and none comes twice. -/
structure WellHashed (hasher : Hasher) (t : FieldTable) : Prop where
  hashed : ∀ s ∈ t.specs, hasher s.name = some s.hash
  nodup : (t.specs.map FieldSpec.name).Nodup

/-- With the hash of a name a lookup finds the field of that name. -/
theorem WellHashed.lookup_eq {hasher : Hasher} {t : FieldTable} (ht : t.WellHashed hasher)
    {name : Text} {hash : Hash} (hname : hasher name = some hash) :
    t.lookup hash name = t.specs.find? fun s => s.name == name := by
  rw [FieldTable.lookup_eq]
  have hsame : ∀ s ∈ t.specs, (s.hash == hash && s.name == name) = (s.name == name) := by
    intro s hs
    have hhash := ht.hashed s hs
    by_cases heq : s.name = name
    · rw [heq, hname] at hhash
      simp [heq, Option.some.inj hhash]
    · simp [heq]
  rw [← List.head?_filter, ← List.head?_filter, List.filter_congr hsame]

/-- The field of a name is the one that is found. -/
theorem WellHashed.find_name {hasher : Hasher} {t : FieldTable} (ht : t.WellHashed hasher)
    {s : FieldSpec} (hs : s ∈ t.specs) {name : Text} (hname : s.name = name) :
    t.specs.find? (fun s => s.name == name) = some s := by
  have hfound : (t.specs.find? fun s => s.name == name).isSome :=
    List.find?_isSome.2 ⟨s, hs, beq_iff_eq.2 hname⟩
  obtain ⟨r, hr⟩ := Option.isSome_iff_exists.1 hfound
  have hsame : r.name = s.name := by
    have hfinds := List.find?_some hr
    exact (beq_iff_eq.1 hfinds).trans hname.symm
  rw [hr, List.inj_on_of_nodup_map ht.nodup (List.mem_of_find?_eq_some hr) hs hsame]

end FieldTable

/-- The table of a record type is well hashed. -/
theorem RecordType.wellHashed_of_buildTable {hasher : Hasher} {type : Text}
    {fields : Option (List FieldDecl)} {table : FieldTable}
    (hbuild : buildTable hasher type fields = .ok table) : table.WellHashed hasher := by
  obtain ⟨fs, -, hshows⟩ := shows_of_buildTable hbuild
  have hfresh := hshows.fresh
  exact ⟨hfresh.hashed, hfresh.nodup⟩

end Stencil
