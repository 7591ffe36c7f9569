import Mathlib.Data.List.Induction
import Mathlib.Data.List.Nodup
import Stencil.Field.Table

namespace Stencil

namespace Bucket

/-- A field goes to the bucket of its hash, or opens one behind the others. -/
theorem map_hash_insert (s : FieldSpec) (bs : List Bucket) :
    (insert s bs).map hash =
      if s.hash ∈ bs.map hash then bs.map hash else bs.map hash ++ [s.hash] := by
  induction bs with
  | nil => rfl
  | cons b bs ih =>
    unfold insert
    by_cases hsame : b.hash = s.hash
    · simp [hsame]
    · rw [if_neg hsame, List.map_cons, ih, List.map_cons]
      by_cases hlater : s.hash ∈ bs.map hash
      · rw [if_pos hlater, if_pos (List.mem_cons_of_mem _ hlater)]
      · rw [if_neg hlater, if_neg (by simpa [Ne.symm hsame] using hlater), List.cons_append]

/-- No field is lost or kept twice. -/
theorem flatMap_specs_insert (s : FieldSpec) (bs : List Bucket) :
    ((insert s bs).flatMap specs).Perm (bs.flatMap specs ++ [s]) := by
  induction bs with
  | nil => exact .refl _
  | cons b bs ih =>
    unfold insert
    split
    · -- The field ends up behind its bucket, with the later buckets between it and the end.
      rw [List.flatMap_cons, List.flatMap_cons, List.append_assoc, List.append_assoc]
      exact List.perm_append_comm.append_left b.specs
    · rw [List.flatMap_cons, List.flatMap_cons, List.append_assoc]
      exact ih.append_left b.specs

/-- Where no hash has two buckets, every bucket is the one that is found. -/
theorem find_of_mem {bs : List Bucket} (hnodup : (bs.map hash).Nodup) {b : Bucket} (hb : b ∈ bs) :
    find b.hash bs = b.specs := by
  induction bs with
  | nil => cases hb
  | cons c bs ih =>
    rw [List.map_cons, List.nodup_cons] at hnodup
    rcases List.mem_cons.1 hb with rfl | hb
    · simp [find]
    · have hother : (c.hash == b.hash) = false := by
        apply beq_eq_false_iff_ne.2
        intro hsame
        exact hnodup.1 (hsame ▸ List.mem_map_of_mem hb)
      have hfind := ih hnodup.2 hb
      unfold find at hfind ⊢
      rw [List.find?_cons, hother]
      exact hfind

/-- Buckets that keep some fields: one bucket for each hash, where the hash first comes, and in the
buckets together every field as often as it is given. -/
structure Keeps (fields : List FieldSpec) (bs : List Bucket) : Prop where
  hashes : bs.map hash = (fields.map FieldSpec.hash).eraseDups
  nodup : (bs.map hash).Nodup
  perm : (bs.flatMap specs).Perm fields

namespace Keeps

theorem nil : Keeps [] [] := ⟨rfl, List.nodup_nil, .refl _⟩

/-- A field that is inserted comes behind those that are kept. -/
theorem insert {fields : List FieldSpec} {bs : List Bucket} (hkeeps : Keeps fields bs)
    (s : FieldSpec) : Keeps (fields ++ [s]) (Bucket.insert s bs) where
  hashes := by
    rw [map_hash_insert, hkeeps.hashes, List.map_append, List.map_singleton,
      List.eraseDups_append]
    generalize fields.map FieldSpec.hash = hashes
    by_cases hbefore : s.hash ∈ hashes
    · simp [List.removeAll, List.mem_eraseDups, hbefore]
    · simp [List.removeAll, List.mem_eraseDups, List.eraseDups_cons, hbefore]
  nodup := by
    have hnodup := hkeeps.nodup
    rw [map_hash_insert]
    split
    · exact hnodup
    · rename_i hnew
      exact hnodup.append (List.nodup_singleton _) (List.disjoint_singleton.2 hnew)
  perm := (flatMap_specs_insert s bs).trans (hkeeps.perm.append_right [s])

end Keeps

/-- Filling the buckets field by field keeps all of them, in their order in each bucket. -/
theorem keeps_group (fields : List FieldSpec) : Keeps fields (group fields) := by
  induction fields using List.reverseRecOn with
  | nil => exact .nil
  | append_singleton fields s ih =>
    rw [group, List.foldl_append]
    exact ih.insert s

/-- A bucket holds the fields of its hash, in the order in which they are given. -/
theorem specs_of_mem_group {fields : List FieldSpec} {b : Bucket} (hb : b ∈ group fields) :
    b.specs = fields.filter fun s => s.hash = b.hash := by
  rw [← find_of_mem (keeps_group fields).nodup hb, find_group]

end Bucket

namespace FieldSpec

/-- The field is asked for by this hash and this name. -/
def Answers (hash : Hash) (name : Text) (s : FieldSpec) : Prop := s.hash = hash ∧ s.name = name

/-- The first of some fields that is asked for by this hash and this name. -/
def IsFirst (fields : List FieldSpec) (hash : Hash) (name : Text) (s : FieldSpec) : Prop :=
  s.Answers hash name ∧
    ∃ before after, fields = before ++ s :: after ∧ ∀ r ∈ before, ¬ r.Answers hash name

theorem beq_and_beq_iff (hash : Hash) (name : Text) (s : FieldSpec) :
    (s.hash == hash && s.name == name) = true ↔ s.Answers hash name := by
  rw [Bool.and_eq_true, beq_iff_eq, beq_iff_eq, Answers]

end FieldSpec

namespace FieldTable

/-- What a table of some fields consists of, and what it answers. -/
structure Scans (fields : List FieldSpec) (t : FieldTable) : Prop where
  specs_eq : t.specs = fields
  size_eq : t.size = fields.length
  keeps : Bucket.Keeps fields t.buckets
  bucket_eq : ∀ b ∈ t.buckets, b.specs = fields.filter fun s => s.hash = b.hash
  lookup_eq : ∀ hash name,
    t.lookup hash name = fields.find? fun s => s.hash == hash && s.name == name
  lookup_eq_some_iff : ∀ hash name s,
    t.lookup hash name = some s ↔ s.IsFirst fields hash name
  lookup_eq_none_iff : ∀ hash name,
    t.lookup hash name = none ↔ ∀ s ∈ fields, ¬ s.Answers hash name

/-- A lookup finds the first field in order with this hash and name. -/
theorem lookup_eq_some_iff (t : FieldTable) (hash : Hash) (name : Text) (s : FieldSpec) :
    t.lookup hash name = some s ↔ s.IsFirst t.specs hash name := by
  rw [lookup_eq, List.find?_eq_some_iff_append]
  simp only [Bool.not_eq_true', ← Bool.not_eq_true, FieldSpec.beq_and_beq_iff, FieldSpec.IsFirst]

/-- It finds none only if no field has both. -/
theorem lookup_eq_none_iff (t : FieldTable) (hash : Hash) (name : Text) :
    t.lookup hash name = none ↔ ∀ s ∈ t.specs, ¬ s.Answers hash name := by
  rw [lookup_eq, List.find?_eq_none]
  simp only [FieldSpec.beq_and_beq_iff]

/-- Whatever the hashes are and however often a name comes, the table gives the fields back in
order, finds the first of them that has the hash and the name asked for, and finds nothing if there
is none; its buckets are the fields of one hash each, all in their order. -/
theorem ofSpecs_scans (fields : List FieldSpec) : (ofSpecs fields).Scans fields where
  specs_eq := rfl
  size_eq := rfl
  keeps := Bucket.keeps_group fields
  bucket_eq := fun _ hb => Bucket.specs_of_mem_group hb
  lookup_eq := (ofSpecs fields).lookup_eq
  lookup_eq_some_iff := (ofSpecs fields).lookup_eq_some_iff
  lookup_eq_none_iff := (ofSpecs fields).lookup_eq_none_iff

/-- Two names that share their hash, and one of them comes twice. -/
example :
    let slug : FieldSpec := ⟨Text.of "id", Text.of "slug", 7, false⟩
    let title : FieldSpec := ⟨Text.of "title", Text.of "title", 7, true⟩
    let shadowed : FieldSpec := ⟨Text.of "id", Text.of "number", 7, false⟩
    (ofSpecs [title, slug, shadowed]).buckets = [⟨7, [title, slug, shadowed]⟩] ∧
      (ofSpecs [title, slug, shadowed]).lookup 7 (Text.of "id") = some slug ∧
      (ofSpecs [title, slug, shadowed]).lookup 8 (Text.of "id") = none := by
  decide

end FieldTable

end Stencil
