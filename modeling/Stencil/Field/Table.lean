import Stencil.Field.Hash

namespace Stencil

/-- A field as templates see it: its name there, the attribute it shows, and its options. -/
structure FieldSpec where
  name : Text
  attr : Text
  hash : Hash
  markdown : Bool
deriving DecidableEq

/-- The fields that share a hash, in order. -/
structure Bucket where
  hash : Hash
  specs : List FieldSpec
deriving DecidableEq

namespace Bucket

/-- Adds a field to the bucket of its hash, or opens one at the end. -/
def insert (s : FieldSpec) : List Bucket → List Bucket
  | [] => [⟨s.hash, [s]⟩]
  | b :: bs => if b.hash = s.hash then ⟨b.hash, b.specs ++ [s]⟩ :: bs else b :: insert s bs

def group (specs : List FieldSpec) : List Bucket := specs.foldl (fun bs s => insert s bs) []

/-- The fields of one hash; none if no bucket has it. -/
def find (h : Hash) (bs : List Bucket) : List FieldSpec :=
  ((bs.find? fun b => b.hash == h).map Bucket.specs).getD []

theorem find_insert (s : FieldSpec) (h : Hash) (bs : List Bucket) :
    find h (insert s bs) = find h bs ++ (if s.hash = h then [s] else []) := by
  induction bs with
  | nil => by_cases hs : s.hash = h <;> simp [insert, find, hs]
  | cons b bs ih =>
    simp only [find] at ih
    by_cases hb : b.hash = s.hash
    · by_cases hs : s.hash = h <;> simp [insert, find, hb, hs]
    · by_cases hh : b.hash = h
      · have hs : ¬ s.hash = h := fun e => hb (hh.trans e.symm)
        have hs' : ¬ h = s.hash := fun e => hs e.symm
        simp [insert, find, hh, hs, hs']
      · simp [insert, find, hb, hh, ih]

theorem find_foldl (specs : List FieldSpec) (h : Hash) (bs : List Bucket) :
    find h (specs.foldl (fun bs s => insert s bs) bs) =
      find h bs ++ specs.filter (fun s => s.hash = h) := by
  induction specs generalizing bs with
  | nil => simp
  | cons s specs ih =>
    rw [List.foldl_cons, ih, find_insert]
    by_cases hs : s.hash = h <;> simp [hs]

/-- A bucket holds the fields of its hash in the given order. -/
theorem find_group (specs : List FieldSpec) (h : Hash) :
    find h (group specs) = specs.filter (fun s => s.hash = h) := by
  rw [group, find_foldl]
  rfl

end Bucket

/-- Fields in order, with their buckets. -/
structure FieldTable where
  specs : List FieldSpec
  buckets : List Bucket := Bucket.group specs
  buckets_eq : buckets = Bucket.group specs := by rfl
deriving DecidableEq

namespace FieldTable

def ofSpecs (specs : List FieldSpec) : FieldTable := { specs }

/-- A table in which every name shows the attribute of the same name. -/
def ofNames? (hasher : Hasher) (names : List Text) : Option FieldTable :=
  (names.mapM fun n => (hasher n).map fun h => FieldSpec.mk n n h false).map ofSpecs

def size (t : FieldTable) : Nat := t.specs.length

/-- The field for a name and its hash. -/
def lookup (t : FieldTable) (hash : Hash) (name : Text) : Option FieldSpec :=
  (Bucket.find hash t.buckets).find? fun s => s.name == name

/-- A lookup finds the first field in order with this hash and this name. -/
theorem lookup_eq (t : FieldTable) (hash : Hash) (name : Text) :
    t.lookup hash name = t.specs.find? (fun s => s.hash == hash && s.name == name) := by
  rw [lookup, t.buckets_eq, Bucket.find_group, List.find?_filter]
  congr 1
  funext s
  by_cases hh : s.hash = hash <;> by_cases hn : s.name = name <;> simp [hh, hn]

end FieldTable

end Stencil
