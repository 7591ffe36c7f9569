import Stencil.Text.Utf8

namespace Stencil

/-- A tree of named entries. -/
inductive Entry where
  | file (content : Bytes)
  | directory (entries : List (Text × Entry))

namespace Entry

instance : Inhabited Entry := ⟨.directory []⟩

/-- The entry that some names lead to. -/
def at? : Entry → List Text → Option Entry
  | e, [] => some e
  | .file _, _ :: _ => none
  | .directory es, n :: ns =>
    match es.lookup n with
    | some e => e.at? ns
    | none => none

/-- Replaces the entry of a name, or adds one. -/
def setName (name : Text) (e : Entry) : List (Text × Entry) → List (Text × Entry)
  | [] => [(name, e)]
  | x :: xs => if x.1 = name then (name, e) :: xs else x :: setName name e xs

/-- Replaces the entry that some names lead to. The last name may be new in its directory. -/
def put (new : Entry) : List Text → Entry → Entry
  | [], _ => new
  | _ :: _, .file content => .file content
  | n :: ns, .directory es =>
    match es.lookup n with
    | some e => .directory (setName n (put new ns e) es)
    | none => if ns = [] then .directory (setName n new es) else .directory es

def isDirectory : Entry → Bool
  | directory _ => true
  | file _ => false

theorem lookup_setName (name other : Text) (e : Entry) (es : List (Text × Entry)) :
    (setName name e es).lookup other = if other = name then some e else es.lookup other := by
  induction es with
  | nil =>
    by_cases h : other = name
    · simp [setName, h]
    · have h' : (other == name) = false := by simpa using h
      simp [setName, List.lookup_cons, h, h']
  | cons x xs ih =>
    obtain ⟨k, v⟩ := x
    by_cases hk : k = name
    · subst hk
      by_cases h : other = k
      · simp [setName, h]
      · have h' : (other == k) = false := by simpa using h
        simp [setName, List.lookup_cons, h, h']
    · simp only [setName, hk, if_false, List.lookup_cons]
      by_cases h : other = k
      · subst h
        simp [hk]
      · have h' : (other == k) = false := by simpa using h
        simp [h', ih]

/-- An entry that is there, or whose directory is there, is found after it is put. -/
theorem at?_put {new e : Entry} {ns : List Text} (h : (e.at? ns.dropLast).any isDirectory) :
    (put new ns e).at? ns = some new := by
  induction ns generalizing e with
  | nil => rfl
  | cons n ns ih =>
    cases ns with
    | nil =>
      simp only [List.dropLast_singleton, at?, Option.any_some] at h
      cases e with
      | file c => simp [isDirectory] at h
      | directory es =>
        unfold put
        cases hl : es.lookup n <;> simp [at?, lookup_setName, put]
    | cons m ms =>
      simp only [List.dropLast_cons_of_ne_nil, ne_eq, reduceCtorEq, not_false_eq_true] at h
      cases e with
      | file c => simp [at?] at h
      | directory es =>
        simp only [at?] at h
        cases hl : es.lookup n with
        | none => simp [hl] at h
        | some f =>
          simp only [hl] at h
          unfold put
          simp only [hl, at?, lookup_setName, if_true]
          exact ih h

/-- Names that neither start with the replaced ones nor are a start of them lead where they led. -/
theorem at?_put_of_not_prefix {new e : Entry} {ns ms : List Text} (h : ¬ ns <+: ms)
    (h' : ¬ ms <+: ns) : (put new ns e).at? ms = e.at? ms := by
  induction ns generalizing e ms with
  | nil => exact absurd (List.nil_prefix) h
  | cons n ns ih =>
    cases ms with
    | nil => exact absurd (List.nil_prefix) h'
    | cons m ms =>
      cases e with
      | file c => rfl
      | directory es =>
        by_cases hm : m = n
        · subst hm
          rw [List.cons_prefix_cons] at h h'
          simp only [true_and] at h h'
          unfold put
          cases hl : es.lookup m with
          | some f => simp [at?, lookup_setName, hl, ih h h']
          | none =>
            by_cases hn : ns = []
            · exact absurd (hn ▸ List.nil_prefix) h
            · simp [hn, at?, hl]
        · unfold put
          cases hl : es.lookup n with
          | some f => simp [at?, lookup_setName, hm]
          | none =>
            by_cases hn : ns = [] <;> simp [hn, at?, lookup_setName, hm]

end Entry

end Stencil
