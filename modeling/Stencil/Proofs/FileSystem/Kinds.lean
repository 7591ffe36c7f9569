import Stencil.Proofs.FileSystem.Paths

namespace Stencil

namespace Entry

/-- What an entry is, apart from the entries that it holds. -/
inductive Kind where
  | file (content : Bytes)
  | directory
deriving DecidableEq

def kind : Entry → Kind
  | .file content => .file content
  | .directory _ => .directory

/-- What stands at a place, if anything does. -/
def kindAt (root : Entry) (place : List Text) : Option Kind := (root.at? place).map kind

/-- An entry that holds no other one. -/
def IsLeaf (e : Entry) : Prop := ∀ place, place ≠ [] → e.kindAt place = none

@[simp] theorem kindAt_nil (e : Entry) : e.kindAt [] = some e.kind := by
  cases e <;> rfl

theorem kindAt_file_cons (content : Bytes) (n : Text) (ns : List Text) :
    (file content).kindAt (n :: ns) = none := rfl

theorem kindAt_directory_cons (es : List (Text × Entry)) (n : Text) (ns : List Text) :
    (directory es).kindAt (n :: ns) = (es.lookup n).bind fun e => e.kindAt ns := by
  simp only [kindAt, at?]
  cases es.lookup n <;> rfl

theorem isLeaf_file (content : Bytes) : (file content).IsLeaf := by
  intro place hplace
  cases place with
  | nil => exact absurd rfl hplace
  | cons n ns => rfl

theorem isLeaf_empty : (directory []).IsLeaf := by
  intro place hplace
  cases place with
  | nil => exact absurd rfl hplace
  | cons n ns => rfl

/-- An entry is looked up below another one. -/
theorem at?_append (e : Entry) (ms ns : List Text) :
    e.at? (ms ++ ns) = (e.at? ms).bind fun e' => e'.at? ns := by
  induction ms generalizing e with
  | nil => cases e <;> rfl
  | cons m ms ih =>
    cases e with
    | file content => rfl
    | directory es =>
      simp only [List.cons_append, at?]
      cases es.lookup m with
      | none => rfl
      | some e' => exact ih e'

theorem kindAt_eq_directory_iff {e : Entry} {place : List Text} :
    e.kindAt place = some .directory ↔ ∃ es, e.at? place = some (directory es) := by
  unfold kindAt
  cases e.at? place with
  | none => simp
  | some e' => cases e' <;> simp [kind]

/-- A file stands at a place if the tree has it there. -/
theorem kindAt_eq_file_iff {e : Entry} {place : List Text} {content : Bytes} :
    e.kindAt place = some (.file content) ↔ e.at? place = some (file content) := by
  unfold kindAt
  cases e.at? place with
  | none => simp
  | some e' => cases e' <;> simp [kind]

theorem kindAt_eq_none_iff {e : Entry} {place : List Text} :
    e.kindAt place = none ↔ e.at? place = none := by
  simp [kindAt]

theorem kindAt_append (e : Entry) (ms ns : List Text) :
    e.kindAt (ms ++ ns) = (e.at? ms).bind fun e' => e'.kindAt ns := by
  rw [kindAt, at?_append]
  cases e.at? ms <;> rfl

/-- What stands below a place stands in a directory. -/
theorem kindAt_of_below {e : Entry} {place : List Text} {n : Text} {ns : List Text}
    (hbelow : e.kindAt (place ++ n :: ns) ≠ none) : e.kindAt place = some .directory := by
  rw [kindAt_append] at hbelow
  rw [kindAt]
  cases hat : e.at? place with
  | none => simp [hat] at hbelow
  | some e' =>
    cases e' with
    | file content => simp [hat, kindAt_file_cons] at hbelow
    | directory es => rfl

/-- The directories above a directory are directories. -/
theorem kindAt_dropLast {e : Entry} {place : List Text}
    (hdirectory : e.kindAt place = some .directory) : e.kindAt place.dropLast = some .directory := by
  rcases place.eq_nil_or_concat with rfl | ⟨above, n, rfl⟩
  · exact hdirectory
  · rw [List.concat_eq_append] at hdirectory ⊢
    rw [List.dropLast_concat]
    have hbelow : e.kindAt (above ++ [n]) ≠ none := by simp [hdirectory]
    exact kindAt_of_below hbelow

/-- Nothing stands below a place where there is no directory. -/
theorem kindAt_eq_none_of_below {e : Entry} {place below : List Text}
    (hfree : e.kindAt place ≠ some .directory) (hbelow : below ≠ []) :
    e.kindAt (place ++ below) = none := by
  obtain ⟨n, ns, rfl⟩ := List.exists_cons_of_ne_nil hbelow
  exact Decidable.not_not.1 fun hthere => hfree (kindAt_of_below hthere)

/-- What is set under a name is found under it, and all else as before. -/
theorem kindAt_setName (n m : Text) (ms : List Text) (e : Entry) (es : List (Text × Entry)) :
    (directory (setName n e es)).kindAt (m :: ms) =
      if m = n then e.kindAt ms else (directory es).kindAt (m :: ms) := by
  rw [kindAt_directory_cons, kindAt_directory_cons, lookup_setName]
  by_cases hm : m = n
  · rw [if_pos hm, if_pos hm, Option.bind_some]
  · rw [if_neg hm, if_neg hm]

/-- A leaf that is put in a directory, where nothing or a file stands, stands there then, and all
else stays as it is. -/
theorem kindAt_put {new root : Entry} {place : List Text} (hleaf : new.IsLeaf)
    (habove : root.kindAt place.dropLast = some .directory)
    (hfree : root.kindAt place ≠ some .directory) (query : List Text) :
    (put new place root).kindAt query =
      if query = place then some new.kind else root.kindAt query := by
  induction place generalizing root query with
  | nil => exact absurd habove hfree
  | cons n ns ih =>
    cases root with
    | file content => cases ns <;> simp [kindAt_file_cons, kind] at habove
    | directory es =>
      cases ns with
      | nil =>
        have hput : put new [n] (directory es) = directory (setName n new es) := by
          unfold put
          cases es.lookup n <;> rfl
        rw [hput]
        cases query with
        | nil => simp [kind]
        | cons m ms =>
          rw [kindAt_setName]
          by_cases hm : m = n
          · subst hm
            rw [if_pos rfl]
            by_cases hms : ms = []
            · simp [hms]
            · have hnothing := kindAt_eq_none_of_below hfree hms
              rw [hleaf ms hms, if_neg (by simp [hms])]
              exact hnothing.symm
          · rw [if_neg hm, if_neg (by simp [hm])]
      | cons k ks =>
        rw [List.dropLast_cons_of_ne_nil (by simp), kindAt_directory_cons] at habove
        cases hold : es.lookup n with
        | none => simp [hold] at habove
        | some e =>
          rw [hold, Option.bind_some] at habove
          rw [kindAt_directory_cons, hold, Option.bind_some] at hfree
          have hput : put new (n :: k :: ks) (directory es) =
              directory (setName n (put new (k :: ks) e) es) := by
            rw [put, hold]
          rw [hput]
          cases query with
          | nil => simp [kind]
          | cons m ms =>
            rw [kindAt_setName]
            by_cases hm : m = n
            · subst hm
              rw [if_pos rfl, ih habove hfree, kindAt_directory_cons, hold, Option.bind_some]
              simp
            · rw [if_neg hm, if_neg (by simp [hm])]

end Entry

namespace FileSystem

variable {root : Entry} {place : List Text}

/-- From a directory, a name is followed by what stands below it. -/
theorem follow_cons (hdirectory : root.kindAt place = some .directory) (n : Text) (ns : List Text) :
    follow root place (n :: ns) =
      if n = [] ∨ n = Path.here then follow root place ns
      else if n = Path.above then follow root place.dropLast ns
      else if Path.nameLimit < n.utf8Size then .error .nameTooLong
      else if (root.kindAt (place ++ [n])).isSome then follow root (place ++ [n]) ns
      else .error .notFound := by
  obtain ⟨es, hat⟩ := Entry.kindAt_eq_directory_iff.1 hdirectory
  have hbelow : (root.kindAt (place ++ [n])).isSome = (es.lookup n).isSome := by
    rw [Entry.kindAt, Entry.at?_append, hat]
    simp only [Option.bind_some, Entry.at?]
    cases es.lookup n with
    | none => rfl
    | some e => cases e <;> rfl
  rw [follow, hat, hbelow]

/-- From a directory, the name of an entry is followed if there is one. -/
theorem follow_name (hdirectory : root.kindAt place = some .directory) {n : Text}
    (hname : Path.IsName n) (ns : List Text) :
    follow root place (n :: ns) =
      if (root.kindAt (place ++ [n])).isSome then follow root (place ++ [n]) ns
      else .error .notFound := by
  have hshort := hname.short
  rw [follow_cons hdirectory, if_neg (not_or.2 hname.moving), if_neg hname.below, if_neg (by omega)]

/-- No path leads on from a file. -/
theorem follow_of_file {content : Bytes} (hfile : root.kindAt place = some (.file content))
    (n : Text) (ns : List Text) : follow root place (n :: ns) = .error .notADirectory := by
  rw [follow, Entry.kindAt_eq_file_iff.1 hfile]

/-- Nor from where nothing is. -/
theorem follow_of_nothing (hnothing : root.kindAt place = none) (n : Text) (ns : List Text) :
    follow root place (n :: ns) = .error .notFound := by
  rw [follow, Entry.kindAt_eq_none_iff.1 hnothing]

/-- Names of entries lead from a directory to what they name, if it is there. -/
theorem follow_names {names : List Text} (hnames : ∀ n ∈ names, Path.IsName n)
    (hdirectory : root.kindAt place = some .directory) :
    (follow root place names).toOption =
      if (root.kindAt (place ++ names)).isSome then some (place ++ names) else none := by
  induction names generalizing place with
  | nil => simp [follow, hdirectory, Except.toOption]
  | cons n names ih =>
    obtain ⟨hn, hnames⟩ := List.forall_mem_cons.1 hnames
    rw [follow_name hdirectory hn, List.append_cons place n names]
    rcases hnext : root.kindAt (place ++ [n]) with _ | content | _
    · have hnothing : root.kindAt (place ++ [n] ++ names) = none := by
        rw [Entry.kindAt_append, Entry.kindAt_eq_none_iff.1 hnext]
        rfl
      rw [hnothing]
      rfl
    · cases names with
      | nil => simp [follow, hnext, Except.toOption]
      | cons m names =>
        have hnothing : root.kindAt (place ++ [n] ++ m :: names) = none := by
          rw [Entry.kindAt_append, Entry.kindAt_eq_file_iff.1 hnext]
          rfl
        rw [hnothing, Option.isSome_some, if_pos rfl, follow_of_file hnext]
        rfl
    · rw [Option.isSome_some, if_pos rfl]
      exact ih hnames hnext

/-- Names are followed one after another. -/
theorem follow_append (root : Entry) (place : List Text) (ms ns : List Text) :
    follow root place (ms ++ ns) = follow root place ms >>= fun there => follow root there ns := by
  induction ms generalizing place with
  | nil => rfl
  | cons m ms ih =>
    rcases hkind : root.kindAt place with _ | content | _
    · rw [List.cons_append, follow_of_nothing hkind, follow_of_nothing hkind]
      rfl
    · rw [List.cons_append, follow_of_file hkind, follow_of_file hkind]
      rfl
    · rw [List.cons_append, follow_cons hkind, follow_cons hkind]
      by_cases hstay : m = [] ∨ m = Path.here
      · simp only [if_pos hstay, ih]
      · by_cases habove : m = Path.above
        · simp only [if_neg hstay, if_pos habove, ih]
        · simp only [if_neg hstay, if_neg habove, ih]
          split
          · rfl
          · split <;> rfl

/-- A way through directories that are still there leads where it led. -/
theorem follow_of_directories {root' : Entry} {names there : List Text}
    (hkeeps : ∀ query, root.kindAt query = some .directory → root'.kindAt query = some .directory)
    (hfollow : follow root place names = .ok there)
    (hthere : root.kindAt there = some .directory) : follow root' place names = .ok there := by
  induction names generalizing place with
  | nil => exact hfollow
  | cons n names ih =>
    rcases hkind : root.kindAt place with _ | content | _
    · simp [follow_of_nothing hkind] at hfollow
    · simp [follow_of_file hkind] at hfollow
    · rw [follow_cons hkind] at hfollow
      rw [follow_cons (hkeeps place hkind)]
      by_cases hstay : n = [] ∨ n = Path.here
      · rw [if_pos hstay] at hfollow ⊢
        exact ih hfollow
      · rw [if_neg hstay] at hfollow ⊢
        by_cases habove : n = Path.above
        · rw [if_pos habove] at hfollow ⊢
          exact ih hfollow
        · rw [if_neg habove] at hfollow ⊢
          by_cases hlong : Path.nameLimit < n.utf8Size
          · simp [hlong] at hfollow
          · rw [if_neg hlong] at hfollow ⊢
            rcases hnext : root.kindAt (place ++ [n]) with _ | content | _
            · simp [hnext] at hfollow
            · -- A file can only be the end of a way, and the end is a directory.
              rw [hnext, Option.isSome_some, if_pos rfl] at hfollow
              cases names with
              | nil =>
                cases hfollow
                simp [hnext] at hthere
              | cons m names => simp [follow_of_file hnext] at hfollow
            · rw [hnext, Option.isSome_some, if_pos rfl] at hfollow
              rw [hkeeps _ hnext, Option.isSome_some, if_pos rfl]
              exact ih hfollow

end FileSystem

end Stencil
