import Stencil.Proofs.FileSystem.Kinds

namespace Stencil

namespace Entry

/-- A tree in which everything still stands that stood in another one, and besides only
directories. -/
structure Grown (old new : Entry) : Prop where
  keeps : ∀ {place kind}, old.kindAt place = some kind → new.kindAt place = some kind
  adds : ∀ {place}, old.kindAt place = none →
    new.kindAt place = none ∨ new.kindAt place = some .directory

theorem Grown.refl (e : Entry) : Grown e e := ⟨id, .inl⟩

/-- A tree that has grown twice has grown. -/
theorem Grown.trans {a b c : Entry} (hab : Grown a b) (hbc : Grown b c) : Grown a c where
  keeps h := hbc.keeps (hab.keeps h)
  adds h := by
    rcases hab.adds h with hb | hb
    · exact hbc.adds hb
    · exact .inr (hbc.keeps hb)

/-- An empty directory put where nothing was makes the tree grow. -/
theorem grown_put {root : Entry} {place : List Text}
    (habove : root.kindAt place.dropLast = some .directory) (hnothing : root.kindAt place = none) :
    Grown root (put (.directory []) place root) := by
  have hput := kindAt_put isLeaf_empty habove (by simp [hnothing])
  constructor
  · intro query kind hquery
    rw [hput, if_neg (by rintro rfl; simp [hnothing] at hquery), hquery]
  · intro query hquery
    rw [hput]
    split
    · exact .inr rfl
    · exact .inl hquery

end Entry

/-- A tree, and the place where one is in it. -/
structure Way where
  root : Entry
  place : List Text

namespace Way

/-- Goes on by a name, and makes the directory if nothing stands there. A file is in the way, and so
is a name that is too long. -/
def enter (w : Way) (n : Text) : Option Way :=
  if n = Path.above then some { w with place := w.place.dropLast }
  else if Path.nameLimit < n.utf8Size then none
  else match w.root.kindAt (w.place ++ [n]) with
    | some (.file _) => none
    | some .directory => some { w with place := w.place ++ [n] }
    | none => some ⟨Entry.put (.directory []) (w.place ++ [n]) w.root, w.place ++ [n]⟩

/-- Goes on by some names. -/
def make (w : Way) (names : List Text) : Option Way := names.foldlM enter w

/-- One is in a directory. -/
def InDirectory (w : Way) : Prop := w.root.kindAt w.place = some .directory

variable {w w' : Way} {n : Text} {names : List Text}

section Named

variable (hname : Path.IsName n)

include hname

/-- A directory that is there is entered. -/
theorem enter_of_directory (hthere : w.root.kindAt (w.place ++ [n]) = some .directory) :
    w.enter n = some { w with place := w.place ++ [n] } := by
  simp only [enter, if_neg hname.below, if_neg (Nat.not_lt.2 hname.short), hthere]

/-- Where nothing is, a directory is made and entered. -/
theorem enter_of_nothing (hnothing : w.root.kindAt (w.place ++ [n]) = none) :
    w.enter n = some ⟨Entry.put (.directory []) (w.place ++ [n]) w.root, w.place ++ [n]⟩ := by
  simp only [enter, if_neg hname.below, if_neg (Nat.not_lt.2 hname.short), hnothing]

end Named

/-- All that entering a name can do. -/
theorem enter_cases (henter : w.enter n = some w') :
    (n = Path.above ∧ w' = { w with place := w.place.dropLast }) ∨
    (n ≠ Path.above ∧ n.utf8Size ≤ Path.nameLimit ∧ w'.place = w.place ++ [n] ∧
      ((w.root.kindAt (w.place ++ [n]) = some .directory ∧ w'.root = w.root) ∨
        w.root.kindAt (w.place ++ [n]) = none ∧
          w'.root = Entry.put (.directory []) (w.place ++ [n]) w.root)) := by
  unfold enter at henter
  split at henter
  · cases henter
    exact .inl ⟨‹_›, rfl⟩
  · split at henter
    · cases henter
    · have hsize : n.utf8Size ≤ Path.nameLimit := by omega
      split at henter
      · cases henter
      · cases henter
        exact .inr ⟨‹_›, hsize, rfl, .inl ⟨‹_›, rfl⟩⟩
      · cases henter
        exact .inr ⟨‹_›, hsize, rfl, .inr ⟨‹_›, rfl⟩⟩

/-- A name is not entered only if it is too long or a file. -/
theorem enter_eq_none (henter : w.enter n = none) :
    n ≠ Path.above ∧ (Path.nameLimit < n.utf8Size ∨
      ∃ content, w.root.kindAt (w.place ++ [n]) = some (.file content)) := by
  unfold enter at henter
  split at henter
  · cases henter
  · refine ⟨‹_›, ?_⟩
    split at henter
    · exact .inl ‹_›
    · split at henter
      · exact .inr ⟨_, ‹_›⟩
      · cases henter
      · cases henter

/-- Entering a name leaves one in a directory, in a tree that has grown at most. -/
theorem enter_grown (hin : w.InDirectory) (henter : w.enter n = some w') :
    w'.InDirectory ∧ Entry.Grown w.root w'.root := by
  rcases enter_cases henter with ⟨-, rfl⟩ | ⟨-, -, hplace, hthere | hmissing⟩
  · exact ⟨Entry.kindAt_dropLast hin, .refl _⟩
  · unfold InDirectory
    rw [hplace, hthere.2]
    exact ⟨hthere.1, .refl _⟩
  · have habove : w.root.kindAt (w.place ++ [n]).dropLast = some .directory := by
      rw [List.dropLast_concat]
      exact hin
    have hput := Entry.kindAt_put Entry.isLeaf_empty habove (by simp [hmissing.1])
    unfold InDirectory
    rw [hplace, hmissing.2]
    exact ⟨by rw [hput, if_pos rfl]; rfl, Entry.grown_put habove hmissing.1⟩

theorem make_cons (w : Way) (n : Text) (names : List Text) :
    w.make (n :: names) = (w.enter n).bind fun v => v.make names := by
  simp only [make, List.foldlM_cons]
  rfl

theorem make_concat (w : Way) (names : List Text) (n : Text) :
    w.make (names ++ [n]) = (w.make names).bind fun v => v.enter n := by
  simp only [make, List.foldlM_append, List.foldlM_cons, List.foldlM_nil]
  cases names.foldlM enter w with
  | none => rfl
  | some v => simp

/-- And so does a whole way: nothing but directories comes to the tree. -/
theorem make_grown (hin : w.InDirectory) (hmake : w.make names = some w') :
    w'.InDirectory ∧ Entry.Grown w.root w'.root := by
  induction names generalizing w with
  | nil =>
    cases hmake
    exact ⟨hin, .refl _⟩
  | cons n names ih =>
    rw [make_cons] at hmake
    obtain ⟨v, henter, hrest⟩ := Option.bind_eq_some_iff.1 hmake
    obtain ⟨hv, hgrown⟩ := enter_grown hin henter
    obtain ⟨hw', hgrown'⟩ := ih hv hrest
    exact ⟨hw', hgrown.trans hgrown'⟩

/-- Names that lead somewhere themselves: they are neither empty nor stay where they are. -/
def Moving (names : List Text) : Prop := ∀ n ∈ names, n ≠ [] ∧ n ≠ Path.here

instance : Decidable (Moving names) :=
  inferInstanceAs (Decidable (∀ n ∈ names, n ≠ [] ∧ n ≠ Path.here))

/-- Where the directories are made, the names lead. -/
theorem follow_after (hin : w.InDirectory) (hmoving : Moving names)
    (hmake : w.make names = some w') :
    FileSystem.follow w'.root w.place names = .ok w'.place := by
  induction names generalizing w with
  | nil =>
    cases hmake
    rfl
  | cons n names ih =>
    rw [make_cons] at hmake
    obtain ⟨v, henter, hrest⟩ := Option.bind_eq_some_iff.1 hmake
    obtain ⟨hn, hmoving⟩ := List.forall_mem_cons.1 hmoving
    obtain ⟨hv, hgrown⟩ := enter_grown hin henter
    have hgrown' := (make_grown hv hrest).2
    have hnext := ih hv hmoving hrest
    rw [FileSystem.follow_cons (hgrown'.keeps (hgrown.keeps hin)),
      if_neg (not_or.2 hn)]
    rcases enter_cases henter with ⟨habove, rfl⟩ | ⟨habove, hsize, hplace, -⟩
    · rw [if_pos habove]
      exact hnext
    · have hthere : w'.root.kindAt (w.place ++ [n]) = some .directory := by
        rw [← hplace]
        exact hgrown'.keeps hv
      rw [if_neg habove, if_neg (by omega), hthere, ← hplace]
      exact hnext

/-- Going on by a name is following it, unless the directory had to be made. -/
theorem follow_entered (hin : w.InDirectory) (hn : n ≠ [] ∧ n ≠ Path.here)
    (henter : w.enter n = some w') (names : List Text) :
    (w'.root = w.root ∧ FileSystem.follow w.root w.place (n :: names) =
        FileSystem.follow w'.root w'.place names) ∨
      FileSystem.follow w.root w.place (n :: names) = .error .notFound := by
  rw [FileSystem.follow_cons hin, if_neg (not_or.2 hn)]
  rcases enter_cases henter with ⟨habove, rfl⟩ | ⟨habove, hsize, hplace, hthere | hmissing⟩
  · rw [if_pos habove]
    exact .inl ⟨rfl, rfl⟩
  · rw [if_neg habove, if_neg (by omega), hthere.1, hthere.2, hplace]
    exact .inl ⟨rfl, rfl⟩
  · rw [if_neg habove, if_neg (by omega), hmissing.1]
    exact .inr rfl

/-- Before the directories are made, either none is missing, or the first one that is ends the
way. -/
theorem follow_before (hin : w.InDirectory) (hmoving : Moving names)
    (hmake : w.make names = some w') :
    (FileSystem.follow w.root w.place names = .ok w'.place ∧ w'.root = w.root) ∨
      FileSystem.follow w.root w.place names = .error .notFound := by
  induction names generalizing w with
  | nil =>
    cases hmake
    exact .inl ⟨rfl, rfl⟩
  | cons n names ih =>
    rw [make_cons] at hmake
    obtain ⟨v, henter, hrest⟩ := Option.bind_eq_some_iff.1 hmake
    obtain ⟨hn, hmoving⟩ := List.forall_mem_cons.1 hmoving
    rcases follow_entered hin hn henter names with ⟨hroot, hsame⟩ | hmissing
    · rw [hsame, ← hroot]
      exact ih (enter_grown hin henter).1 hmoving hrest
    · exact .inr hmissing

/-- Where the directories cannot be made, the names lead to no directory. -/
theorem follow_of_stuck (hin : w.InDirectory) (hmoving : Moving names) (hstuck : w.make names = none)
    {place : List Text} (hfollow : FileSystem.follow w.root w.place names = .ok place) :
    ∃ content, w.root.kindAt place = some (.file content) := by
  induction names generalizing w with
  | nil => cases hstuck
  | cons n names ih =>
    rw [make_cons] at hstuck
    obtain ⟨hn, hmoving⟩ := List.forall_mem_cons.1 hmoving
    cases henter : w.enter n with
    | some v =>
      rw [henter, Option.bind_some] at hstuck
      rcases follow_entered hin hn henter names with ⟨hroot, hsame⟩ | hmissing
      · rw [hsame] at hfollow
        rw [← hroot]
        exact ih (enter_grown hin henter).1 hmoving hstuck hfollow
      · rw [hmissing] at hfollow
        cases hfollow
    | none =>
      rw [FileSystem.follow_cons hin, if_neg (not_or.2 hn)] at hfollow
      obtain ⟨habove, hblocked⟩ := enter_eq_none henter
      by_cases hlong : Path.nameLimit < n.utf8Size
      · rw [if_neg habove, if_pos hlong] at hfollow
        cases hfollow
      · obtain ⟨content, hfile⟩ := hblocked.resolve_left hlong
        rw [if_neg habove, if_neg hlong, hfile, Option.isSome_some, if_pos rfl] at hfollow
        cases names with
        | nil =>
          cases hfollow
          exact ⟨content, hfile⟩
        | cons m names => simp [FileSystem.follow_of_file hfile] at hfollow

end Way

end Stencil
