import Stencil.Proofs.FileSystem.Directories

namespace Stencil

namespace FileSystem

variable {fs : FileSystem} {root : Text} {names place : List Text} {n : Text}

/-- A file is opened where no directory stands; what it held is gone. -/
theorem openEmpty_of_follow (husable : Path.fault? (Path.toText ⟨root, names ++ [n]⟩) = none)
    (hfollow : follow fs.root (fs.startOf ⟨root, names⟩) names = .ok place)
    (hdirectory : fs.root.kindAt place = some .directory) (habove : n ≠ Path.above)
    (hsize : n.utf8Size ≤ Path.nameLimit)
    (hfree : fs.root.kindAt (place ++ [n]) ≠ some .directory) :
    fs.openEmpty ⟨root, names ++ [n]⟩ =
      .ok (fs.putAt (place ++ [n]) (.file []), place ++ [n]) := by
  have hlast := locateLast_concat husable hfollow hdirectory
  rw [if_neg habove, if_neg (by omega)] at hlast
  simp only [openEmpty, hlast]
  split
  · rename_i es hat
    exact absurd (Entry.kindAt_eq_directory_iff.2 ⟨es, hat⟩) hfree
  · rfl

/-- A file can be written at a path: the directories above it are there or can be made, and at its
place no directory stands. `grown` is the tree with these directories. -/
structure Writable (fs : FileSystem) (p : Path) (grown : Entry) (place : List Text) : Prop where
  usable : Path.fault? p.toText = none
  moving : Way.Moving p.parts
  started : fs.root.kindAt (fs.startOf p) = some .directory
  free : grown.kindAt place ≠ some .directory
  made : ∃ names n directory, p.parts = names ++ [n] ∧ place = directory ++ [n] ∧
    Way.make ⟨fs.root, fs.startOf p⟩ names = some ⟨grown, directory⟩ ∧
    n ≠ Path.above ∧ n.utf8Size ≤ Path.nameLimit

/-- The files after some content is written at a path: the directories above it are there, and
nothing else has changed. -/
structure Written (fs : FileSystem) (p : Path) (grown : Entry) (place : List Text) (content : Bytes)
    (fs' : FileSystem) : Prop where
  leads : follow fs'.root (fs'.startOf p) p.parts = .ok place
  read : fs'.read p = .ok content
  parent : fs'.isDirectory p.parent = true
  keeps : Entry.Grown fs.root grown
  kindAt : ∀ query, fs'.root.kindAt query =
    if query = place then some (.file content) else grown.kindAt query
  cwd : fs'.cwd = fs.cwd

namespace Writable

variable {p : Path} {grown : Entry}

/-- The system makes the directories above a path that can be written. -/
theorem ensureDirectories (h : fs.Writable p grown place) :
    fs.ensureDirectories p.parent = ({ fs with root := grown }, none) := by
  obtain ⟨root, parts⟩ := p
  obtain ⟨names, n, directory, rfl, -, hmake, -⟩ := h.made
  rw [Path.parent_concat]
  exact ensureDirectories_of_make h.started (Path.fault?_init h.usable)
    (fun m hm => h.moving m (List.mem_append_left _ hm)) hmake

/-- The directory of the file in the tree with all directories. -/
theorem follow_parent (h : fs.Writable p grown place) :
    FileSystem.follow grown (fs.startOf p) p.parts.dropLast = .ok place.dropLast ∧
      grown.kindAt place.dropLast = some .directory ∧ Entry.Grown fs.root grown := by
  obtain ⟨names, n, directory, hparts, rfl, hmake, -⟩ := h.made
  have hmoving : Way.Moving names := fun m hm => h.moving m (by simp [hparts, hm])
  obtain ⟨hin, hgrown⟩ := Way.make_grown (w := ⟨fs.root, fs.startOf p⟩) h.started hmake
  rw [hparts, List.dropLast_concat, List.dropLast_concat]
  exact ⟨Way.follow_after (w := ⟨fs.root, fs.startOf p⟩) h.started hmoving hmake, hin, hgrown⟩

/-- Then it opens the file, empty, whatever it held. -/
theorem openEmpty (h : fs.Writable p grown place) :
    FileSystem.openEmpty { fs with root := grown } p =
      .ok ({ fs with root := Entry.put (.file []) place grown }, place) := by
  obtain ⟨root, parts⟩ := p
  obtain ⟨hfollow, hdirectory, -⟩ := h.follow_parent
  have husable := h.usable
  have hfree := h.free
  obtain ⟨names, n, directory, rfl, rfl, -, habove, hsize⟩ := h.made
  simp only [List.dropLast_concat] at hfollow hdirectory
  exact openEmpty_of_follow husable hfollow hdirectory habove hsize hfree

/-- What stands in the tree when the file is written. -/
theorem kindAt_written (h : fs.Writable p grown place) (content : Bytes) (query : List Text) :
    (Entry.put (.file content) place (Entry.put (.file []) place grown)).kindAt query =
      if query = place then some (.file content) else grown.kindAt query := by
  obtain ⟨-, hdirectory, -⟩ := h.follow_parent
  have hopened := Entry.kindAt_put (Entry.isLeaf_file []) hdirectory h.free
  have habove : (Entry.put (.file []) place grown).kindAt place.dropLast = some .directory := by
    rw [hopened, if_neg, hdirectory]
    intro hplace
    exact h.free (hplace ▸ hdirectory)
  have hfree : (Entry.put (.file []) place grown).kindAt place ≠ some .directory := by
    rw [hopened, if_pos rfl]
    simp [Entry.kind]
  rw [Entry.kindAt_put (Entry.isLeaf_file content) habove hfree, hopened]
  split <;> rfl

/-- The path leads to the file that is written. -/
theorem written (h : fs.Writable p grown place) (content : Bytes) :
    fs.Written p grown place content
      { fs with root := Entry.put (.file content) place (Entry.put (.file []) place grown) } := by
  obtain ⟨root, parts⟩ := p
  have hkind := h.kindAt_written content
  generalize hroot : Entry.put (.file content) place (Entry.put (.file []) place grown) = new
    at hkind ⊢
  have hkeeps : ∀ query, grown.kindAt query = some .directory →
      new.kindAt query = some .directory := by
    intro query hquery
    rw [hkind, if_neg, hquery]
    rintro rfl
    exact h.free hquery
  obtain ⟨hfollow, hdirectory, hgrown⟩ := h.follow_parent
  have hparent := follow_of_directories hkeeps hfollow hdirectory
  obtain ⟨names, n, directory, rfl, rfl, -, habove, hsize⟩ := h.made
  simp only [List.dropLast_concat] at hparent hdirectory
  have hlast : follow new directory [n] = .ok (directory ++ [n]) := by
    rw [follow_name (hkeeps _ hdirectory) ⟨h.moving n (by simp), habove, hsize⟩, hkind, if_pos rfl]
    rfl
  have hfile : follow new (fs.startOf ⟨root, names ++ [n]⟩) (names ++ [n]) =
      .ok (directory ++ [n]) := by
    rw [follow_append]
    exact (congrArg (· >>= fun there => follow new there [n]) hparent).trans hlast
  refine ⟨hfile, read_of_follow h.usable hfile (by rw [hkind, if_pos rfl]), ?_, hgrown, hkind, rfl⟩
  rw [Path.parent_concat]
  exact isDirectory_of_follow (Path.fault?_init h.usable) hparent (hkeeps _ hdirectory)

end Writable

/-- A file is opened at the last name of a path that can be used. -/
theorem locateLast_cases {p : Path} {directory : List Text}
    (hlast : fs.locateLast p = .ok (directory, some n)) :
    Path.fault? p.toText = none ∧ ∃ names, p.parts = names ++ [n] := by
  unfold locateLast at hlast
  split at hlast
  · cases hlast
  · cases hlast
  · rename_i m hfault hname
    refine ⟨hfault, ?_⟩
    have hm : m = n := by
      cases hlocate : fs.locate p.parent with
      | error e =>
        rw [hlocate] at hlast
        cases hlast
      | ok place =>
        rw [hlocate] at hlast
        simp only [Bind.bind, Except.bind] at hlast
        split at hlast
        · split at hlast
          · cases hlast
          · split at hlast
            · cases hlast
            · cases hlast
              rfl
        · cases hlast
        · cases hlast
    rw [← hm]
    exact List.getLast?_eq_some_iff.1 hname

theorem openEmpty_cases {p : Path} {r : FileSystem × List Text} (hopen : fs.openEmpty p = .ok r) :
    ∃ directory n, fs.locateLast p = .ok (directory, some n) ∧
      fs.root.kindAt (directory ++ [n]) ≠ some .directory := by
  unfold openEmpty at hopen
  split at hopen
  · cases hopen
  · cases hopen
  · rename_i directory n hlast
    refine ⟨directory, n, hlast, fun hdirectory => ?_⟩
    obtain ⟨es, hat⟩ := Entry.kindAt_eq_directory_iff.1 hdirectory
    simp only [hat] at hopen
    cases hopen

/-- The paths at which a file can be written are those for which the system makes the directories
and opens the file. -/
theorem exists_writable_iff {p : Path} (hmoving : Way.Moving p.parts)
    (hstarted : fs.root.kindAt (fs.startOf p) = some .directory) :
    (∃ grown place, fs.Writable p grown place) ↔
      ∃ fs', fs.ensureDirectories p.parent = (fs', none) ∧ ∃ r, fs'.openEmpty p = .ok r := by
  constructor
  · rintro ⟨grown, place, h⟩
    exact ⟨_, h.ensureDirectories, _, h.openEmpty⟩
  · rintro ⟨fs', hensure, r, hopen⟩
    obtain ⟨directory, n, hlast, hfree⟩ := openEmpty_cases hopen
    obtain ⟨root, parts⟩ := p
    obtain ⟨husable, names, rfl⟩ := locateLast_cases hlast
    have hinit := Path.fault?_init husable
    have hmoving' : Way.Moving names := fun m hm => hmoving m (List.mem_append_left _ hm)
    have hstart : (fs.start root).InDirectory := hstarted
    rw [Path.parent_concat] at hensure
    cases hmake : (fs.start root).make names with
    | none =>
      obtain ⟨fs'', e, hstuck⟩ := ensureDirectories_of_stuck hstart hinit hmoving' hmake
      cases hensure.symm.trans hstuck
    | some w =>
      have hmade := ensureDirectories_of_make hstart hinit hmoving' hmake
      cases hensure.symm.trans hmade
      have hin := (Way.make_grown hstart hmake).1
      have hafter := Way.follow_after hstart hmoving' hmake
      let grown : FileSystem := { fs with root := w.root }
      have hlast' : grown.locateLast ⟨root, names ++ [n]⟩ = _ := locateLast_concat husable hafter hin
      rw [show grown.locateLast ⟨root, names ++ [n]⟩ = .ok (directory, some n) from hlast] at hlast'
      split at hlast'
      · cases hlast'
      · split at hlast'
        · cases hlast'
        · rename_i habove hsize
          cases hlast'
          exact ⟨w.root, w.place ++ [n], husable, hmoving, hstarted, hfree, names, n, w.place, rfl,
            rfl, hmake, habove, by omega⟩

end FileSystem

end Stencil
