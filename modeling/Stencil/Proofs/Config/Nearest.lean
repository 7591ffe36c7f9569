import Stencil.Proofs.Config.Discovery
import Stencil.Proofs.FileSystem.Directories

namespace Stencil

/-- Whether a file stands at a place. -/
def Entry.isFileAt (root : Entry) (place : List Text) : Bool :=
  match root.kindAt place with
  | some (.file _) => true
  | _ => false

namespace FileSystem

variable {fs : FileSystem}

/-- Names that are short enough are never too long, wherever they lead. -/
theorem follow_ne_tooLong {root : Entry} {names : List Text}
    (hshort : ∀ n ∈ names, n.utf8Size ≤ Path.nameLimit) (place : List Text) :
    follow root place names ≠ .error .nameTooLong := by
  induction names generalizing place with
  | nil => simp [follow]
  | cons n names ih =>
    obtain ⟨hn, hnames⟩ := List.forall_mem_cons.1 hshort
    rcases hkind : root.kindAt place with _ | content | _
    · simp [follow_of_nothing hkind]
    · simp [follow_of_file hkind]
    · rw [follow_cons hkind, if_neg (Nat.not_lt.2 hn)]
      split
      · exact ih hnames _
      · split
        · exact ih hnames _
        · split
          · exact ih hnames _
          · simp

/-- Looking at an absolute path of names finds what stands at the place, and no name too long. -/
theorem entry_ofParts (hroot : fs.root.kindAt [] = some .directory) {place : List Text}
    (hnames : ∀ n ∈ place, Path.IsName n)
    (husable : Path.fault? (Path.ofParts place).toText = none) :
    fs.isFile (Path.ofParts place) = fs.root.isFileAt place ∧
      fs.entry (Path.ofParts place) ≠ .error .nameTooLong := by
  have hentry : (fs.entry (Path.ofParts place)).toOption = fs.root.at? place :=
    entry_of_names husable hnames hroot
  constructor
  · rw [isFile, Entry.isFileAt, Entry.kindAt, ← hentry]
    rcases fs.entry (Path.ofParts place) with e | (content | es) <;> rfl
  · rw [entry, locate_eq_follow husable]
    have hfollow : follow fs.root (fs.startOf (Path.ofParts place)) (Path.ofParts place).parts ≠
        .error .nameTooLong :=
      follow_ne_tooLong (fun n hn => (hnames n hn).short) _
    cases hthere : follow fs.root (fs.startOf (Path.ofParts place)) (Path.ofParts place).parts with
    | error e =>
      intro htooLong
      cases htooLong
      exact hfollow hthere
    | ok there =>
      simp only [Bind.bind, Except.bind, entryAt]
      split <;> simp

end FileSystem

namespace Path

/-- The text of an absolute path has a separator in front of each name. -/
theorem toText_ofParts {names : List Text} (hsome : names ≠ []) :
    (ofParts names).toText = names.flatMap (separator :: ·) := by
  have hjoin (n : Text) (ns : List Text) :
      [separator] ++ Text.joinWith [separator] (n :: ns) = (n :: ns).flatMap (separator :: ·) := by
    induction ns generalizing n with
    | nil => simp only [Text.joinWith, List.flatMap_cons, List.flatMap_nil, List.append_nil,
        List.singleton_append]
    | cons m ms ih =>
      have hmore : Text.joinWith [separator] (n :: m :: ms) =
          n ++ [separator] ++ Text.joinWith [separator] (m :: ms) := rfl
      rw [hmore, List.append_assoc, ih, List.flatMap_cons, ← List.append_assoc]
      rfl
  obtain ⟨n, ns, rfl⟩ := List.exists_cons_of_ne_nil hsome
  rw [← hjoin]
  rfl

end Path

namespace Config

section Places

variable {directory base place : List Text}

/-- The search looks into the directories on the way up, and into no others. -/
theorem mem_basesOf_iff {reversed : List Text} : base ∈ basesOf reversed ↔ base <+: reversed.reverse := by
  induction reversed with
  | nil => simp [basesOf]
  | cons n ns ih => rw [basesOf, List.mem_cons, ih, List.reverse_cons, List.prefix_concat_iff]

/-- The directories that are looked through before another one are those between it and the
start. -/
theorem mem_before_iff {reversed : List Text} {before after : List (List Text)}
    (hsplit : basesOf reversed = before ++ base :: after) (between : List Text) :
    between ∈ before ↔ base <+: between ∧ between ≠ base ∧ between <+: reversed.reverse := by
  induction reversed generalizing before with
  | nil =>
    cases before with
    | nil =>
      cases hsplit
      simp
    | cons b before => simp [basesOf] at hsplit
  | cons n ns ih =>
    cases before with
    | nil =>
      have hbase : base = (n :: ns).reverse := (List.cons.inj hsplit).1.symm
      simp only [List.not_mem_nil, false_iff, ← hbase]
      rintro ⟨hbelow, hother, habove⟩
      exact hother (habove.eq_of_length_le hbelow.length_le)
    | cons b before =>
      obtain ⟨rfl, hrest⟩ := List.cons.inj hsplit
      have hbase : base <+: ns.reverse := mem_basesOf_iff.1 (by rw [hrest]; simp)
      have hbefore := ih hrest
      rw [List.mem_cons, hbefore, List.reverse_cons, List.prefix_concat_iff]
      constructor
      · rintro (rfl | ⟨hbelow, hother, habove⟩)
        · refine ⟨hbase.trans (List.prefix_append _ _), fun hsame => ?_, .inl rfl⟩
          have hlength := hbase.length_le
          simp only [← hsame, List.length_append, List.length_reverse, List.length_singleton]
            at hlength
          omega
        · exact ⟨hbelow, hother, .inr habove⟩
      · rintro ⟨hbelow, hother, rfl | habove⟩
        · exact .inl rfl
        · exact .inr ⟨hbelow, hother, habove⟩

/-- There it looks at the two candidates. -/
theorem mem_places_iff :
    place ∈ places directory ↔ ∃ base candidate, base <+: directory ∧ candidate ∈ candidates ∧
      place = base ++ candidate := by
  simp only [places, List.mem_flatMap, List.mem_map, mem_basesOf_iff, List.reverse_reverse]
  constructor
  · rintro ⟨base, hbase, candidate, hcandidate, rfl⟩
    exact ⟨base, candidate, hbase, hcandidate, rfl⟩
  · rintro ⟨base, candidate, hbase, hcandidate, rfl⟩
    exact ⟨base, hbase, candidate, hcandidate, rfl⟩

/-- A candidate is a file in a directory above another one, and between the two there is none. If
both candidates are files there, it is the first. -/
structure IsNearest (root : Entry) (directory base candidate : List Text) : Prop where
  above : base <+: directory
  named : candidate ∈ candidates
  file : root.isFileAt (base ++ candidate) = true
  preferred : root.isFileAt (firstPlace base) = true → base ++ candidate = firstPlace base
  nearest : ∀ between, base <+: between → between ≠ base → between <+: directory →
    ∀ other ∈ candidates, root.isFileAt (between ++ other) = false

/-- The first candidate of a directory that is a file. -/
theorem find?_candidates_iff {root : Entry} :
    (candidates.map fun c => base ++ c).find? root.isFileAt = some place ↔
      ∃ candidate ∈ candidates, place = base ++ candidate ∧ root.isFileAt place = true ∧
        (root.isFileAt (firstPlace base) = true → place = firstPlace base) := by
  simp only [candidates, List.map_cons, List.map_nil, List.find?_cons, List.find?_nil, firstPlace]
  cases hfirst : root.isFileAt (base ++ [Text.of ".tinhorn", Text.of "config.yaml"]) with
  | true =>
    simp only [Option.some.injEq]
    constructor
    · rintro rfl
      exact ⟨_, List.mem_cons_self, rfl, hfirst, fun _ => rfl⟩
    · rintro ⟨-, -, -, -, hplace⟩
      exact (hplace trivial).symm
  | false =>
    cases hsecond : root.isFileAt (base ++ [Text.of "tinhorn.yaml"]) with
    | true =>
      simp only [Option.some.injEq]
      constructor
      · rintro rfl
        exact ⟨_, List.mem_cons_of_mem _ List.mem_cons_self, rfl, hsecond, by simp⟩
      · rintro ⟨candidate, hcandidate, rfl, hfile, -⟩
        rcases List.mem_cons.1 hcandidate with rfl | hcandidate
        · simp [hfirst] at hfile
        · rw [List.mem_singleton.1 hcandidate]
    | false =>
      simp only [reduceCtorEq, false_iff]
      rintro ⟨candidate, hcandidate, rfl, hfile, -⟩
      rcases List.mem_cons.1 hcandidate with rfl | hcandidate
      · simp [hfirst] at hfile
      · simp [List.mem_singleton.1 hcandidate, hsecond] at hfile

/-- The first place where a file stands is that of the nearest candidate. -/
theorem find?_places_iff {root : Entry} :
    (places directory).find? root.isFileAt = some place ↔
      ∃ base candidate, IsNearest root directory base candidate ∧ place = base ++ candidate := by
  rw [places, List.find?_flatMap, List.findSome?_eq_some_iff]
  constructor
  · rintro ⟨before, base, after, hsplit, hfound, hbefore⟩
    obtain ⟨candidate, hcandidate, rfl, hfile, hpreferred⟩ := find?_candidates_iff.1 hfound
    have hbase : base <+: directory.reverse.reverse := mem_basesOf_iff.1 (by rw [hsplit]; simp)
    rw [List.reverse_reverse] at hbase
    refine ⟨base, candidate, ⟨hbase, hcandidate, hfile, hpreferred, ?_⟩, rfl⟩
    intro between hbelow hother habove other hmember
    have hnone := hbefore between
      ((mem_before_iff hsplit between).2 ⟨hbelow, hother, by rwa [List.reverse_reverse]⟩)
    simpa using List.find?_eq_none.1 hnone _ (List.mem_map_of_mem hmember)
  · rintro ⟨base, candidate, hnearest, rfl⟩
    have hmember : base ∈ basesOf directory.reverse :=
      mem_basesOf_iff.2 (by rw [List.reverse_reverse]; exact hnearest.above)
    obtain ⟨before, after, hsplit⟩ := List.append_of_mem hmember
    refine ⟨before, base, after, hsplit, ?_, fun between hbetween => ?_⟩
    · exact find?_candidates_iff.2
        ⟨candidate, hnearest.named, rfl, hnearest.file, hnearest.preferred⟩
    · obtain ⟨hbelow, hother, habove⟩ := (mem_before_iff hsplit between).1 hbetween
      rw [List.reverse_reverse] at habove
      refine List.find?_eq_none.2 fun place hplace => ?_
      obtain ⟨other, hmember, rfl⟩ := List.mem_map.1 hplace
      simp [hnearest.nearest between hbelow hother habove other hmember]

end Places

/-- What has no other names than a directory and a candidate can stand at a place of the
directory. -/
theorem forall_mem_places {P : Text → Prop} {directory : List Text} (hdirectory : ∀ n ∈ directory, P n)
    (hcandidates : ∀ candidate ∈ candidates, ∀ n ∈ candidate, P n) :
    ∀ place ∈ places directory, ∀ n ∈ place, P n := by
  intro place hplace n hn
  obtain ⟨base, candidate, hbase, hcandidate, rfl⟩ := mem_places_iff.1 hplace
  rcases List.mem_append.1 hn with hn | hn
  · exact hdirectory n (hbase.subset hn)
  · exact hcandidates candidate hcandidate n hn

theorem isName_candidates :
    ∀ candidate ∈ candidates, ∀ n ∈ candidate, Path.IsName n ∧ Path.IsClean n := by
  decide

/-- No place of a directory has a longer path than the first one. -/
theorem utf8Size_le_firstPlace {directory : List Text} :
    ∀ place ∈ places directory,
      (Path.ofParts place).toText.utf8Size ≤ (Path.ofParts (firstPlace directory)).toText.utf8Size := by
  intro place hplace
  obtain ⟨base, candidate, ⟨between, rfl⟩, hcandidate, rfl⟩ := mem_places_iff.1 hplace
  have hsome : ∀ candidate ∈ candidates, candidate ≠ [] := by decide
  have hsize : ∀ candidate ∈ candidates, Text.utf8Size (candidate.flatMap (Path.separator :: ·)) ≤
      Text.utf8Size ([Text.of ".tinhorn", Text.of "config.yaml"].flatMap (Path.separator :: ·)) := by
    decide
  have hcandidate' := hsize candidate hcandidate
  rw [Path.toText_ofParts (by simp [hsome candidate hcandidate]), firstPlace,
    Path.toText_ofParts (by simp)]
  simp only [List.flatMap_append, Text.utf8Size_append]
  omega

section Search

variable {fs : FileSystem}

/-- Where no path is too long, the search finds the first place with a file. -/
theorem firstFile?_ofParts {places : List (List Text)}
    (hplaces : ∀ place ∈ places,
      fs.isFile (Path.ofParts place) = fs.root.isFileAt place ∧
        fs.entry (Path.ofParts place) ≠ .error .nameTooLong) :
    firstFile? fs (places.map Path.ofParts) =
      .ok ((places.find? fs.root.isFileAt).map Path.ofParts) := by
  induction places with
  | nil => rfl
  | cons place places ih =>
    obtain ⟨⟨hfile, hreach⟩, hmore⟩ := List.forall_mem_cons.1 hplaces
    rw [List.map_cons, firstFile?, List.find?_cons, ← hfile, FileSystem.isFile]
    rcases hentry : fs.entry (Path.ofParts place) with e | (content | es)
    · cases e with
      | nameTooLong => exact absurd hentry hreach
      | _ => exact ih hmore
    · rfl
    · exact ih hmore

/-- A start whose path has clean names, at a place of clean names of entries. -/
structure IsStart (fs : FileSystem) (start : Option Path) : Prop where
  clean : ∀ p ∈ start, ∀ n ∈ p.parts, Path.IsClean n
  names : ∀ n ∈ startPlace fs start, Path.IsName n ∧ Path.IsClean n

variable {start : Option Path} (hstart : IsStart fs start)

include hstart

/-- The search takes the first file among these places, the nearest directory first. -/
theorem find?_eq_firstFile?_places :
    find? fs start = firstFile? fs ((places (startPlace fs start)).map Path.ofParts) := by
  have hresolves : start.bind unresolvable? = none := by
    rw [Option.bind_eq_none_iff]
    intro p hp
    refine List.findSome?_eq_none_iff.2 fun n hn => ?_
    rw [Path.fault?_of_clean (hstart.clean p hp n hn)]
    split <;> rfl
  rw [find?, hresolves]

/-- The names at the places that may hold the configuration of a start. -/
theorem IsStart.names_of_mem_places :
    ∀ place ∈ places (startPlace fs start), ∀ n ∈ place, Path.IsName n ∧ Path.IsClean n :=
  forall_mem_places hstart.names isName_candidates

/-- Unless the path of the first place is too long, something or nothing is found. -/
theorem find?_of_short (hroot : fs.root.kindAt [] = some .directory)
    (hshort : (Path.ofParts (firstPlace (startPlace fs start))).toText.utf8Size ≤ Path.lengthLimit) :
    find? fs start =
      .ok (((places (startPlace fs start)).find? fs.root.isFileAt).map Path.ofParts) := by
  rw [find?_eq_firstFile?_places hstart]
  refine firstFile?_ofParts fun place hplace => ?_
  have hnames := hstart.names_of_mem_places place hplace
  have hsize := Nat.le_trans (utf8Size_le_firstPlace place hplace) hshort
  exact FileSystem.entry_ofParts hroot (fun n hn => (hnames n hn).1)
    (Path.fault?_eq_none_iff.2 ⟨Path.isClean_ofParts fun n hn => (hnames n hn).2, hsize⟩)

/-- The search ends at its first place if the path of that is too long. -/
theorem find?_of_long
    (hlong : Path.lengthLimit < (Path.ofParts (firstPlace (startPlace fs start))).toText.utf8Size) :
    find? fs start = .error .nameTooLong := by
  obtain ⟨more, hplaces⟩ := places_eq_cons (startPlace fs start)
  have hnames := hstart.names_of_mem_places _ (by rw [hplaces]; exact List.mem_cons_self)
  have hentry : fs.entry (Path.ofParts (firstPlace (startPlace fs start))) = .error .nameTooLong := by
    rw [FileSystem.entry, FileSystem.locate,
      Path.fault?_of_clean (Path.isClean_ofParts fun n hn => (hnames n hn).2), if_pos hlong]
    rfl
  rw [find?_eq_firstFile?_places hstart, hplaces, List.map_cons, firstFile?, hentry]

end Search

/-- A search from a directory comes to a result unless the path of the first place is longer than
the system allows, which is an error. Nothing is found if no candidate is a file in the directory or
above it; otherwise the nearest candidate is. Other trees in which files stand at the same ones of
these places give the same result. -/
theorem find?_nearest {fs : FileSystem} {start : Option Path}
    (hroot : fs.root.kindAt [] = some .directory) (hstart : IsStart fs start) :
    let directory := startPlace fs start
    let size := (Path.ofParts (firstPlace directory)).toText.utf8Size
    (Path.lengthLimit < size → find? fs start = .error .nameTooLong) ∧
    (size ≤ Path.lengthLimit →
      (∃ found, find? fs start = .ok found) ∧
      (find? fs start = .ok none ↔
        ∀ base, base <+: directory → ∀ candidate ∈ candidates,
          fs.root.isFileAt (base ++ candidate) = false) ∧
      (∀ p, find? fs start = .ok (some p) ↔
        ∃ base candidate, IsNearest fs.root directory base candidate ∧
          p = Path.ofParts (base ++ candidate)) ∧
      ∀ fs' : FileSystem, fs'.root.kindAt [] = some .directory → fs'.cwd = fs.cwd →
        (∀ base, base <+: directory → ∀ candidate ∈ candidates,
          fs'.root.isFileAt (base ++ candidate) = fs.root.isFileAt (base ++ candidate)) →
        find? fs' start = find? fs start) := by
  intro directory size
  refine ⟨find?_of_long hstart, fun hshort => ?_⟩
  have hfind := find?_of_short hstart hroot hshort
  refine ⟨⟨_, hfind⟩, ?_, fun p => ?_, fun fs' hroot' hcwd hfiles => ?_⟩
  · rw [hfind, Except.ok.injEq, Option.map_eq_none_iff, List.find?_eq_none]
    constructor
    · intro hnone base hbase candidate hcandidate
      simpa using hnone _ (mem_places_iff.2 ⟨base, candidate, hbase, hcandidate, rfl⟩)
    · intro hnone place hplace
      obtain ⟨base, candidate, hbase, hcandidate, rfl⟩ := mem_places_iff.1 hplace
      simp [hnone base hbase candidate hcandidate]
  · rw [hfind, Except.ok.injEq, Option.map_eq_some_iff]
    constructor
    · rintro ⟨place, hplace, rfl⟩
      obtain ⟨base, candidate, hnearest, rfl⟩ := find?_places_iff.1 hplace
      exact ⟨base, candidate, hnearest, rfl⟩
    · rintro ⟨base, candidate, hnearest, rfl⟩
      exact ⟨_, find?_places_iff.2 ⟨base, candidate, hnearest, rfl⟩, rfl⟩
  · have hsame : startPlace fs' start = directory := by rw [startPlace, hcwd]; rfl
    have hstart' : IsStart fs' start := ⟨hstart.clean, hsame ▸ hstart.names⟩
    rw [hfind, find?_of_short hstart' hroot' (by rw [hsame]; exact hshort), hsame]
    rw [← List.head?_filter, ← List.head?_filter, List.filter_congr fun place hplace => ?_]
    obtain ⟨base, candidate, hbase, hcandidate, rfl⟩ := mem_places_iff.1 hplace
    exact hfiles base hbase candidate hcandidate

/-- A directory with a candidate's name is passed over, and a file further up is found. -/
theorem find?_nearest_passed :
    let root : Entry := .directory [(Text.of "a", .directory
      [(Text.of "tinhorn.yaml", .file []), (Text.of "b", .directory
        [(Text.of "tinhorn.yaml", .directory [])])])]
    let fs : FileSystem := ⟨root, [Text.of "a"]⟩
    let start := some (Path.ofText (Text.of "c/../b"))
    fs.root.kindAt [] = some .directory ∧ IsStart fs start ∧
      startPlace fs start = [Text.of "a", Text.of "b"] ∧
      find? fs start = .ok (some (Path.ofParts [Text.of "a", Text.of "tinhorn.yaml"])) := by
  intro root fs start
  have hplace : startPlace fs start = [Text.of "a", Text.of "b"] := by decide
  have hstart : IsStart fs start := ⟨by decide, by rw [hplace]; decide⟩
  have hshort : (Path.ofParts (firstPlace (startPlace fs start))).toText.utf8Size ≤
      Path.lengthLimit := by
    rw [hplace]
    decide
  have hroot : fs.root.kindAt [] = some .directory := rfl
  obtain ⟨-, -, hfound, -⟩ := (find?_nearest hroot hstart).2 hshort
  refine ⟨hroot, hstart, hplace,
    (hfound _).2 ⟨[Text.of "a"], [Text.of "tinhorn.yaml"], ?_, rfl⟩⟩
  rw [hplace]
  refine ⟨by decide, by decide, rfl, fun hfirst => ?_, fun between hbelow hother habove => ?_⟩
  · cases hfirst
  · -- Only the start itself is below the directory of the file.
    have hsplit : between = [Text.of "a"] ++ [Text.of "b"] ∨ between <+: [Text.of "a"] :=
      List.prefix_concat_iff.1 habove
    rcases hsplit with rfl | habove
    · decide
    · exact absurd (habove.eq_of_length_le hbelow.length_le) hother

/-- A directory whose own path can just be used, but not that of its first candidate: the search
from there fails, although no file is there to be found. -/
theorem find?_of_deep_start :
    let fs : FileSystem := ⟨Entry.nested deepPlace, deepPlace⟩
    fs.root.kindAt fs.cwd = some .directory ∧
      (Path.ofParts fs.cwd).toText.utf8Size ≤ Path.lengthLimit ∧ IsStart fs none ∧
      (∀ place, fs.root.isFileAt place = false) ∧ find? fs none = .error .nameTooLong := by
  intro fs
  have hstart : IsStart fs none := ⟨by simp, names_deepPlace⟩
  have hnothing : ∀ place, fs.root.isFileAt place = false := by
    intro place
    rw [Entry.isFileAt, Entry.kindAt_nested]
    by_cases hplace : place <+: deepPlace
    · rw [if_pos hplace]
    · rw [if_neg hplace]
  have hthere : fs.root.kindAt fs.cwd = some .directory := by
    rw [Entry.kindAt_nested, if_pos (List.prefix_refl _)]
  exact ⟨hthere, by decide +kernel, hstart, hnothing, find?_of_long hstart (by decide +kernel)⟩

end Config

end Stencil
