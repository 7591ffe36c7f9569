import Stencil.Proofs.FileSystem.Ways

namespace Stencil

namespace FileSystem

/-- The place from which a path is followed. -/
def startOf (fs : FileSystem) (p : Path) : List Text := if p.isAbsolute then [] else fs.cwd

variable {fs : FileSystem} {root : Text} {names place : List Text} {n : Text}

/-- A path that can be used is followed name by name. -/
theorem locate_eq_follow {p : Path} (husable : Path.fault? p.toText = none) :
    fs.locate p = follow fs.root (fs.startOf p) p.parts := by
  rw [locate, husable, startOf]

/-- What is at a path is what stands at the place it leads to. -/
theorem entry_of_follow {p : Path} (husable : Path.fault? p.toText = none)
    (hfollow : follow fs.root (fs.startOf p) p.parts = .ok place) :
    fs.entry p = fs.entryAt place := by
  rw [entry, locate_eq_follow husable, hfollow]
  rfl

theorem isDirectory_of_follow {p : Path} (husable : Path.fault? p.toText = none)
    (hfollow : follow fs.root (fs.startOf p) p.parts = .ok place)
    (hdirectory : fs.root.kindAt place = some .directory) : fs.isDirectory p = true := by
  obtain ⟨es, hat⟩ := Entry.kindAt_eq_directory_iff.1 hdirectory
  rw [isDirectory, entry_of_follow husable hfollow, entryAt, hat]

/-- A file is read at the place that its path leads to. -/
theorem read_of_follow {p : Path} (husable : Path.fault? p.toText = none)
    (hfollow : follow fs.root (fs.startOf p) p.parts = .ok place) {content : Bytes}
    (hfile : fs.root.kindAt place = some (.file content)) : fs.read p = .ok content := by
  rw [read, entry_of_follow husable hfollow, entryAt, Entry.kindAt_eq_file_iff.1 hfile]

section Names

variable {p : Path} (husable : Path.fault? p.toText = none) (hnames : ∀ n ∈ p.parts, Path.IsName n)
  (hdirectory : fs.root.kindAt (fs.startOf p) = some .directory)

include husable hnames hdirectory

/-- A path whose names are names of entries leads to the entry that they name. -/
theorem entry_of_names : (fs.entry p).toOption = fs.root.at? (fs.startOf p ++ p.parts) := by
  have hfollow := follow_names hnames hdirectory
  rw [entry, locate_eq_follow husable]
  cases hat : fs.root.at? (fs.startOf p ++ p.parts) with
  | none =>
    rw [Entry.kindAt_eq_none_iff.2 hat] at hfollow
    cases hthere : follow fs.root (fs.startOf p) p.parts with
    | error e => rfl
    | ok place => simp [hthere, Except.toOption] at hfollow
  | some e =>
    rw [Entry.kindAt, hat, Option.map_some, Option.isSome_some, if_pos rfl] at hfollow
    cases hthere : follow fs.root (fs.startOf p) p.parts with
    | error e => simp [hthere, Except.toOption] at hfollow
    | ok place =>
      rw [hthere] at hfollow
      cases hfollow
      simp [Bind.bind, Except.bind, entryAt, hat, Except.toOption]

theorem holds_of_names : fs.holds p = (fs.root.kindAt (fs.startOf p ++ p.parts)).isSome := by
  have hentry := entry_of_names husable hnames hdirectory
  rw [holds, Entry.kindAt, ← hentry]
  cases fs.entry p <;> rfl

end Names

section Last

variable (husable : Path.fault? (Path.toText ⟨root, names ++ [n]⟩) = none)

include husable

theorem locate_parent :
    fs.locate (Path.parent ⟨root, names ++ [n]⟩) =
      follow fs.root (fs.startOf ⟨root, names⟩) names := by
  rw [Path.parent_concat, locate_eq_follow (Path.fault?_init husable)]

theorem locate_concat :
    fs.locate ⟨root, names ++ [n]⟩ =
      follow fs.root (fs.startOf ⟨root, names⟩) names >>= fun there => follow fs.root there [n] := by
  rw [locate_eq_follow husable]
  exact follow_append _ _ _ _

/-- The last name of a path in a directory. -/
theorem locateLast_concat (hfollow : follow fs.root (fs.startOf ⟨root, names⟩) names = .ok place)
    (hdirectory : fs.root.kindAt place = some .directory) :
    fs.locateLast ⟨root, names ++ [n]⟩ =
      if n = Path.above then .ok (place, none)
      else if Path.nameLimit < n.utf8Size then .error .nameTooLong
      else .ok (place, some n) := by
  obtain ⟨es, hat⟩ := Entry.kindAt_eq_directory_iff.1 hdirectory
  rw [locateLast, husable, List.getLast?_concat]
  simp only [locate_parent husable, hfollow, Bind.bind, Except.bind, hat]

/-- Nothing is located below a file. -/
theorem locateLast_of_file {content : Bytes}
    (hfollow : follow fs.root (fs.startOf ⟨root, names⟩) names = .ok place)
    (hfile : fs.root.kindAt place = some (.file content)) :
    fs.locateLast ⟨root, names ++ [n]⟩ = .error .notADirectory := by
  rw [locateLast, husable, List.getLast?_concat]
  simp only [locate_parent husable, hfollow, Bind.bind, Except.bind,
    Entry.kindAt_eq_file_iff.1 hfile]

theorem locateLast_of_missing {e : FileError}
    (hfollow : follow fs.root (fs.startOf ⟨root, names⟩) names = .error e) :
    fs.locateLast ⟨root, names ++ [n]⟩ = .error e := by
  rw [locateLast, husable, List.getLast?_concat]
  simp only [locate_parent husable, hfollow]
  rfl

/-- A directory cannot be made where the one above it is missing. -/
theorem ensureDirectory_of_missing
    (hfollow : follow fs.root (fs.startOf ⟨root, names⟩) names = .error .notFound) :
    fs.ensureDirectory ⟨root, names ++ [n]⟩ = (fs, some .notFound) := by
  simp [ensureDirectory, makeDirectory, locateLast_of_missing husable hfollow]

/-- Where the directory above is there, the system makes what going on by the name makes. -/
theorem ensureDirectory_of_enter
    (hfollow : follow fs.root (fs.startOf ⟨root, names⟩) names = .ok place)
    (hdirectory : fs.root.kindAt place = some .directory) (hmoving : n ≠ [] ∧ n ≠ Path.here)
    {w : Way} (henter : Way.enter ⟨fs.root, place⟩ n = some w) :
    fs.ensureDirectory ⟨root, names ++ [n]⟩ = ({ fs with root := w.root }, none) := by
  have hlast := locateLast_concat husable hfollow hdirectory
  -- Unless the directory has to be made, it is there for one reason or the other.
  have hthere (hroot : w.root = fs.root)
      (hmake : fs.makeDirectory ⟨root, names ++ [n]⟩ = .error .alreadyThere) :
      fs.ensureDirectory ⟨root, names ++ [n]⟩ = ({ fs with root := w.root }, none) := by
    have hin : w.InDirectory := (Way.enter_grown (w := ⟨fs.root, place⟩) hdirectory henter).1
    have hbefore : follow w.root place [n] = .ok w.place :=
      Way.follow_after (w := ⟨fs.root, place⟩) hdirectory (List.forall_mem_singleton.2 hmoving)
        (by rw [Way.make_cons, henter]; rfl)
    rw [Way.InDirectory, hroot] at hin
    rw [hroot] at hbefore
    have hlocate : fs.locate ⟨root, names ++ [n]⟩ = .ok w.place := by
      rw [locate_concat husable, hfollow]
      exact hbefore
    rw [locate_eq_follow husable] at hlocate
    have hisDirectory := isDirectory_of_follow husable hlocate hin
    simp [ensureDirectory, hmake, hisDirectory, hroot]
  rcases Way.enter_cases henter with ⟨habove, rfl⟩ | ⟨habove, hsize, hplace, hdir | hmissing⟩
  · rw [if_pos habove] at hlast
    exact hthere rfl (by rw [makeDirectory, hlast])
  · rw [if_neg habove, if_neg (by omega)] at hlast
    obtain ⟨es, hat⟩ := Entry.kindAt_eq_directory_iff.1 hdir.1
    exact hthere hdir.2 (by simp only [makeDirectory, hlast, hat])
  · rw [if_neg habove, if_neg (by omega)] at hlast
    have hnothing := Entry.kindAt_eq_none_iff.1 hmissing.1
    have hmake : fs.makeDirectory ⟨root, names ++ [n]⟩ = .ok { fs with root := w.root } := by
      simp only [makeDirectory, hlast, hnothing, putAt, hmissing.2]
    rw [ensureDirectory, hmake]

/-- Below something that is no directory the system makes none. -/
theorem ensureDirectory_of_stuck
    (hstuck : ∀ place, follow fs.root (fs.startOf ⟨root, names⟩) names = .ok place →
      ∃ content, fs.root.kindAt place = some (.file content)) :
    ∃ e, fs.ensureDirectory ⟨root, names ++ [n]⟩ = (fs, some e) := by
  have hlocate : fs.locate ⟨root, names ++ [n]⟩ = _ := locate_concat husable
  cases hfollow : follow fs.root (fs.startOf ⟨root, names⟩) names with
  | error e =>
    have hisDirectory : fs.isDirectory ⟨root, names ++ [n]⟩ = false := by
      rw [isDirectory, entry, hlocate, hfollow]
      rfl
    simp [ensureDirectory, makeDirectory, locateLast_of_missing husable hfollow, hisDirectory]
  | ok place =>
    obtain ⟨content, hfile⟩ := hstuck place hfollow
    have hisDirectory : fs.isDirectory ⟨root, names ++ [n]⟩ = false := by
      rw [isDirectory, entry, hlocate, hfollow]
      simp [Bind.bind, Except.bind, follow_of_file hfile]
    simp [ensureDirectory, makeDirectory, locateLast_of_file husable hfollow hfile, hisDirectory]

/-- In a directory the system makes none where going on by the name makes none. -/
theorem ensureDirectory_of_blocked
    (hfollow : follow fs.root (fs.startOf ⟨root, names⟩) names = .ok place)
    (hdirectory : fs.root.kindAt place = some .directory) (hmoving : n ≠ [] ∧ n ≠ Path.here)
    (henter : Way.enter ⟨fs.root, place⟩ n = none) :
    ∃ e, fs.ensureDirectory ⟨root, names ++ [n]⟩ = (fs, some e) := by
  obtain ⟨habove, hblocked⟩ := Way.enter_eq_none henter
  have hlast := locateLast_concat husable hfollow hdirectory
  rw [if_neg habove] at hlast
  have hlocate : fs.locate ⟨root, names ++ [n]⟩ = follow fs.root place [n] := by
    rw [locate_concat husable, hfollow]
    rfl
  rw [follow_cons hdirectory, if_neg (not_or.2 hmoving), if_neg habove] at hlocate
  by_cases hlong : Path.nameLimit < n.utf8Size
  · rw [if_pos hlong] at hlast hlocate
    have hisDirectory : fs.isDirectory ⟨root, names ++ [n]⟩ = false := by
      rw [isDirectory, entry, hlocate]
      rfl
    simp [ensureDirectory, makeDirectory, hlast, hisDirectory]
  · rw [if_neg hlong] at hlast hlocate
    obtain ⟨content, hfile⟩ := hblocked.resolve_left hlong
    have hat := Entry.kindAt_eq_file_iff.1 hfile
    rw [hfile, Option.isSome_some, if_pos rfl, follow] at hlocate
    have hisDirectory : fs.isDirectory ⟨root, names ++ [n]⟩ = false := by
      simp [isDirectory, entry, hlocate, Bind.bind, Except.bind, entryAt, hat]
    simp [ensureDirectory, makeDirectory, hlast, hat, hisDirectory]

end Last

/-- The place where the paths with a root start. -/
def start (fs : FileSystem) (root : Text) : Way := ⟨fs.root, fs.startOf ⟨root, []⟩⟩

section Start

variable (hstart : (fs.start root).InDirectory)

include hstart

/-- The start of a path is a directory that is there already. -/
theorem ensureDirectory_start (husable : Path.fault? (Path.toText ⟨root, []⟩) = none) :
    fs.ensureDirectory ⟨root, []⟩ = (fs, none) := by
  have hmake : fs.makeDirectory ⟨root, []⟩ = .error .alreadyThere := by
    rw [makeDirectory, locateLast, husable]
    rfl
  have hisDirectory := isDirectory_of_follow husable rfl hstart
  simp [ensureDirectory, hmake, hisDirectory]

/-- The names come last first, which is the order in which the system is asked for them. -/
theorem ensureAll_of_make {reversed : List Text}
    (husable : Path.fault? (Path.toText ⟨root, reversed.reverse⟩) = none)
    (hmoving : Way.Moving reversed) {w : Way}
    (hmake : (fs.start root).make reversed.reverse = some w) :
    fs.ensureAll root reversed = ({ fs with root := w.root }, none) := by
  induction reversed generalizing w with
  | nil =>
    cases hmake
    exact ensureDirectory_start hstart husable
  | cons n reversed ih =>
    rw [List.reverse_cons] at husable hmake
    rw [Way.make_concat] at hmake
    obtain ⟨v, hbefore, henter⟩ := Option.bind_eq_some_iff.1 hmake
    obtain ⟨hn, hmoving⟩ := List.forall_mem_cons.1 hmoving
    have hmoving' : Way.Moving reversed.reverse := fun m hm => hmoving m (List.mem_reverse.1 hm)
    have hv := (Way.make_grown hstart hbefore).1
    rw [ensureAll, List.reverse_cons]
    rcases Way.follow_before hstart hmoving' hbefore with ⟨hfollow, hroot⟩ | hmissing
    · have hv' : v = ⟨fs.root, v.place⟩ := congrArg (fun r => Way.mk r v.place) hroot
      rw [hv'] at hv henter
      simp only [ensureDirectory_of_enter husable hfollow hv hn henter]
    · have hfollow := Way.follow_after hstart hmoving' hbefore
      have habove := ih (Path.fault?_init husable) hmoving hbefore
      simp only [ensureDirectory_of_missing husable hmissing, habove]
      let grown : FileSystem := { fs with root := v.root }
      have hdirectory : grown.root.kindAt v.place = some .directory := hv
      exact ensureDirectory_of_enter husable hfollow hdirectory hn henter

/-- Every directory of a way is there once the system was asked for the last of them. -/
theorem ensureDirectories_of_make (husable : Path.fault? (Path.toText ⟨root, names⟩) = none)
    (hmoving : Way.Moving names) {w : Way} (hmake : (fs.start root).make names = some w) :
    fs.ensureDirectories ⟨root, names⟩ = ({ fs with root := w.root }, none) := by
  have hmoving' : Way.Moving names.reverse := fun n hn => hmoving n (List.mem_reverse.1 hn)
  rw [← List.reverse_reverse names] at husable hmake
  exact ensureAll_of_make hstart husable hmoving' hmake

/-- Where the way is stuck, asking for all directories fails. -/
theorem ensureAll_of_stuck {reversed : List Text}
    (husable : Path.fault? (Path.toText ⟨root, reversed.reverse⟩) = none)
    (hmoving : Way.Moving reversed) (hstuck : (fs.start root).make reversed.reverse = none) :
    ∃ fs' e, fs.ensureAll root reversed = (fs', some e) := by
  induction reversed with
  | nil => cases hstuck
  | cons n reversed ih =>
    rw [List.reverse_cons] at husable hstuck
    rw [Way.make_concat] at hstuck
    obtain ⟨hn, hmoving⟩ := List.forall_mem_cons.1 hmoving
    have hmoving' : Way.Moving reversed.reverse := fun m hm => hmoving m (List.mem_reverse.1 hm)
    have hinit := Path.fault?_init husable
    rw [ensureAll, List.reverse_cons]
    cases hbefore : (fs.start root).make reversed.reverse with
    | none =>
      obtain ⟨e, hensure⟩ := ensureDirectory_of_stuck husable fun place hfollow =>
        Way.follow_of_stuck hstart hmoving' hbefore hfollow
      obtain ⟨fs', e', habove⟩ := ih hinit hmoving hbefore
      rw [hensure]
      split
      · exact ⟨fs', e', by rw [habove]⟩
      · exact ⟨fs, e, rfl⟩
    | some v =>
      rw [hbefore, Option.bind_some] at hstuck
      have hv := (Way.make_grown hstart hbefore).1
      let grown : FileSystem := { fs with root := v.root }
      have habove : fs.ensureAll root reversed = (grown, none) :=
        ensureAll_of_make hstart hinit hmoving hbefore
      obtain ⟨e', hgrown⟩ : ∃ e, grown.ensureDirectory ⟨root, reversed.reverse ++ [n]⟩ =
          (grown, some e) :=
        ensureDirectory_of_blocked husable (Way.follow_after hstart hmoving' hbefore) hv hn hstuck
      obtain ⟨e, hensure⟩ : ∃ e, fs.ensureDirectory ⟨root, reversed.reverse ++ [n]⟩ =
          (fs, some e) := by
        rcases Way.follow_before hstart hmoving' hbefore with ⟨hfollow, hroot⟩ | hmissing
        · have hv' : v = ⟨fs.root, v.place⟩ := congrArg (fun r => Way.mk r v.place) hroot
          rw [hv'] at hv hstuck
          exact ensureDirectory_of_blocked husable hfollow hv hn hstuck
        · exact ⟨_, ensureDirectory_of_missing husable hmissing⟩
      rw [hensure]
      split
      · exact ⟨grown, e', by rw [habove]; exact hgrown⟩
      · exact ⟨fs, e, rfl⟩

/-- The system fails where the directories cannot be made one after another. -/
theorem ensureDirectories_of_stuck (husable : Path.fault? (Path.toText ⟨root, names⟩) = none)
    (hmoving : Way.Moving names) (hstuck : (fs.start root).make names = none) :
    ∃ fs' e, fs.ensureDirectories ⟨root, names⟩ = (fs', some e) := by
  have hmoving' : Way.Moving names.reverse := fun n hn => hmoving n (List.mem_reverse.1 hn)
  rw [← List.reverse_reverse names] at husable hstuck
  exact ensureAll_of_stuck hstart husable hmoving' hstuck

end Start

end FileSystem

end Stencil
