import Stencil.Proofs.FileSystem.Directories
import Stencil.Render.ToFile

namespace Stencil

namespace FileSystem

variable {fs fs' fs'' : FileSystem} {root : Text} {names place : List Text} {n : Text} {p : Path}

/-- Names lead where they led if the directories are still there and nothing has gone. -/
theorem follow_of_kept {old new : Entry} {there : List Text}
    (hdirectories : ∀ query, old.kindAt query = some .directory → new.kindAt query = some .directory)
    (hkept : ∀ query, old.kindAt query ≠ none → new.kindAt query ≠ none)
    (hfollow : follow old place names = .ok there) : follow new place names = .ok there := by
  induction names generalizing place with
  | nil => exact hfollow
  | cons n names ih =>
    rcases hkind : old.kindAt place with _ | content | _
    · simp [follow_of_nothing hkind] at hfollow
    · simp [follow_of_file hkind] at hfollow
    · rw [follow_cons hkind] at hfollow
      rw [follow_cons (hdirectories place hkind)]
      by_cases hstay : n = [] ∨ n = Path.here
      · rw [if_pos hstay] at hfollow ⊢
        exact ih hfollow
      · rw [if_neg hstay] at hfollow ⊢
        by_cases habove : n = Path.above
        · rw [if_pos habove] at hfollow ⊢
          exact ih hfollow
        · rw [if_neg habove] at hfollow ⊢
          by_cases hlong : Path.nameLimit < n.utf8Size
          · simp [hlong] at hfollow
          · rw [if_neg hlong] at hfollow ⊢
            by_cases hthere : old.kindAt (place ++ [n]) = none
            · simp [hthere] at hfollow
            · rw [if_pos (Option.isSome_iff_ne_none.2 hthere)] at hfollow
              rw [if_pos (Option.isSome_iff_ne_none.2 (hkept _ hthere))]
              exact ih hfollow

/-- A path that leads somewhere can be asked for. -/
theorem locate_eq_ok_iff :
    fs.locate p = .ok place ↔
      Path.fault? p.toText = none ∧ follow fs.root (fs.startOf p) p.parts = .ok place := by
  unfold locate startOf
  cases Path.fault? p.toText <;> simp

theorem startOf_of_cwd (hcwd : fs'.cwd = fs.cwd) (p : Path) : fs'.startOf p = fs.startOf p := by
  rw [startOf, startOf, hcwd]

/-- Only directories have come to the tree, at places to which the first names of a path lead. -/
structure Extended (fs : FileSystem) (p : Path) (fs' : FileSystem) : Prop where
  cwd : fs'.cwd = fs.cwd
  grown : Entry.Grown fs.root fs'.root
  along : ∀ {place}, fs.root.kindAt place = none → fs'.root.kindAt place ≠ none →
    ∃ names, names <+: p.parts ∧ fs'.locate { p with parts := names } = .ok place

namespace Extended

theorem refl (fs : FileSystem) (p : Path) : fs.Extended p fs :=
  ⟨rfl, .refl _, fun hnothing hthere => absurd hnothing hthere⟩

theorem locate (h : fs.Extended p fs') {q : Path} (hlocate : fs.locate q = .ok place) :
    fs'.locate q = .ok place := by
  obtain ⟨husable, hfollow⟩ := locate_eq_ok_iff.1 hlocate
  refine locate_eq_ok_iff.2 ⟨husable, ?_⟩
  rw [startOf_of_cwd h.cwd]
  refine follow_of_kept (fun _ hdirectory => h.grown.keeps hdirectory) (fun query hthere => ?_) hfollow
  obtain ⟨kind, hkind⟩ := Option.ne_none_iff_exists'.1 hthere
  simp [h.grown.keeps hkind]

/-- Directories made one after another come to directories made. -/
theorem trans (h : fs.Extended p fs') (h' : fs'.Extended p fs'') : fs.Extended p fs'' where
  cwd := h'.cwd.trans h.cwd
  grown := h.grown.trans h'.grown
  along := by
    intro place hnothing hthere
    by_cases hbetween : fs'.root.kindAt place = none
    · exact h'.along hbetween hthere
    · obtain ⟨names, hnames, hlocate⟩ := h.along hnothing hbetween
      exact ⟨names, hnames, h'.locate hlocate⟩

/-- What leads along the first names of a path leads along the path. -/
theorem of_initial (h : fs.Extended ⟨root, names⟩ fs') (n : Text) :
    fs.Extended ⟨root, names ++ [n]⟩ fs' where
  cwd := h.cwd
  grown := h.grown
  along hnothing hthere := by
    obtain ⟨before, hbefore, hlocate⟩ := h.along hnothing hthere
    exact ⟨before, hbefore.trans (List.prefix_append _ _), hlocate⟩

end Extended

/-- A path ends with a name in a directory that is there. -/
structure Ends (fs : FileSystem) (p : Path) (directory : List Text) (n : Text) : Prop where
  usable : Path.fault? p.toText = none
  parts : p.parts = p.parent.parts ++ [n]
  follow : FileSystem.follow fs.root (fs.startOf p) p.parent.parts = .ok directory
  there : fs.root.kindAt directory = some .directory
  below : n ≠ Path.above
  short : n.utf8Size ≤ Path.nameLimit

namespace Ends

variable {directory : List Text}

/-- The path leads to what has the name in the directory. -/
theorem locate (h : fs.Ends p directory n) (hmoving : Way.Moving p.parts)
    (hsome : fs.root.kindAt (directory ++ [n]) ≠ none) : fs.locate p = .ok (directory ++ [n]) := by
  have hname : Path.IsName n := ⟨hmoving n (by rw [h.parts]; simp), h.below, h.short⟩
  have hlast : FileSystem.follow fs.root directory [n] = .ok (directory ++ [n]) := by
    rw [follow_name h.there hname, if_pos (Option.isSome_iff_ne_none.2 hsome)]
    rfl
  refine locate_eq_ok_iff.2 ⟨h.usable, ?_⟩
  rw [h.parts, follow_append, h.follow]
  exact hlast

/-- A path still ends where it did if all directories are kept. -/
theorem of_kept (h : fs.Ends p directory n) (hcwd : fs'.cwd = fs.cwd)
    (hdirectories : ∀ query, fs.root.kindAt query = some .directory →
      fs'.root.kindAt query = some .directory) : fs'.Ends p directory n where
  usable := h.usable
  parts := h.parts
  follow := by
    rw [startOf_of_cwd hcwd]
    exact follow_of_directories hdirectories h.follow h.there
  there := hdirectories _ h.there
  below := h.below
  short := h.short

end Ends

theorem ends_of_locateLast {directory : List Text}
    (hlast : fs.locateLast p = .ok (directory, some n)) : fs.Ends p directory n := by
  obtain ⟨root, parts⟩ := p
  unfold locateLast at hlast
  split at hlast
  · cases hlast
  · cases hlast
  · rename_i m husable hm
    obtain ⟨names, rfl⟩ := List.getLast?_eq_some_iff.1 hm
    rw [locate_parent husable] at hlast
    have hparent : (Path.mk root (names ++ [m])).parent.parts = names := by rw [Path.parent_concat]
    cases hfollow : follow fs.root (fs.startOf ⟨root, names⟩) names with
    | error e =>
      rw [hfollow] at hlast
      cases hlast
    | ok there =>
      simp only [hfollow, Bind.bind, Except.bind] at hlast
      split at hlast
      · rename_i es hat
        split at hlast
        · cases hlast
        · split at hlast
          · cases hlast
          · rename_i habove hsize
            cases hlast
            exact ⟨husable, by rw [hparent], by rw [hparent]; exact hfollow,
              Entry.kindAt_eq_directory_iff.2 ⟨es, hat⟩, habove, by omega⟩
      · cases hlast
      · cases hlast

/-- A directory is made below one that is there, where nothing stood. -/
theorem extended_of_makeDirectory (hmoving : Way.Moving p.parts)
    (hmake : fs.makeDirectory p = .ok fs') : fs.Extended p fs' := by
  unfold makeDirectory at hmake
  split at hmake
  · cases hmake
  · cases hmake
  · rename_i directory n hlast
    split at hmake
    · cases hmake
    · rename_i hat
      cases hmake
      have hends := ends_of_locateLast hlast
      have hnothing : fs.root.kindAt (directory ++ [n]) = none := Entry.kindAt_eq_none_iff.2 hat
      have hparent : fs.root.kindAt (directory ++ [n]).dropLast = some .directory := by
        rw [List.dropLast_concat]
        exact hends.there
      have hgrown := Entry.grown_put hparent hnothing
      have hput := Entry.kindAt_put Entry.isLeaf_empty hparent (by simp [hnothing])
      refine ⟨rfl, hgrown, fun {place} hbefore hafter => ⟨p.parts, List.prefix_refl _, ?_⟩⟩
      -- Nothing has changed but at the place of the new directory.
      by_cases hplace : place = directory ++ [n]
      · rw [hplace] at hafter ⊢
        have hends' : (fs.putAt (directory ++ [n]) (.directory [])).Ends p directory n :=
          hends.of_kept rfl fun _ => hgrown.keeps
        exact hends'.locate hmoving hafter
      · exact absurd ((hput place).trans (by rw [if_neg hplace, hbefore])) hafter

/-- Asking for one directory makes at most that one. -/
theorem extended_ensureDirectory (hmoving : Way.Moving p.parts) :
    fs.Extended p (fs.ensureDirectory p).1 := by
  unfold ensureDirectory
  cases hmake : fs.makeDirectory p with
  | error e => exact .refl fs p
  | ok made => exact extended_of_makeDirectory hmoving hmake

/-- The names come last first. Whatever the system refuses, what it has made before stays. -/
theorem extended_ensureAll {reversed : List Text} (hmoving : Way.Moving reversed) :
    fs.Extended ⟨root, reversed.reverse⟩ (fs.ensureAll root reversed).1 := by
  induction reversed with
  | nil => exact extended_ensureDirectory (by simp [Way.Moving])
  | cons n reversed ih =>
    obtain ⟨hn, hbefore⟩ := List.forall_mem_cons.1 hmoving
    have hall : Way.Moving (n :: reversed).reverse := fun m hm => hmoving m (List.mem_reverse.1 hm)
    have hstep (fs : FileSystem) : fs.Extended ⟨root, (n :: reversed).reverse⟩
        (fs.ensureDirectory ⟨root, (n :: reversed).reverse⟩).1 := extended_ensureDirectory hall
    have habove : fs.Extended ⟨root, (n :: reversed).reverse⟩ (fs.ensureAll root reversed).1 := by
      rw [List.reverse_cons]
      exact (ih hbefore).of_initial n
    unfold ensureAll
    simp only
    split
    · split
      · rename_i made hmade
        rw [hmade] at habove
        exact habove.trans (hstep made)
      · exact habove
    · exact hstep fs

/-- Asking for all directories on a path makes nothing else. -/
theorem extended_ensureDirectories (hmoving : Way.Moving p.parts) :
    fs.Extended p (fs.ensureDirectories p).1 := by
  have hmoving' : Way.Moving p.parts.reverse := fun n hn => hmoving n (List.mem_reverse.1 hn)
  have hextended : fs.Extended ⟨p.root, p.parts.reverse.reverse⟩ (fs.ensureDirectories p).1 :=
    extended_ensureAll hmoving'
  rwa [List.reverse_reverse] at hextended

/-- Nothing has changed but what a path is for: its file, and directories above it that were
missing. A path that led somewhere leads there still. -/
structure Confined (fs : FileSystem) (p : Path) (fs' : FileSystem) : Prop where
  cwd : fs'.cwd = fs.cwd
  leads : ∀ {place}, fs.locate p = .ok place → fs'.locate p = .ok place
  kindAt : ∀ query, fs'.root.kindAt query = fs.root.kindAt query ∨
    (fs'.locate p = .ok query ∧ fs.root.kindAt query ≠ some .directory ∧
      ∃ content, fs'.root.kindAt query = some (.file content)) ∨
    (fs.root.kindAt query = none ∧ fs'.root.kindAt query = some .directory ∧
      ∃ names, names <+: p.parent.parts ∧ fs'.locate { p with parts := names } = .ok query)

namespace Confined

/-- Making the directories above a file stays within the confines of the file. -/
theorem of_extended (h : fs.Extended p.parent fs') : fs.Confined p fs' where
  cwd := h.cwd
  leads := h.locate
  kindAt query := by
    cases hbefore : fs.root.kindAt query with
    | some kind => exact .inl (h.grown.keeps hbefore)
    | none =>
      rcases h.grown.adds hbefore with hafter | hafter
      · exact .inl hafter
      · exact .inr (.inr ⟨rfl, hafter, h.along hbefore (by simp [hafter])⟩)

/-- A file that is put at the end of its path changes nothing about the directories above. -/
theorem of_written {directory : List Text} {content : Bytes} (h : fs.Extended p.parent fs')
    (hends : fs'.Ends p directory n) (hmoving : Way.Moving p.parts)
    (hfree : fs'.root.kindAt (directory ++ [n]) ≠ some .directory) (hcwd : fs''.cwd = fs'.cwd)
    (hkind : ∀ query, fs''.root.kindAt query =
      if query = directory ++ [n] then some (.file content) else fs'.root.kindAt query) :
    fs.Confined p fs'' := by
  have hdirectories : ∀ query, fs'.root.kindAt query = some .directory →
      fs''.root.kindAt query = some .directory := by
    intro query hquery
    rw [hkind, if_neg, hquery]
    rintro rfl
    exact hfree hquery
  have hkept : ∀ query, fs'.root.kindAt query ≠ none → fs''.root.kindAt query ≠ none := by
    intro query hquery
    rw [hkind]
    split
    · simp
    · exact hquery
  have hleads {q : Path} {there : List Text} (hlocate : fs'.locate q = .ok there) :
      fs''.locate q = .ok there := by
    obtain ⟨husable, hfollow⟩ := locate_eq_ok_iff.1 hlocate
    refine locate_eq_ok_iff.2 ⟨husable, ?_⟩
    rw [startOf_of_cwd hcwd]
    exact follow_of_kept hdirectories hkept hfollow
  refine ⟨hcwd.trans h.cwd, fun hlocate => hleads (h.locate hlocate), fun query => ?_⟩
  by_cases hquery : query = directory ++ [n]
  · have hfile : fs''.root.kindAt query = some (.file content) := by rw [hkind, if_pos hquery]
    refine .inr (.inl ⟨?_, fun hold => hfree (hquery ▸ h.grown.keeps hold), content, hfile⟩)
    rw [hquery] at hfile ⊢
    exact (hends.of_kept hcwd hdirectories).locate hmoving (by simp [hfile])
  · have hsame : fs''.root.kindAt query = fs'.root.kindAt query := by rw [hkind, if_neg hquery]
    rw [hsame]
    cases hbefore : fs.root.kindAt query with
    | some kind => exact .inl (h.grown.keeps hbefore)
    | none =>
      rcases h.grown.adds hbefore with hafter | hafter
      · exact .inl hafter
      · obtain ⟨names, hprefix, hlocate⟩ := h.along hbefore (by simp [hafter])
        exact .inr (.inr ⟨rfl, hafter, names, hprefix, hleads hlocate⟩)

end Confined

/-- A file that is opened is empty, at the end of its path. -/
theorem openEmpty_eq_ok (hopen : fs.openEmpty p = .ok (fs', place)) :
    ∃ directory n, fs.Ends p directory n ∧ place = directory ++ [n] ∧
      fs.root.kindAt place ≠ some .directory ∧ fs' = fs.putAt place (.file []) := by
  unfold openEmpty at hopen
  split at hopen
  · cases hopen
  · cases hopen
  · rename_i directory n hlast
    split at hopen
    · cases hopen
    · rename_i hat
      cases hopen
      refine ⟨directory, n, ends_of_locateLast hlast, rfl, fun hthere => ?_, rfl⟩
      obtain ⟨es, hes⟩ := Entry.kindAt_eq_directory_iff.1 hthere
      exact hat es hes

/-- What stands in the tree when a file was put in a directory, and was put there once more. -/
theorem kindAt_putAt_file (hdirectory : fs.root.kindAt place.dropLast = some .directory)
    (hfree : fs.root.kindAt place ≠ some .directory) (content : Bytes) :
    (∀ query, (fs.putAt place (.file content)).root.kindAt query =
      if query = place then some (.file content) else fs.root.kindAt query) ∧
    ∀ content' query, ((fs.putAt place (.file content)).putAt place (.file content')).root.kindAt query =
      if query = place then some (.file content') else fs.root.kindAt query := by
  have hput := Entry.kindAt_put (Entry.isLeaf_file content) hdirectory hfree
  refine ⟨hput, fun content' query => ?_⟩
  have habove : (fs.putAt place (.file content)).root.kindAt place.dropLast = some .directory := by
    rw [putAt, hput, if_neg, hdirectory]
    intro hplace
    exact hfree (hplace ▸ hdirectory)
  have hagain : (fs.putAt place (.file content)).root.kindAt place ≠ some .directory := by
    rw [putAt, hput, if_pos rfl]
    simp [Entry.kind]
  rw [putAt, Entry.kindAt_put (Entry.isLeaf_file content') habove hagain, putAt, hput]
  split <;> rfl

end FileSystem

namespace Template

open FileSystem

/-- However a render to a file ends, nothing has changed but its file and directories above it. -/
theorem renderToFile_confined (t : Template) (convert : Conversion) (v : Value) (codecs : Codecs)
    (charset : Data) {p : Path} (hmoving : Way.Moving p.parts) (fs : FileSystem) :
    fs.Confined p (t.renderToFile convert v codecs charset p fs).1 := by
  have hmoving' : Way.Moving p.parent.parts := fun n hn => hmoving n (List.dropLast_subset _ hn)
  have hextended : fs.Extended p.parent (fs.ensureDirectories p.parent).1 :=
    extended_ensureDirectories hmoving'
  unfold renderToFile
  split
  · rename_i made e hmade
    rw [hmade] at hextended
    exact .of_extended hextended
  · rename_i made hmade
    rw [hmade] at hextended
    have hopened {opened : FileSystem} {place : List Text}
        (hopen : made.openEmpty p = .ok (opened, place)) :
        fs.Confined p opened ∧ ∀ content, fs.Confined p (opened.putAt place (.file content)) := by
      obtain ⟨directory, n, hends, rfl, hfree, rfl⟩ := openEmpty_eq_ok hopen
      have hparent : made.root.kindAt (directory ++ [n]).dropLast = some .directory := by
        rw [List.dropLast_concat]
        exact hends.there
      obtain ⟨honce, htwice⟩ := kindAt_putAt_file hparent hfree []
      exact ⟨.of_written hextended hends hmoving hfree rfl honce,
        fun content => .of_written hextended hends hmoving hfree rfl (htwice content)⟩
    unfold openText
    cases Charset.nameOf charset with
    | error e => exact .of_extended hextended
    | ok name =>
      simp only
      cases hopen : made.openEmpty p with
      | error e => exact .of_extended hextended
      | ok opened =>
        simp only
        cases codecs.find? name with
        | none => exact (hopened hopen).1
        | some codec => exact (hopened hopen).2 _

end Template

end Stencil
