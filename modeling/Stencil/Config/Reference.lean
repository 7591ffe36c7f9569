import Stencil.Config.Error
import Stencil.Data.Basic

namespace Stencil

/-- The variables of the environment; the first one of a name counts. -/
abbrev Environment := List (Text × Text)

/-- A text is first cut into references and literal code points, whatever the environment holds;
then each reference is replaced. What comes out is not read again. -/
inductive Reference.Part where
  | literal (c : CodePoint)
  | named (name : Text) (fallback : Option Text)
deriving DecidableEq

namespace Reference

def opening : Text := Text.of "$\x7b"

def fallbackSign : Text := Text.of ":-"

def closing : CodePoint := CodePoint.ofChar '\x7d'

def isNameStart (c : CodePoint) : Bool := c.isLetter || c.is '_'

def isNamePart (c : CodePoint) : Bool := c.isLetter || c.isDigit || c.is '_'

namespace Part

/-- The text that a part was read from. -/
def source : Part → Text
  | literal c => [c]
  | .named name none => opening ++ name ++ [closing]
  | .named name (some fallback) => opening ++ name ++ fallbackSign ++ fallback ++ [closing]

end Part

/-- The reference behind its opening sign: a name, and a fallback up to the first closing brace. -/
def body? (t : Text) : Option Part :=
  let name := t.takeWhile isNamePart
  let rest := t.drop name.length
  if !name.head?.any isNameStart then none
  else if rest.head? = some closing then some (.named name none)
  else if fallbackSign.isPrefixOf rest then
    let inner := rest.drop fallbackSign.length
    let fallback := inner.takeWhile fun c => c != closing
    if fallback.length < inner.length then some (.named name (some fallback)) else none
  else none

/-- The reference that a text starts with. -/
def at? (t : Text) : Option Part :=
  if opening.isPrefixOf t then body? (t.drop opening.length) else none

/-- The parts of a text after `skip` code points of a reference that is already read. -/
def partsFrom : (skip : Nat) → Text → List Part
  | _, [] => []
  | skip + 1, _ :: r => partsFrom skip r
  | 0, c :: r =>
    match at? (c :: r) with
    | some p => p :: partsFrom (p.source.length - 1) r
    | none => .literal c :: partsFrom 0 r

/-- The references of a text from left to right, and the code points outside of them. -/
def parts (t : Text) : List Part := partsFrom 0 t

/-- The variables that a text refers to. -/
def names (t : Text) : List Text :=
  (parts t).filterMap fun p => match p with | .named n _ => some n | .literal _ => none

/-- What a part is replaced by. A variable that is set counts even if it is empty. -/
def Part.value (env : Environment) : Part → Except ConfigError Text
  | literal c => .ok [c]
  | .named name fallback =>
    match env.lookup name, fallback with
    | some v, _ => .ok v
    | none, some v => .ok v
    | none, none => .error (.unset name)

/-- A text with its references replaced; the first one without a value is an error. -/
def expand (env : Environment) (t : Text) : Except ConfigError Text :=
  ((parts t).mapM (Part.value env)).map List.flatten

/-- If something is left behind the code points before the first `c`, it begins with `c`. -/
theorem eq_of_length_takeWhile_lt {c : CodePoint} {t : Text}
    (hshort : (t.takeWhile fun d => d != c).length < t.length) :
    ∃ r, t = t.takeWhile (fun d => d != c) ++ c :: r := by
  have hwhole := List.takeWhile_append_dropWhile (p := fun d => d != c) (l := t)
  cases hrest : t.dropWhile fun d => d != c with
  | nil =>
    rw [hrest, List.append_nil] at hwhole
    rw [hwhole] at hshort
    exact absurd hshort (Nat.lt_irrefl _)
  | cons d r =>
    have hfirst := List.head?_dropWhile_not (fun d => d != c) t
    simp only [hrest, List.head?_cons, bne_eq_false_iff_eq] at hfirst
    subst hfirst
    exact ⟨r, by rw [← hrest, hwhole]⟩

/-- A reference stands behind its opening sign as it is read. -/
theorem source_of_body? {t : Text} {p : Part} (hbody : body? t = some p) :
    ∃ r, opening ++ t = p.source ++ r := by
  have hname : t.takeWhile isNamePart ++ t.drop (t.takeWhile isNamePart).length = t :=
    List.prefix_iff_eq_append.1 (List.takeWhile_prefix _)
  unfold body? at hbody
  simp only at hbody
  split at hbody
  · cases hbody
  split at hbody
  · rename_i hclosing
    cases hbody
    obtain ⟨r, hr⟩ := List.head?_eq_some_iff.1 hclosing
    rw [hr] at hname
    exact ⟨r, by simp only [Part.source, List.append_assoc, List.singleton_append, hname]⟩
  split at hbody
  · rename_i hsign
    split at hbody
    · rename_i hshort
      cases hbody
      obtain ⟨inner, hinner⟩ := List.isPrefixOf_iff_prefix.1 hsign
      rw [← hinner, List.drop_left] at hshort ⊢
      obtain ⟨r, hr⟩ := eq_of_length_takeWhile_lt hshort
      refine ⟨r, ?_⟩
      simp only [Part.source, List.append_assoc, List.singleton_append]
      rw [← hr, hinner, hname]
    · cases hbody
  · cases hbody

theorem source_of_at? {t : Text} {p : Part} (h : at? t = some p) : ∃ r, t = p.source ++ r := by
  unfold at? at h
  split at h
  · rename_i hopening
    obtain ⟨u, rfl⟩ := List.isPrefixOf_iff_prefix.1 hopening
    rw [List.drop_left] at h
    exact source_of_body? h
  · cases h

theorem flatMap_source_partsFrom (skip : Nat) (t : Text) :
    (partsFrom skip t).flatMap Part.source = t.drop skip := by
  induction t generalizing skip with
  | nil => simp [partsFrom]
  | cons c r ih =>
    cases skip with
    | succ n => simp [partsFrom, ih]
    | zero =>
      unfold partsFrom
      cases h : at? (c :: r) with
      | none => simp [Part.source, ih]
      | some p =>
        obtain ⟨s, hs⟩ := source_of_at? h
        simp only [List.flatMap_cons, ih, List.drop_zero]
        cases hp : p.source with
        | nil =>
          exfalso
          cases p with
          | literal d => simp [Part.source] at hp
          | named name fallback => cases fallback <;> simp [Part.source, opening, Text.of] at hp
        | cons d q =>
          rw [hp] at hs
          simp only [List.cons_append, List.cons.injEq] at hs
          simp [hs.1, hs.2]

/-- The parts of a text are the text. -/
theorem flatMap_source_parts (t : Text) : (parts t).flatMap Part.source = t := by
  rw [parts, flatMap_source_partsFrom, List.drop_zero]

end Reference

namespace Data

mutual

/-- Replaces the references in every text, depth first; keys stay as they are. -/
def expand (env : Environment) : Data → Except ConfigError Data
  | .scalar (.text t) => (Reference.expand env t).map Data.text
  | .scalar s => .ok (.scalar s)
  | .list items => (expandItems env items).map .list
  | .mapping entries => (expandEntries env entries).map .mapping

def expandItems (env : Environment) : List Data → Except ConfigError (List Data)
  | [] => .ok []
  | d :: ds => do
    let d' ← d.expand env
    let ds' ← expandItems env ds
    return d' :: ds'

def expandEntries (env : Environment) :
    List (Scalar × Data) → Except ConfigError (List (Scalar × Data))
  | [] => .ok []
  | (k, d) :: es => do
    let d' ← d.expand env
    let es' ← expandEntries env es
    return (k, d') :: es'

end

end Data

end Stencil
