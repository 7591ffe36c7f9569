import Mathlib.Data.List.Basic
import Mathlib.Data.List.TakeWhile
import Stencil.Config.Reference

namespace Stencil

namespace Reference

/-- A letter or an underscore, and then letters, digits and underscores. -/
structure IsName (name : Text) : Prop where
  start : name.head?.any isNameStart = true
  parts : ∀ c ∈ name, isNamePart c = true

/-- A part as references are written: with a name, and a fallback without a closing brace. -/
def Part.IsReference : Part → Prop
  | literal _ => False
  | named name fallback => IsName name ∧ ∀ v ∈ fallback, closing ∉ v

/-- Whether a reference is written at the start of a text. -/
def Starts (t : Text) : Prop := ∃ p rest, Part.IsReference p ∧ t = p.source ++ rest

theorem takeWhile_append_of_head {p : CodePoint → Bool} {s t : Text} (hs : ∀ c ∈ s, p c = true)
    (ht : t.head?.any p = false) : (s ++ t).takeWhile p = s := by
  rw [List.takeWhile_append_of_pos hs]
  cases t with
  | nil => simp
  | cons c t => simp_all

/-- What is read behind the opening sign is a reference. -/
theorem isReference_of_body? {t : Text} {p : Part} (hbody : body? t = some p) : p.IsReference := by
  have hparts : ∀ c ∈ t.takeWhile isNamePart, isNamePart c = true := fun c hc =>
    List.mem_takeWhile_imp hc
  unfold body? at hbody
  simp only at hbody
  split at hbody
  · cases hbody
  · rename_i hstart
    have hname : IsName (t.takeWhile isNamePart) := ⟨by simpa using hstart, hparts⟩
    split at hbody
    · cases hbody
      exact ⟨hname, by simp⟩
    · split at hbody
      · split at hbody
        · cases hbody
          refine ⟨hname, ?_⟩
          rintro v ⟨⟩ hclosing
          simpa using List.mem_takeWhile_imp hclosing
        · cases hbody
      · cases hbody

theorem isReference_of_at? {t : Text} {p : Part} (hat : at? t = some p) : p.IsReference := by
  unfold at? at hat
  split at hat
  · exact isReference_of_body? hat
  · cases hat

theorem at?_opening_append (t : Text) : at? (opening ++ t) = body? t := by
  rw [at?, if_pos (List.isPrefixOf_iff_prefix.2 (List.prefix_append _ _)), List.drop_left]

/-- A name up to the closing brace is a reference without a fallback. -/
theorem body?_named {name : Text} (hname : IsName name) (rest : Text) :
    body? (name ++ closing :: rest) = some (.named name none) := by
  have htake : (name ++ closing :: rest).takeWhile isNamePart = name :=
    takeWhile_append_of_head hname.parts rfl
  simp [body?, htake, hname.start]

/-- A fallback goes up to the next closing brace, and may hold anything else. -/
theorem body?_fallback {name v : Text} (hname : IsName name) (hv : closing ∉ v) (rest : Text) :
    body? (name ++ (fallbackSign ++ (v ++ closing :: rest))) = some (.named name (some v)) := by
  have htake : (name ++ (fallbackSign ++ (v ++ closing :: rest))).takeWhile isNamePart = name :=
    takeWhile_append_of_head hname.parts rfl
  have hfallback : (v ++ closing :: rest).takeWhile (fun c => c != closing) = v :=
    takeWhile_append_of_head (fun c hc => bne_iff_ne.2 fun heq => hv (heq ▸ hc)) (by simp)
  -- The reader looks for the end of the reference before it looks for a fallback.
  have hsign : (fallbackSign ++ (v ++ closing :: rest)).head? ≠ some closing := by
    simp [fallbackSign, Text.of]
    decide
  have hprefix : fallbackSign.isPrefixOf (fallbackSign ++ (v ++ closing :: rest)) = true :=
    List.isPrefixOf_iff_prefix.2 (List.prefix_append _ _)
  simp only [body?, htake, hname.start, List.drop_left, hsign, hprefix, hfallback, Bool.not_true,
    Bool.false_eq_true, if_false, if_true]
  rw [if_pos (by simp)]

/-- A reference is read from its own source, whatever follows. -/
theorem at?_of_isReference {p : Part} (hp : p.IsReference) (rest : Text) :
    at? (p.source ++ rest) = some p := by
  cases p with
  | literal c => exact hp.elim
  | named name fallback =>
    obtain ⟨hname, hfallback⟩ := hp
    cases fallback with
    | none =>
      rw [Part.source, List.append_assoc, List.append_assoc, at?_opening_append]
      exact body?_named hname rest
    | some v =>
      rw [Part.source, List.append_assoc, List.append_assoc, List.append_assoc, List.append_assoc,
        at?_opening_append]
      exact body?_fallback hname (hfallback v rfl) rest

/-- A text starts with at most one reference, and that one is read. -/
theorem at?_eq_some_iff {t : Text} {p : Part} :
    at? t = some p ↔ p.IsReference ∧ ∃ rest, t = p.source ++ rest := by
  constructor
  · intro hat
    exact ⟨isReference_of_at? hat, source_of_at? hat⟩
  · rintro ⟨hp, rest, rfl⟩
    exact at?_of_isReference hp rest

/-- Nothing is read only where no reference starts. -/
theorem at?_eq_none_iff {t : Text} : at? t = none ↔ ¬ Starts t := by
  rw [Option.eq_none_iff_forall_ne_some]
  constructor
  · rintro hnone ⟨p, rest, hp, ht⟩
    exact hnone p (at?_eq_some_iff.2 ⟨hp, rest, ht⟩)
  · intro hstarts p hat
    obtain ⟨hp, rest, ht⟩ := at?_eq_some_iff.1 hat
    exact hstarts ⟨p, rest, hp, ht⟩

/-- A reference and the literal text behind it. -/
structure Piece where
  name : Text
  fallback : Option Text
  behind : Text
deriving DecidableEq

namespace Piece

def reference (p : Piece) : Part := .named p.name p.fallback

/-- The parts that a piece consists of. -/
def parts (p : Piece) : List Part := p.reference :: p.behind.map .literal

/-- The text that a piece was cut from. -/
def source (p : Piece) : Text := p.reference.source ++ p.behind

/-- The variable is not set, and there is no fallback. -/
def Unset (env : Environment) (p : Piece) : Prop := env.lookup p.name = none ∧ p.fallback = none

instance (env : Environment) (p : Piece) : Decidable (p.Unset env) :=
  inferInstanceAs (Decidable (_ ∧ _))

/-- The value of the variable if it is set, else the fallback, and the literal text behind it. -/
def filled (env : Environment) (p : Piece) : Text :=
  ((env.lookup p.name).or p.fallback).getD [] ++ p.behind

end Piece

/-- No reference starts in a text, if another text stands behind it. -/
def Plain (s rest : Text) : Prop :=
  ∀ before inside, s = before ++ inside → inside ≠ [] → ¬ Starts (inside ++ rest)

theorem plain_nil (rest : Text) : Plain [] rest := by
  intro before inside hsplit hne
  exact absurd (List.append_eq_nil_iff.1 hsplit.symm).2 hne

theorem plain_cons_iff {c : CodePoint} {s rest : Text} :
    Plain (c :: s) rest ↔ ¬ Starts (c :: (s ++ rest)) ∧ Plain s rest := by
  constructor
  · intro hplain
    refine ⟨hplain [] (c :: s) rfl (by simp), fun before inside hsplit hne => ?_⟩
    exact hplain (c :: before) inside (by rw [hsplit]; rfl) hne
  · rintro ⟨hstarts, hplain⟩ before inside hsplit hne
    cases before with
    | nil =>
      obtain rfl : c :: s = inside := hsplit
      exact hstarts
    | cons d before => exact hplain before inside (List.cons.inj hsplit).2 hne

/-- A text is cut into the literal text before the first reference, and the references, each with
the literal text behind it. -/
inductive Cut : Text → (lead : Text) → List Piece → Prop where
  | literal {s : Text} (hplain : Plain s []) : Cut s s []
  | reference {lead rest : Text} {p : Piece} {ps : List Piece}
      (hplain : Plain lead (p.reference.source ++ rest)) (hreference : p.reference.IsReference)
      (hrest : Cut rest p.behind ps) : Cut (lead ++ (p.reference.source ++ rest)) lead (p :: ps)

theorem Cut.cons {c : CodePoint} {s lead : Text} {ps : List Piece} (hcut : Cut s lead ps)
    (hstarts : ¬ Starts (c :: s)) : Cut (c :: s) (c :: lead) ps := by
  cases hcut with
  | literal hplain =>
    exact .literal (plain_cons_iff.2 ⟨by rwa [List.append_nil], hplain⟩)
  | reference hplain hreference hrest =>
    exact .reference (plain_cons_iff.2 ⟨hstarts, hplain⟩) hreference hrest

theorem source_ne_nil (p : Part) : p.source ≠ [] := by
  cases p with
  | literal c => simp [Part.source]
  | named name fallback => cases fallback <;> simp [Part.source, opening, Text.of]

/-- Every text can be cut into references and the literal text around them. -/
theorem exists_cut (s : Text) : ∃ lead ps, Cut s lead ps := by
  -- A reference is left behind as a whole, so the induction is on the length.
  induction hlength : s.length using Nat.strongRecOn generalizing s with
  | ind n ih =>
    subst hlength
    cases s with
    | nil => exact ⟨[], [], .literal (plain_nil [])⟩
    | cons c s =>
      by_cases hstarts : Starts (c :: s)
      · obtain ⟨p, rest, hp, hsplit⟩ := hstarts
        have hshorter : rest.length < (c :: s).length := by
          have hpos := List.length_pos_iff.2 (source_ne_nil p)
          rw [hsplit, List.length_append]
          omega
        obtain ⟨behind, ps, hcut⟩ := ih rest.length hshorter rest rfl
        cases p with
        | literal d => exact hp.elim
        | named name fallback =>
          rw [hsplit]
          refine ⟨[], ⟨name, fallback, behind⟩ :: ps, ?_⟩
          exact @Cut.reference [] rest ⟨name, fallback, behind⟩ ps (plain_nil _) hp hcut
      · obtain ⟨lead, ps, hcut⟩ := ih s.length (Nat.lt_succ_self _) s rfl
        exact ⟨c :: lead, ps, hcut.cons hstarts⟩

/-- The references and the literal texts of a cut are the text. -/
theorem Cut.source_eq {s lead : Text} {ps : List Piece} (hcut : Cut s lead ps) :
    s = lead ++ ps.flatMap Piece.source := by
  induction hcut with
  | literal => simp
  | reference _ _ _ ih =>
    rw [ih]
    simp [Piece.source]

theorem partsFrom_length_append (s t : Text) : partsFrom s.length (s ++ t) = partsFrom 0 t := by
  induction s with
  | nil => rfl
  | cons c s ih => exact ih

/-- A reference at the front is the first part. -/
theorem partsFrom_reference {p : Part} (hp : p.IsReference) (rest : Text) :
    partsFrom 0 (p.source ++ rest) = p :: partsFrom 0 rest := by
  have hat := at?_of_isReference hp rest
  cases hsource : p.source with
  | nil => exact absurd hsource (source_ne_nil p)
  | cons c s =>
    rw [hsource, List.cons_append] at hat
    rw [List.cons_append, partsFrom, hat]
    simp only [hsource, List.length_cons, Nat.add_sub_cancel, partsFrom_length_append]

/-- Text in which no reference starts is literal. -/
theorem partsFrom_plain {s rest : Text} (hplain : Plain s rest) :
    partsFrom 0 (s ++ rest) = s.map .literal ++ partsFrom 0 rest := by
  induction s with
  | nil => rfl
  | cons c s ih =>
    obtain ⟨hstarts, hplain⟩ := plain_cons_iff.1 hplain
    rw [List.cons_append, partsFrom, at?_eq_none_iff.2 hstarts, ih hplain]
    rfl

/-- The parts that a text is read into are those of its cut. -/
theorem Cut.parts_eq {s lead : Text} {ps : List Piece} (hcut : Cut s lead ps) :
    parts s = lead.map .literal ++ ps.flatMap Piece.parts := by
  rw [parts]
  induction hcut with
  | @literal s hplain =>
    have hparts := partsFrom_plain hplain
    simpa [partsFrom] using hparts
  | reference hplain hreference _ ih =>
    rw [partsFrom_plain hplain, partsFrom_reference hreference, ih]
    simp [Piece.parts]

/-- What is read off the parts of a text, one after another, is read off its cut. -/
theorem Cut.flatMap_parts {α : Type} {s lead : Text} {ps : List Piece} (hcut : Cut s lead ps)
    (f : Part → List α) :
    (parts s).flatMap f = lead.flatMap (fun c => f (.literal c)) ++
      ps.flatMap fun p => f p.reference ++ p.behind.flatMap fun c => f (.literal c) := by
  rw [hcut.parts_eq]
  simp [List.flatMap_map, List.flatMap_assoc, Piece.parts]

/-- What literal text has no part in is read off the references. -/
theorem Cut.flatMap_parts_of_silent {α : Type} {s lead : Text} {ps : List Piece}
    (hcut : Cut s lead ps) {f : Part → List α} (hsilent : ∀ c, f (.literal c) = []) :
    (parts s).flatMap f = ps.flatMap fun p => f p.reference := by
  have hliteral (t : Text) : (t.flatMap fun c => f (.literal c)) = [] :=
    List.flatMap_eq_nil_iff.2 fun c _ => hsilent c
  simp [hcut.flatMap_parts, hliteral]

/-- The names of a text are those of the references of its cut. -/
theorem Cut.names_eq {s lead : Text} {ps : List Piece} (hcut : Cut s lead ps) :
    names s = ps.map Piece.name := by
  rw [names, List.filterMap_eq_flatMap_toList, hcut.flatMap_parts_of_silent fun _ => rfl,
    List.map_eq_flatMap]
  rfl

/-- How a replacement ends: with the first name that has no value, or with what came out. -/
def verdict {α : Type} (unset : List Text) (a : α) : Except ConfigError α :=
  match unset with
  | [] => .ok a
  | n :: _ => .error (.unset n)

section

variable {α β γ : Type}

@[simp] theorem verdict_nil (a : α) : verdict [] a = .ok a := rfl

@[simp] theorem verdict_cons (n : Text) (ns : List Text) (a : α) :
    verdict (n :: ns) a = .error (.unset n) := rfl

/-- A verdict over unset variables is passed on to what is made of its result. -/
theorem map_verdict (f : α → β) (ns : List Text) (a : α) :
    (verdict ns a).map f = verdict ns (f a) := by
  cases ns <;> rfl

/-- One replacement after another: the first one that fails ends both. -/
theorem bind_verdict (f : α → β → γ) (ms ns : List Text) (a : α) (b : β) :
    (do let x ← verdict ms a
        let y ← verdict ns b
        return f x y) = verdict (ms ++ ns) (f a b) := by
  cases ms with
  | nil => cases ns <;> rfl
  | cons m ms => rfl

/-- The verdicts of a list are one: the first unset variable among all of them decides. -/
theorem mapM_verdict {f : α → Except ConfigError β} {unset : α → List Text} {g : α → β}
    (hf : ∀ a, f a = verdict (unset a) (g a)) (as : List α) :
    as.mapM f = verdict (as.flatMap unset) (as.map g) := by
  induction as with
  | nil => rfl
  | cons a as ih =>
    rw [List.mapM_cons, ih, hf]
    exact bind_verdict List.cons _ _ _ _

/-- A verdict is an error if there is an unset variable at all. -/
theorem verdict_eq_error_iff {ns : List Text} {a : α} :
    (∃ e, verdict ns a = .error e) ↔ ns ≠ [] := by
  cases ns <;> simp

end

/-- The name of a part without a value. -/
def Part.unset (env : Environment) : Part → List Text
  | literal _ => []
  | named name fallback => if env.lookup name = none ∧ fallback = none then [name] else []

/-- What stands for a part that has a value. -/
def Part.filled (env : Environment) : Part → Text
  | literal c => [c]
  | named name fallback => ((env.lookup name).or fallback).getD []

/-- The variables of a text that are not set, in order, where there is no fallback. -/
def unset (env : Environment) (t : Text) : List Text := (parts t).flatMap (Part.unset env)

/-- A text with its references replaced, where they have a value. -/
def filled (env : Environment) (t : Text) : Text := (parts t).flatMap (Part.filled env)

theorem Part.value_eq (env : Environment) (p : Part) :
    p.value env = verdict (p.unset env) (p.filled env) := by
  cases p with
  | literal c => rfl
  | named name fallback =>
    simp only [Part.value, Part.unset, Part.filled]
    cases env.lookup name with
    | some v => simp
    | none => cases fallback <;> simp

/-- A text comes to its filled form, unless a variable without a fallback is unset: then the
leftmost is named. -/
theorem expand_eq (env : Environment) (t : Text) :
    expand env t = verdict (unset env t) (filled env t) := by
  rw [expand, mapM_verdict (Part.value_eq env), map_verdict, ← List.flatMap_def]
  rfl

/-- Only the variables that a text names matter to it. -/
theorem replacement_congr {env env' : Environment} {t : Text}
    (hagree : ∀ n ∈ names t, env.lookup n = env'.lookup n) :
    unset env t = unset env' t ∧ filled env t = filled env' t := by
  have hpart : ∀ p ∈ parts t, p.unset env = p.unset env' ∧ p.filled env = p.filled env' := by
    intro p hp
    cases p with
    | literal c => exact ⟨rfl, rfl⟩
    | named name fallback =>
      have hname := hagree name (List.mem_filterMap.2 ⟨_, hp, rfl⟩)
      simp only [Part.unset, Part.filled, hname, and_self]
  exact ⟨List.flatMap_congr fun p hp => (hpart p hp).1,
    List.flatMap_congr fun p hp => (hpart p hp).2⟩

section

variable {s lead : Text} {ps : List Piece}

/-- The unset variables are those of the references of the cut that have no fallback, from left to
right. -/
theorem Cut.unset_eq (hcut : Cut s lead ps) (env : Environment) :
    unset env s = (ps.filter (Piece.Unset env)).map Piece.name := by
  rw [unset, hcut.flatMap_parts_of_silent fun _ => rfl]
  clear hcut
  induction ps with
  | nil => rfl
  | cons p ps ih =>
    have hpart : p.reference.unset env = if p.Unset env then [p.name] else [] := rfl
    rw [List.flatMap_cons, ih, hpart]
    by_cases hunset : p.Unset env <;> simp [hunset]

/-- The filled text is the literal text of the cut with the value of each reference in its place. -/
theorem Cut.filled_eq (hcut : Cut s lead ps) (env : Environment) :
    filled env s = lead ++ ps.flatMap (Piece.filled env) := by
  rw [filled, hcut.flatMap_parts]
  simp only [Part.filled, Piece.reference, List.flatMap_singleton']
  rfl

end

end Reference

end Stencil
