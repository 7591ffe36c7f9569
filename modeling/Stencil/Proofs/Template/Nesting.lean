import Stencil.Template.Error
import Stencil.Template.Tag

namespace Stencil

/-- A tag, and where in a source it begins. -/
structure Placed where
  tag : Tag
  offset : Nat
deriving DecidableEq

namespace Placed

/-- A tag that stands for itself. -/
def Leaf (p : Placed) : Prop := p.tag.kind = .comment ∨ ∃ escaped, p.tag.kind = .print escaped

/-- A tag that opens a section. -/
def Opening (p : Placed) : Prop := ∃ inverted, p.tag.kind = .opening inverted

/-- Every tag but a comment has a name. -/
def Named (ps : List Placed) : Prop := ∀ p ∈ ps, p.tag.kind ≠ .comment → p.tag.name ≠ []

/-- Tags in which every section is closed, by a closing tag of its name. -/
inductive Nested : List Placed → Prop where
  | nil : Nested []
  | leaf {p : Placed} {ps : List Placed} (hleaf : p.Leaf) (hps : Nested ps) : Nested (p :: ps)
  | pair {o c : Placed} {body ps : List Placed} (hopening : o.Opening)
      (hclosing : c.tag.kind = .closing) (hsame : o.tag.name = c.tag.name) (hbody : Nested body)
      (hps : Nested ps) : Nested (o :: (body ++ c :: ps))

/-- Tags behind which these sections are still open, the innermost one first. -/
inductive Opens : List Placed → List Placed → Prop where
  | level {ps : List Placed} (hps : Nested ps) : Opens ps []
  | opened {ps os body : List Placed} {o : Placed} (hps : Opens ps os) (hopening : o.Opening)
      (hbody : Nested body) : Opens (ps ++ o :: body) (o :: os)

/-- A tag cannot stand inside these open sections. -/
inductive Offends : List Placed → Placed → TemplateError.Cause → Prop where
  | emptyName {os : List Placed} {p : Placed} (hkind : p.tag.kind ≠ .comment)
      (hname : p.tag.name = []) : Offends os p .emptyName
  | strayClosing {p : Placed} (hkind : p.tag.kind = .closing) (hname : p.tag.name ≠ []) :
      Offends [] p (.strayClosing p.tag.name)
  | mismatch {o p : Placed} {os : List Placed} (hkind : p.tag.kind = .closing)
      (hname : p.tag.name ≠ []) (hother : o.tag.name ≠ p.tag.name) :
      Offends (o :: os) p (.mismatch p.tag.name o.tag.name o.offset)

/-- What a tag that can stand inside these open sections leaves open. -/
inductive Moves : List Placed → Placed → List Placed → Prop where
  | comment {os : List Placed} {p : Placed} (hkind : p.tag.kind = .comment) : Moves os p os
  | print {os : List Placed} {p : Placed} {escaped : Bool} (hkind : p.tag.kind = .print escaped)
      (hname : p.tag.name ≠ []) : Moves os p os
  | opening {os : List Placed} {p : Placed} {inverted : Bool}
      (hkind : p.tag.kind = .opening inverted) (hname : p.tag.name ≠ []) : Moves os p (p :: os)
  | closing {o p : Placed} {os : List Placed} (hkind : p.tag.kind = .closing)
      (hname : p.tag.name ≠ []) (hsame : o.tag.name = p.tag.name) : Moves (o :: os) p os

/-- Reading tags one after another. -/
inductive Runs : List Placed → List Placed → List Placed → Prop where
  | nil (os : List Placed) : Runs os [] os
  | cons {os os' os'' ps : List Placed} {p : Placed} (hmoves : Moves os p os')
      (hruns : Runs os' ps os'') : Runs os (p :: ps) os''

/-- Tags after tags run the open sections on. -/
theorem Runs.append {os os' os'' ps qs : List Placed} (hps : Runs os ps os')
    (hqs : Runs os' qs os'') : Runs os (ps ++ qs) os'' := by
  induction hps with
  | nil => exact hqs
  | cons hmoves _ ih => exact .cons hmoves (ih hqs)

/-- A run through tags and further tags stops between the two. -/
theorem Runs.of_append {os os'' ps qs : List Placed} (hruns : Runs os (ps ++ qs) os'') :
    ∃ os', Runs os ps os' ∧ Runs os' qs os'' := by
  induction ps generalizing os with
  | nil => exact ⟨os, .nil os, hruns⟩
  | cons p ps ih =>
    cases hruns with
    | cons hmoves hruns =>
      obtain ⟨os', hps, hqs⟩ := ih hruns
      exact ⟨os', .cons hmoves hps, hqs⟩

/-- Properly nested tags may follow one another. -/
theorem Nested.append {ps qs : List Placed} (hps : Nested ps) (hqs : Nested qs) :
    Nested (ps ++ qs) := by
  induction hps with
  | nil => exact hqs
  | leaf hleaf _ ih => exact .leaf hleaf ih
  | pair hopening hclosing hsame hbody _ _ ih =>
    rw [List.cons_append, List.append_assoc, List.cons_append]
    exact .pair hopening hclosing hsame hbody ih

theorem Opens.append {ps qs os : List Placed} (hps : Opens ps os) (hqs : Nested qs) :
    Opens (ps ++ qs) os := by
  cases hps with
  | level hps => exact .level (hps.append hqs)
  | opened hps hopening hbody =>
    rw [List.append_assoc, List.cons_append]
    exact .opened hps hopening (hbody.append hqs)

theorem Opens.mem {ps os : List Placed} (hps : Opens ps os) {o : Placed} (ho : o ∈ os) :
    o ∈ ps := by
  induction hps with
  | level => cases ho
  | opened _ _ _ ih =>
    rcases List.mem_cons.1 ho with rfl | ho
    · simp
    · exact List.mem_append_left _ (ih ho)

/-- Tags that leave no section open are properly nested. -/
theorem opens_nil_iff {ps : List Placed} : Opens ps [] ↔ Nested ps := by
  constructor
  · intro hps
    cases hps with
    | level hps => exact hps
  · exact .level

/-- One more tag that can stand where it stands leaves open what the rules leave
    open. -/
theorem Opens.moves {ps os os' : List Placed} {p : Placed} (hps : Opens ps os)
    (hmoves : Moves os p os') : Opens (ps ++ [p]) os' := by
  cases hmoves with
  | comment hkind => exact hps.append (.leaf (.inl hkind) .nil)
  | print hkind hname => exact hps.append (.leaf (.inr ⟨_, hkind⟩) .nil)
  | opening hkind hname => exact .opened hps ⟨_, hkind⟩ .nil
  | closing hkind hname hsame =>
    cases hps with
    | opened hps hopening hbody =>
      rw [List.append_assoc, List.cons_append]
      exact hps.append (.pair hopening hkind hsame hbody .nil)

theorem Moves.named {os os' : List Placed} {p : Placed} (hmoves : Moves os p os')
    (hkind : p.tag.kind ≠ .comment) : p.tag.name ≠ [] := by
  cases hmoves with
  | comment hcomment => exact absurd hcomment hkind
  | print _ hname => exact hname
  | opening _ hname => exact hname
  | closing _ hname _ => exact hname

/-- What a run leaves open is what the tags have opened and not closed again, in their order. -/
theorem Runs.opens {ps qs os os' : List Placed} (hruns : Runs os ps os') (hqs : Opens qs os) :
    Opens (qs ++ ps) os' := by
  induction hruns generalizing qs with
  | nil => rwa [List.append_nil]
  | @cons _ _ _ ps p hmoves _ ih =>
    rw [List.append_cons]
    exact ih (hqs.moves hmoves)

/-- A tag that a run takes has a name, unless it is a comment. -/
theorem Runs.named {ps os os' : List Placed} (hruns : Runs os ps os') : Named ps := by
  induction hruns with
  | nil => simp [Named]
  | cons hmoves _ ih => exact List.forall_mem_cons.2 ⟨hmoves.named, ih⟩

/-- Nested tags leave the sections around them as they are. -/
theorem Nested.runs {ps : List Placed} (hps : Nested ps) (hnamed : Named ps) (os : List Placed) :
    Runs os ps os := by
  induction hps generalizing os with
  | nil => exact .nil os
  | @leaf p ps hleaf hps ih =>
    obtain ⟨hp, hnamed⟩ := List.forall_mem_cons.1 hnamed
    rcases hleaf with hkind | ⟨escaped, hkind⟩
    · exact .cons (.comment hkind) (ih hnamed os)
    · exact .cons (.print hkind (hp (by simp [hkind]))) (ih hnamed os)
  | @pair o c body ps hopening hclosing hsame hbody hps ihbody ihps =>
    obtain ⟨inverted, hkind⟩ := hopening
    obtain ⟨ho, hnamed⟩ := List.forall_mem_cons.1 hnamed
    obtain ⟨hinside, hnamed⟩ := List.forall_mem_append.1 hnamed
    obtain ⟨hc, hbehind⟩ := List.forall_mem_cons.1 hnamed
    refine .cons (.opening hkind (ho (by simp [hkind]))) ((ihbody hinside (o :: os)).append ?_)
    exact .cons (.closing hclosing (hc (by simp [hclosing])) hsame) (ihps hbehind os)

/-- Tags that open some sections and close all others run to them, if they have names. -/
theorem Opens.runs {ps os : List Placed} (hps : Opens ps os) (hnamed : Named ps) :
    Runs [] ps os := by
  induction hps with
  | level hps => exact hps.runs hnamed []
  | @opened ps os body o hps hopening hbody ih =>
    obtain ⟨inverted, hkind⟩ := hopening
    obtain ⟨hbefore, hnamed⟩ := List.forall_mem_append.1 hnamed
    obtain ⟨ho, hinside⟩ := List.forall_mem_cons.1 hnamed
    refine (ih hbefore).append (.cons (.opening hkind (ho (by simp [hkind]))) ?_)
    exact hbody.runs hinside _

/-- Reading tags from the start leaves open what the rules leave open. -/
theorem runs_iff_opens {ps os : List Placed} : Runs [] ps os ↔ Opens ps os ∧ Named ps := by
  constructor
  · intro hruns
    exact ⟨hruns.opens (.level .nil), hruns.named⟩
  · rintro ⟨hopens, hnamed⟩
    exact hopens.runs hnamed

/-- A tag can stand where it stands, or it offends. -/
theorem moves_or_offends (os : List Placed) (p : Placed) :
    (∃ os', Moves os p os') ∨ ∃ cause, Offends os p cause := by
  by_cases hcomment : p.tag.kind = .comment
  · exact .inl ⟨os, .comment hcomment⟩
  · by_cases hname : p.tag.name = []
    · exact .inr ⟨_, .emptyName hcomment hname⟩
    · cases hkind : p.tag.kind with
      | comment => exact absurd hkind hcomment
      | print escaped => exact .inl ⟨os, .print hkind hname⟩
      | opening inverted => exact .inl ⟨p :: os, .opening hkind hname⟩
      | closing =>
        cases os with
        | nil => exact .inr ⟨_, .strayClosing hkind hname⟩
        | cons o os =>
          by_cases hsame : o.tag.name = p.tag.name
          · exact .inl ⟨os, .closing hkind hname hsame⟩
          · exact .inr ⟨_, .mismatch hkind hname hsame⟩

/-- All tags can be read one after another, or a first one offends. -/
theorem runs_or_offends (os ps : List Placed) :
    (∃ os', Runs os ps os') ∨
      ∃ before p after os' cause, ps = before ++ p :: after ∧ Runs os before os' ∧
        Offends os' p cause := by
  induction ps generalizing os with
  | nil => exact .inl ⟨os, .nil os⟩
  | cons p ps ih =>
    rcases moves_or_offends os p with ⟨os', hmoves⟩ | ⟨cause, hoffends⟩
    · rcases ih os' with ⟨os'', hruns⟩ | ⟨before, q, after, os'', cause, rfl, hruns, hoffends⟩
      · exact .inl ⟨os'', .cons hmoves hruns⟩
      · exact .inr ⟨p :: before, q, after, os'', cause, rfl, .cons hmoves hruns, hoffends⟩
    · exact .inr ⟨[], p, ps, os, cause, rfl, .nil os, hoffends⟩

end Placed

end Stencil
