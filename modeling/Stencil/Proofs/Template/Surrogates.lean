import Stencil.Proofs.Template.Grammar

namespace Stencil

namespace Placed

/-- The name of the tag is hashed, and it holds a surrogate. -/
def Unhashable (p : Placed) : Prop := p.Hashed ∧ p.tag.name.hasSurrogate = true

/-- The tags are read up to the first one whose name cannot be hashed. -/
inductive Stalls : List Placed → (name : Text) → Prop where
  | surrogate {before after os : List Placed} {p : Placed} (hnamed : Named before)
      (hopens : Opens before os) (hbefore : ∀ q ∈ before, ¬ q.Unhashable) (hhere : p.Unhashable) :
      Stalls (before ++ p :: after) p.tag.name

theorem isSome_of_not_unhashable {p : Placed} (hp : ¬ p.Unhashable) (hhashed : p.Hashed) :
    (Hasher.standard p.tag.name).isSome = true := by
  rw [Hasher.standard_isSome_iff]
  exact Bool.eq_false_iff.2 fun hsurrogate => hp ⟨hhashed, hsurrogate⟩

/-- Of some tags whose names cannot be hashed one is the first. -/
theorem exists_first_unhashable {ps : List Placed} (hps : ∃ p ∈ ps, p.Unhashable) :
    ∃ before p after, ps = before ++ p :: after ∧ p.Unhashable ∧ ∀ q ∈ before, ¬ q.Unhashable := by
  induction ps with
  | nil => simp at hps
  | cons p ps ih =>
    by_cases hp : p.Unhashable
    · exact ⟨[], p, ps, rfl, hp, by simp⟩
    · obtain ⟨q, hq, hunhashable⟩ := hps
      have hbehind : q ∈ ps := List.mem_of_ne_of_mem (by rintro rfl; exact hp hunhashable) hq
      obtain ⟨before, r, after, rfl, hr, hbefore⟩ := ih ⟨q, hbehind, hunhashable⟩
      exact ⟨p :: before, r, after, rfl, hr, List.forall_mem_cons.2 ⟨hp, hbefore⟩⟩

/-- Where no tag stalls the reading, every tag that is reached has a name that can be hashed. -/
theorem not_unhashable_of_not_stalls {before after os : List Placed}
    (hstalls : ∀ name, ¬ Stalls (before ++ after) name) (hruns : Runs [] before os) :
    ∀ p ∈ before, ¬ p.Unhashable := by
  intro p hp hunhashable
  obtain ⟨front, q, back, rfl, hq, hfront⟩ := exists_first_unhashable ⟨p, hp, hunhashable⟩
  obtain ⟨os', hreached, -⟩ := hruns.of_append
  obtain ⟨hopens, hnamed⟩ := runs_iff_opens.1 hreached
  refine hstalls q.tag.name ?_
  rw [List.append_assoc, List.cons_append]
  exact .surrogate hnamed hopens hfront hq

end Placed

namespace Builder

/-- A variable or a section is refused if its name has no hash. -/
theorem take_of_unhashable {hasher : Hasher} {p : Placed} (hhashed : p.Hashed)
    (hname : p.tag.name ≠ []) (hnone : hasher p.tag.name = none) (b : Builder) :
    b.take hasher (.tag p.tag p.offset) = .error (.unhashable p.tag.name) := by
  rcases hhashed with ⟨escaped, hkind⟩ | ⟨inverted, hkind⟩
  · simp [take, takeTag, hkind, hname, CompileError.hashed, hnone, Except.map]
  · simp [take, takeTag, hkind, hname, CompileError.hashed, hnone, Except.map]

end Builder

namespace Template

open Placed

section

variable {source tail name : Text} {ps : List Placed} {start : Nat}

/-- The reading is given up at the first name without a hash that it reaches. -/
theorem compile_of_stalls (hsplits : Splits 0 source ps start tail) (hstalls : Stalls ps name) :
    compile source = .error (.unhashable name) := by
  cases hstalls with
  | @surrogate _ _ _ p hnamed hopens hbefore hhere =>
    obtain ⟨hhashed, hsurrogate⟩ := hhere
    have hname : p.tag.name ≠ [] := by
      intro hempty
      simp [hempty, Text.hasSurrogate] at hsurrogate
    have hnone : Hasher.standard p.tag.name = none := by
      rw [← Option.not_isSome_iff_eq_none, Hasher.standard_isSome_iff, hsurrogate]
      exact Bool.noConfusion
    exact compileWith_of_refused hsplits (hopens.runs hnamed)
      (fun q hq => isSome_of_not_unhashable (hbefore q hq))
      fun b _ => Builder.take_of_unhashable hhashed hname hnone b

/-- Unless the reading stalls, every name that it gets to has a hash. -/
theorem isSome_of_not_stalls (hstalls : ∀ name, ¬ Stalls ps name) :
    ∀ before after os, ps = before ++ after → Runs [] before os →
      ∀ p ∈ before, p.Hashed → (Hasher.standard p.tag.name).isSome = true := by
  rintro before after os rfl hruns p hp
  exact isSome_of_not_unhashable (not_unhashable_of_not_stalls hstalls hruns p hp)

/-- A source that the grammar accepts compiles, if no tag stalls the reading. -/
theorem compile_of_accepts (hsplits : Splits 0 source ps start tail)
    (hstalls : ∀ name, ¬ Stalls ps name) (haccepts : Accepts ps tail) :
    ∃ t, compile source = .ok t := by
  have hruns := runs_iff_opens.2 ⟨opens_nil_iff.2 haccepts.nested, haccepts.named⟩
  have hhash := isSome_of_not_stalls hstalls ps [] [] (List.append_nil ps).symm hruns
  exact compileWith_of_accepts hsplits hhash haccepts

/-- A source that the grammar refuses is malformed, if no tag stalls the reading before the
offence. -/
theorem compile_of_refuses {e : TemplateError} (hsplits : Splits 0 source ps start tail)
    (hstalls : ∀ name, ¬ Stalls ps name) (hrefuses : Refuses ps start tail e) :
    compile source = .error (.malformed e) :=
  compileWith_of_refuses hsplits (isSome_of_not_stalls hstalls) hrefuses

/-- A source that does not stall is accepted or refused by the grammar alone. -/
theorem compile_cases (hsplits : Splits 0 source ps start tail) :
    (∃ name, compile source = .error (.unhashable name) ∧ Stalls ps name) ∨
      ((∀ name, ¬ Stalls ps name) ∧
        ((∃ t, compile source = .ok t ∧ Accepts ps tail) ∨
          ∃ e, compile source = .error (.malformed e) ∧ Refuses ps start tail e)) := by
  by_cases hstalls : ∃ name, Stalls ps name
  · obtain ⟨name, hname⟩ := hstalls
    exact .inl ⟨name, compile_of_stalls hsplits hname, hname⟩
  · rw [not_exists] at hstalls
    refine .inr ⟨hstalls, ?_⟩
    rcases accepts_or_refuses ps start tail with haccepts | ⟨e, hrefuses⟩
    · obtain ⟨t, hok⟩ := compile_of_accepts hsplits hstalls haccepts
      exact .inl ⟨t, hok, haccepts⟩
    · exact .inr ⟨e, compile_of_refuses hsplits hstalls hrefuses, hrefuses⟩

end

/-- Every source compiles, or is refused as malformed at the offset of two opening braces, or is
given up at the first variable or section whose name holds a surrogate, if its tags can be read so
far. -/
theorem compile_result_iff (source : Text) :
    (∃ ps start tail, Splits 0 source ps start tail) ∧
      ∀ ps start tail, Splits 0 source ps start tail →
        ((∃ t, compile source = .ok t) ↔ Accepts ps tail ∧ ∀ name, ¬ Stalls ps name) ∧
          (∀ e, compile source = .error (.malformed e) ↔
            Refuses ps start tail e ∧ ∀ name, ¬ Stalls ps name) ∧
          (∀ name, compile source = .error (.unhashable name) ↔ Stalls ps name) ∧
          ∀ e, compile source = .error (.malformed e) →
            e.offset + 2 ≤ source.length ∧ (source.drop e.offset).take 2 = Tag.doubleOpen := by
  refine ⟨exists_splits 0 source, fun ps start tail hsplits => ?_⟩
  have hmalformed : ∀ e, compile source = .error (.malformed e) ↔
      Refuses ps start tail e ∧ ∀ name, ¬ Stalls ps name := by
    refine fun e => ⟨fun herror => ?_, fun ⟨hrefuses, hstalls⟩ =>
      compile_of_refuses hsplits hstalls hrefuses⟩
    rcases compile_cases hsplits with
        ⟨name, hcompile, -⟩ | ⟨hstalls, ⟨t, hcompile, -⟩ | ⟨e', hcompile, hrefuses⟩⟩ <;>
      rw [hcompile] at herror <;> cases herror
    exact ⟨hrefuses, hstalls⟩
  refine ⟨⟨?_, ?_⟩, hmalformed, fun name => ⟨fun herror => ?_, compile_of_stalls hsplits⟩,
    fun e herror => hsplits.braces_of_refuses ((hmalformed e).1 herror).1⟩
  · rintro ⟨t, hok⟩
    rcases compile_cases hsplits with
        ⟨name, hcompile, -⟩ | ⟨hstalls, ⟨t', hcompile, haccepts⟩ | ⟨e, hcompile, -⟩⟩ <;>
      rw [hcompile] at hok <;> cases hok
    exact ⟨haccepts, hstalls⟩
  · rintro ⟨haccepts, hstalls⟩
    exact compile_of_accepts hsplits hstalls haccepts
  · rcases compile_cases hsplits with
        ⟨name', hcompile, hstalls⟩ | ⟨-, ⟨t, hcompile, -⟩ | ⟨e, hcompile, -⟩⟩ <;>
      rw [hcompile] at herror <;> cases herror
    exact hstalls

/-- Surrogates in text and in a comment, and in the name of a variable in a section that is not
closed. -/
theorem compile_result_iff_lone :
    let lone : CodePoint := ⟨0xD800, by decide⟩
    let source := [lone] ++ (Tag.signed '!' [lone] ++ (Tag.signed '#' (Text.of "x") ++
      (Tag.doubleOpen ++ (Text.of "y" ++ [lone] ++ Tag.doubleClose))))
    let ps : List Placed := [⟨⟨.comment, [lone]⟩, 1⟩, ⟨⟨.opening false, Text.of "x"⟩, 7⟩,
      ⟨⟨.print true, Text.of "y" ++ [lone]⟩, 13⟩]
    Splits 0 source ps 19 [] ∧ Stalls ps (Text.of "y" ++ [lone]) ∧
      compile source = .error (.unhashable (Text.of "y" ++ [lone])) := by
  intro lone source ps
  have hplain : Tag.Written ⟨.print true, Text.of "y" ++ [lone]⟩
      (Tag.doubleOpen ++ (Text.of "y" ++ [lone] ++ Tag.doubleClose)) [] :=
    @Tag.Written.plain (Text.of "y" ++ [lone]) [] (by decide) (by rintro r ⟨⟩)
      (Tag.firstAfter_of_not_mem (by decide))
  have hsplits : Splits 0 source ps 19 [] :=
    .tag ((untagged_nil _).cons (by decide))
      (Tag.written_signed (by decide) (by decide) (by decide) _)
      (.tag (untagged_nil _) (Tag.written_signed (by decide) (by decide) (by decide) _)
        (.tag (untagged_nil _) hplain (.tail (untagged_nil _))))
  have hstalls : Stalls ps (Text.of "y" ++ [lone]) := by
    refine @Stalls.surrogate (ps.take 2) [] _ ⟨⟨.print true, Text.of "y" ++ [lone]⟩, 13⟩ ?_
      (.opened (.level (.leaf (.inl rfl) .nil)) ⟨false, rfl⟩ .nil) ?_ ⟨.inl ⟨true, rfl⟩, by decide⟩
    · exact List.forall_mem_cons.2 ⟨fun _ => by decide,
        List.forall_mem_singleton.2 fun _ => by decide⟩
    · refine List.forall_mem_cons.2 ⟨?_, List.forall_mem_singleton.2 ?_⟩
      · rintro ⟨⟨_, hkind⟩ | ⟨_, hkind⟩, -⟩ <;> cases hkind
      · rintro ⟨-, hsurrogate⟩
        exact Bool.noConfusion hsurrogate
  exact ⟨hsplits, hstalls, (((compile_result_iff source).2 ps 19 [] hsplits).2.2.1 _).2 hstalls⟩

/-- The name of a tag may hold a surrogate, and has no hash then. -/
theorem compile_of_lone_name :
    compile [Tag.openBrace, Tag.openBrace, ⟨0xD800, by decide⟩, Tag.closeBrace, Tag.closeBrace] =
      .error (.unhashable [⟨0xD800, by decide⟩]) := by
  decide +kernel

end Template

end Stencil
