import Stencil.Proofs.Results
import Stencil.Proofs.Sink.Encoder
import Stencil.Proofs.Template.Spans
import Stencil.Proofs.Value.Hint

namespace Stencil

namespace Script

variable {N : Number → Prop} {F : Fault → Prop} {a b : Script}

/-- Only some numbers are asked for, and only some faults end the script. -/
structure Within (N : Number → Prop) (F : Fault → Prop) (a : Script) : Prop where
  numbers : ∀ n, .number n ∈ a.requests → N n
  fault : ∀ f, a.fault = some f → F f

/-- A script is stopped as a run if it is stopped itself, or by a number that is too long. -/
theorem fault_run {a : Script} {f : Fault} (hfault : a.run.fault = some f) :
    f = .tooManyDigits ∨ a.fault = some f := by
  obtain ⟨rs, g⟩ := a
  induction rs with
  | nil => exact .inr hfault
  | cons r rs ih =>
    have hsplit : run ⟨r :: rs, g⟩ = r.run.andThen (run ⟨rs, g⟩) := by
      rw [run, Run.each, Run.andThen_assoc]
      rfl
    rw [hsplit] at hfault
    cases r with
    | asIs t | escaped t => exact ih hfault
    | number n =>
      rw [Request.run] at hfault
      cases htext : n.text? with
      | some t =>
        rw [htext] at hfault
        exact ih hfault
      | none =>
        rw [htext] at hfault
        cases hfault
        exact .inl rfl

/-- What does not stop a script does not stop its run, apart from a number that is too long. -/
theorem fault_run_ne {a : Script} {f : Fault} (hdigits : f ≠ .tooManyDigits)
    (hfault : a.fault ≠ some f) : a.run.fault ≠ some f :=
  fun hrun => (fault_run hrun).elim hdigits hfault

theorem within_done : done.Within N F := ⟨nofun, nofun⟩

theorem within_fail {f : Fault} (hf : F f) : (fail f).Within N F where
  numbers := nofun
  fault _ hfault := Option.some.inj hfault ▸ hf

theorem within_ask {r : Request} (hr : ∀ n, r = .number n → N n) : (ask r).Within N F where
  numbers n hn := hr n (List.mem_singleton.1 hn).symm
  fault := nofun

/-- Scripts that stay within bounds do so one after another. -/
theorem Within.andThen (ha : a.Within N F) (hb : b.Within N F) : (a.andThen b).Within N F := by
  unfold Script.andThen
  split
  · refine ⟨fun n hn => ?_, hb.fault⟩
    exact (List.mem_append.1 hn).elim (ha.numbers n) (hb.numbers n)
  · exact ha

theorem Within.each {α : Type} {once : α → Script} {xs : List α}
    (honce : ∀ x ∈ xs, (once x).Within N F) : (each once xs).Within N F := by
  induction xs with
  | nil => exact within_done
  | cons x xs ih =>
    rw [List.forall_mem_cons] at honce
    exact honce.1.andThen (ih honce.2)

/-- A plan stays within bounds if what it asks for and the fault that ends it do, and the body with
each of its values does. -/
theorem within_plan {p : Plan Value} (hasks : ∀ n, .ask (.number n) ∈ p.steps → N n)
    (hfault : ∀ f, p.fault = some f → F f) {once : Value → Script}
    (honce : ∀ v ∈ p.values, (once v).Within N F) : (p.script once).Within N F := by
  refine (Within.each fun step hstep => ?_).andThen ⟨nofun, hfault⟩
  cases step with
  | ask r => exact within_ask fun n hn => hasks n (hn ▸ hstep)
  | body v => exact honce v (List.mem_filterMap.2 ⟨.body v, hstep, rfl⟩)

end Script

/-- The faults of a custom value. -/
inductive Content.Raises {α : Type} (convert : Conversion) (c : Content α) (f : Fault) : Prop where
  | hint (hraises : c.hint = .error f)
  | shown (mode : Mode) (hraises : (c.shown convert mode).fault = some f)
  | nested (inverted : Bool) (hraises : (c.nested convert inverted).fault = some f)
  | fieldShown (escaped : Bool) (hash : Hash) (name : Text)
      (hraises : (c.fieldShown convert escaped hash name).fault = some f)
  | fieldNested (inverted : Bool) (hash : Hash) (name : Text)
      (hraises : (c.fieldNested convert inverted hash name).fault = some f)

/-- What a custom value asks for, apart from the bodies of its sections. -/
inductive Content.Asks {α : Type} (convert : Conversion) (c : Content α) (r : Request) : Prop where
  | shown (mode : Mode) (hasks : r ∈ (c.shown convert mode).requests)
  | nested (inverted : Bool) (hasks : .ask r ∈ (c.nested convert inverted).steps)
  | fieldShown (escaped : Bool) (hash : Hash) (name : Text)
      (hasks : r ∈ (c.fieldShown convert escaped hash name).requests)
  | fieldNested (inverted : Bool) (hash : Hash) (name : Text)
      (hasks : .ask r ∈ (c.fieldNested convert inverted hash name).steps)

namespace Value

/-- The values that stop a render themselves, and how: a signalling decimal does not say whether it
differs from zero, a sequence is asked for its length, a record for every visible attribute, and a
custom value may give up. -/
inductive Stops (convert : Conversion) : Value → Fault → Prop where
  | signalling (negative : Bool) (payload : Nat) :
      Stops convert (.number (.decimal (.nan negative true payload))) .undefinedTruth
  | overlong {items : List Value} (hlong : maxLength < items.length) :
      Stops convert (.sequence items) .overlong
  | unset {table : FieldTable} {attrs : List (Text × Value)} {s : FieldSpec}
      (hs : s ∈ table.specs) (hmissing : attrs.lookup s.attr = none) :
      Stops convert (.record table attrs) (.unset s.attr)
  | raised {c : Content Value} {f : Fault} (hraises : c.Raises convert f) :
      Stops convert (.custom c) f

/-- The values that ask for a number themselves. -/
inductive Formats (convert : Conversion) : Value → Number → Prop where
  | number (n : Number) : Formats convert (.number n) n
  | custom {c : Content Value} {n : Number} (hasks : c.Asks convert (.number n)) :
      Formats convert (.custom c) n

/-- The failures that something in a value is to blame for: a number in it that is refused, or
whatever stops the render itself. -/
inductive Blamed (convert : Conversion) (refused : Number → Failure → Prop) (v : Value) :
    Failure → Prop where
  | number {w : Value} {n : Number} {failure : Failure}
      (hpart : Relation.ReflTransGen Part w v) (hformats : w.Formats convert n)
      (hrefused : refused n failure) : Blamed convert refused v failure
  | stop {w : Value} {f : Fault} (hpart : Relation.ReflTransGen Part w v)
      (hstops : w.Stops convert f) : Blamed convert refused v (.fault f)

/-- The value itself asks for some numbers only, and stops with some faults only. -/
structure Within (convert : Conversion) (N : Number → Prop) (F : Fault → Prop) (v : Value) : Prop where
  numbers : ∀ n, v.Formats convert n → N n
  fault : ∀ f, v.Stops convert f → F f

variable {convert : Conversion} {N : Number → Prop} {F : Fault → Prop} {v : Value}

/-- An attribute that is not set stops a render with the fault of reading it. -/
theorem Stops.of_unset {name : Text} {f : Fault} (hstops : (Value.unset name).Stops convert f) :
    f = .unset name := by
  cases hstops with
  | raised hraises => cases hraises <;> simp_all [Content.failing, Script.fail, Plan.fail]

/-- A record that lacks a visible attribute stops with the fault of reading that. -/
theorem keptUnset_within : Everywhere.KeptUnset (Within convert N F) := by
  intro table attrs s hs hmissing hrecord
  refine ⟨fun n hformats => ?_, fun f hstops => ?_⟩
  · cases hformats with
    | custom hasks => cases hasks <;> simp_all [Content.failing, Script.fail, Plan.fail]
  · rw [hstops.of_unset]
    exact hrecord.fault _ (.unset hs hmissing)

/-- Showing a text asks for no number, and only its conversion can fail. -/
theorem scriptText_within (hconvert : ∀ t f, convert t = .error f → F f) (mode : Mode) (t : Text) :
    (scriptText convert mode t).Within N F := by
  cases mode with
  | escaped => exact Script.within_ask nofun
  | unescaped => exact Script.within_ask nofun
  | markup =>
    rw [scriptText]
    cases hhtml : convert t with
    | ok html => exact Script.within_ask nofun
    | error f => exact Script.within_fail (hconvert t f hhtml)

/-- Showing a value asks for the numbers in it, and fails with what stops it. -/
theorem scriptAs_within (hconvert : ∀ t f, convert t = .error f → F f) (mode : Mode)
    (hall : v.Everywhere (Within convert N F)) : (v.scriptAs convert mode).Within N F := by
  induction v using Value.scriptAs.induct with
  | case1 t => exact scriptText_within hconvert mode t
  | case2 b => exact Script.within_ask nofun
  | case3 n =>
    refine Script.within_ask fun m hm => ?_
    cases hm
    exact hall.self.numbers n (.number n)
  | case4 inner ih =>
    rw [scriptAs, if_pos rfl]
    exact ih (hall.part (.held inner true))
  | case5 inner present hpresent =>
    rw [scriptAs, if_neg hpresent]
    exact Script.within_done
  | case6 inner ih => exact ih (hall.part (.success inner))
  | case7 c =>
    exact ⟨fun n hn => hall.self.numbers n (.custom (.shown mode hn)),
      fun f hf => hall.self.fault f (.raised (.shown mode hf))⟩
  | case8 inner ih => exact ih (hall.part (.adapted inner))
  | case9 v htext hbool hnumber hoptional hsuccess hcustom hadapted =>
    rw [scriptAs.eq_8 convert mode v htext hbool hnumber hoptional hsuccess hcustom hadapted]
    exact Script.within_done

/-- And so does a variable tag, to whatever part of the value it leads. -/
theorem scriptTag_within (hconvert : ∀ t f, convert t = .error f → F f)
    (hall : v.Everywhere (Within convert N F)) (escaped : Bool) (name : FieldName) :
    (v.scriptTag convert escaped name).Within N F := by
  rcases v.scriptTag_cases name with hself | ⟨c, hown, hanswer⟩ | ⟨g, -, hfield, hvalue⟩ | hnone
  · rw [hself]
    exact scriptAs_within hconvert _ hall
  · rw [hanswer]
    have hcustom := (hall.own hown).self
    exact ⟨fun n hn => hcustom.numbers n (.custom (.fieldShown _ _ _ hn)),
      fun f hf => hcustom.fault f (.raised (.fieldShown _ _ _ hf))⟩
  · rw [hvalue]
    exact scriptAs_within hconvert _ (hall.field keptUnset_within hfield)
  · rw [hnone]
    exact Script.within_done

theorem stops_of_nonzero? {n : Number} (hundefined : n.nonzero? = none) :
    (number n).Stops convert .undefinedTruth := by
  cases n with
  | decimal d =>
    cases d with
    | nan negative signalling payload =>
      cases signalling with
      | true => exact .signalling negative payload
      | false => cases hundefined
    | finite | infinite => cases hundefined
  | int | float | fraction | complex => cases hundefined

/-- The question whether a value is true is refused only by what is a fault in it. -/
theorem truthy_within : ∀ {v : Value}, v.Everywhere (Within convert N F) → v.own? = none →
    ∀ {f : Fault}, v.truthy = .error f → F f
  | number n, hall, _, f, hfault => by
    rw [truthy] at hfault
    cases htruth : n.nonzero? with
    | some b =>
      rw [htruth] at hfault
      cases hfault
    | none =>
      rw [htruth] at hfault
      cases hfault
      exact hall.self.fault _ (stops_of_nonzero? htruth)
  | sequence items, hall, _, f, hfault => by
    rw [truthy, inhabited] at hfault
    split at hfault
    · cases hfault
    · rename_i hlong
      cases hfault
      exact hall.self.fault _ (.overlong (Nat.lt_of_not_le hlong))
  | adapted inner, hall, hplain, _, hfault =>
    truthy_within (hall.part (.adapted inner)) hplain hfault
  | custom c, _, hplain, _, _ => by cases hplain
  | absent, _, _, _, hfault | bool _, _, _, _, hfault | text _, _, _, _, hfault
  | mapping _, _, _, _, hfault | optional _ _, _, _, _, hfault | success _, _, _, _, hfault
  | failure _, _, _, _, hfault | exception _, _, _, _, hfault | record _ _, _, _, _, hfault
  | bare, _, _, _, hfault => by cases hfault

/-- The items of a section are unknown only for a fault of the value. -/
theorem items_within (hall : v.Everywhere (Within convert N F)) (hplain : v.own? = none)
    {inverted : Bool} {f : Fault} (hfault : v.items inverted = .error f) : F f := by
  cases inverted with
  | true => exact truthy_within hall hplain (map_eq_error_iff.1 hfault)
  | false =>
    replace hfault : v.sectionItems = .error f := hfault
    induction v using Value.sectionItems.induct with
    | case1 | case2 | case3 => cases hfault
    | case4 inner ih => exact ih (hall.part (.adapted inner)) hplain hfault
    | case5 v hsequence hoptional hsuccess hadapted =>
      rw [Value.sectionItems.eq_5 v hsequence hoptional hsuccess hadapted] at hfault
      exact truthy_within hall hplain (map_eq_error_iff.1 hfault)

/-- In its sections a value asks only for numbers that it asks for at all. -/
theorem Within.asksOnly (hwithin : v.Within convert N F) :
    v.AsksOnly convert fun r => ∀ n, r = .number n → N n := by
  cases v with
  | custom c =>
    refine ⟨fun inverted r hask n hr => ?_, fun inverted hash name r hask n hr => ?_⟩
    · exact hwithin.numbers n (.custom (.nested inverted (hr ▸ hask)))
    · exact hwithin.numbers n (.custom (.fieldNested inverted hash name (hr ▸ hask)))
  | _ => trivial

/-- A section over the value is ended by its faults only. -/
theorem plan_within (hall : v.Everywhere (Within convert N F)) {inverted : Bool} {f : Fault}
    (hfault : (v.plan convert inverted).fault = some f) : F f := by
  unfold plan at hfault
  cases hown : v.own? with
  | some c =>
    rw [hown] at hfault
    exact (hall.own hown).self.fault f (.raised (.nested inverted hfault))
  | none =>
    rw [hown] at hfault
    cases hitems : v.items inverted with
    | ok vs =>
      rw [hitems] at hfault
      cases hfault
    | error g =>
      rw [hitems] at hfault
      cases hfault
      exact items_within hall hown hitems

/-- And so is a section that a tag leads to. -/
theorem tagPlan_within (hall : v.Everywhere (Within convert N F)) {inverted : Bool}
    {name : FieldName} {f : Fault} (hfault : (v.tagPlan convert inverted name).fault = some f) :
    F f := by
  rcases v.tagPlan_cases name with hself | ⟨c, hown, hanswer⟩ | ⟨g, hfield, hvalue⟩ | hnone
  · rw [hself] at hfault
    exact plan_within hall hfault
  · rw [hanswer] at hfault
    exact (hall.own hown).self.fault f (.raised (.fieldNested inverted _ _ hfault))
  · rw [hvalue] at hfault
    exact plan_within (hall.field keptUnset_within hfield) hfault
  · rw [hnone] at hfault
    cases hfault

/-- What refuses to be counted stops a render before anything is shown. -/
theorem Uncounted.stops {f : Fault} (huncounted : v.Uncounted f) : v.Stops convert f := by
  cases huncounted with
  | custom hraises => exact .raised (.hint hraises)
  | unset hs hmissing => exact .unset hs hmissing

end Value

namespace Block

/-- Every opening block counts blocks that are there. -/
def Fits (bs : List Block) : Prop :=
  ∀ i html inverted name count, bs[i]? = some ⟨html, .opening inverted name count⟩ →
    i + count < bs.length

namespace Fits

variable {b : Block} {bs : List Block}

theorem tail (hfits : Fits (b :: bs)) : Fits bs := by
  intro i html inverted name count hblock
  have hinside := hfits (i + 1) html inverted name count hblock
  rw [List.length_cons] at hinside
  omega

theorem drop (hfits : Fits bs) (n : Nat) : Fits (bs.drop n) := by
  induction n generalizing bs with
  | zero => exact hfits
  | succ n ih =>
    cases bs with
    | nil => exact hfits
    | cons b bs => exact ih hfits.tail

theorem children_le (hfits : Fits (b :: bs)) : b.tag.children ≤ bs.length := by
  obtain ⟨html, tag⟩ := b
  cases tag with
  | opening inverted name count =>
    have hinside := hfits 0 html inverted name count rfl
    rw [List.length_cons] at hinside
    change count ≤ bs.length
    omega
  | print | closing | tail => exact Nat.zero_le _

end Fits

variable {convert : Conversion} {N : Number → Prop} {F : Fault → Prop} {bs : List Block}

theorem writeHtml_within (t : Text) : (writeHtml t).Within N F := by
  unfold writeHtml
  split
  · exact Script.within_done
  · exact Script.within_ask nofun

/-- A walk over blocks that are there does not come to the end of them, and a section goes on with
parts of a value, so what the value is made of is all there is to ask for and to stop with. -/
theorem walk_within (hconvert : ∀ t f, convert t = .error f → F f) (hfits : Fits bs)
    {skip count : Nat} (hcount : count ≤ bs.length) {v : Value}
    (hall : v.Everywhere (Value.Within convert N F)) : (walk convert bs skip count v).Within N F := by
  induction bs generalizing skip count v with
  | nil =>
    have hnone : count ≤ skip := by
      rw [List.length_nil] at hcount
      omega
    rw [walk, if_pos hnone]
    exact Script.within_done
  | cons b bs ih =>
    cases count with
    | zero =>
      rw [walk]
      exact Script.within_done
    | succ count =>
      rw [List.length_cons] at hcount
      cases skip with
      | succ skip => exact ih hfits.tail (by omega) hall
      | zero =>
        rw [walk]
        refine ((writeHtml_within _).andThen ?_).andThen (ih hfits.tail (by omega) hall)
        have hchildren := hfits.children_le
        cases htag : b.tag with
        | print escaped name => exact Value.scriptTag_within hconvert hall escaped name
        | opening inverted name children =>
          rw [htag] at hchildren
          have hasks := hall.imp fun _ hw => Value.Within.asksOnly hw
          exact Script.within_plan (fun n hn => Value.asks_of_tagPlan hasks hn n rfl)
            (fun _ => Value.tagPlan_within hall)
            fun w hw => ih hfits.tail hchildren (hall.tagPlan w hw)
        | closing => exact Script.within_done
        | tail => exact Script.within_done

end Block

namespace Encoder

variable {σ : Type} {e : Encoder σ} {s : σ} {failure : Failure}

/-- Every text is taken, as it is and with entities. -/
structure TakesTexts (e : Encoder σ) : Prop where
  asIs : e.toWriter.NeverRefuses
  escaped : ∀ t s, (e.escaped t s).2 = none

/-- A writer that refuses nothing takes every text. -/
theorem TakesTexts.ofWriter {w : Writer σ} (hnever : w.NeverRefuses) : (ofWriter w).TakesTexts where
  asIs := hnever
  escaped t s := by
    change ((Run.write (Entities.encode t)).handTo w s).2 = none
    rw [Run.handTo_of_neverRefuses hnever]
    rfl

/-- Only a number can be refused. -/
theorem TakesTexts.number_of_failure (htakes : e.TakesTexts) {r : Request}
    (hfailure : (e.carryOut r s).2 = some failure) :
    ∃ n, r = .number n ∧ (e.number n s).2 = some failure := by
  cases r with
  | asIs t =>
    rw [carryOut, Request.run, Run.handTo_of_neverRefuses htakes.asIs] at hfailure
    cases hfailure
  | escaped t =>
    rw [carryOut, htakes.escaped] at hfailure
    cases hfailure
  | number n => exact ⟨n, rfl, hfailure⟩

/-- Where one of several requests fails, it is one of them that fails. -/
theorem failure_of_carryOutAll {rs : List Request}
    (hfailure : (e.carryOutAll rs s).2 = some failure) :
    ∃ r ∈ rs, ∃ s', (e.carryOut r s').2 = some failure := by
  induction rs generalizing s with
  | nil => cases hfailure
  | cons r rs ih =>
    rw [carryOutAll] at hfailure
    rcases hr : e.carryOut r s with ⟨s', _ | g⟩
    · rw [hr] at hfailure
      obtain ⟨q, hq, hrefused⟩ := ih hfailure
      exact ⟨q, List.mem_cons_of_mem r hq, hrefused⟩
    · rw [hr] at hfailure
      exact ⟨r, List.mem_cons_self, s, by rw [hr]; exact hfailure⟩

/-- A script fails where the encoder does not do what is asked for, or with its own fault. -/
theorem failure_of_handTo {a : Script} (hfailure : (a.handTo e s).2 = some failure) :
    (∃ r ∈ a.requests, ∃ s', (e.carryOut r s').2 = some failure) ∨
      ∃ f, a.fault = some f ∧ failure = .fault f := by
  rw [Script.handTo] at hfailure
  rcases hall : e.carryOutAll a.requests s with ⟨s', _ | g⟩
  · rw [hall] at hfailure
    obtain ⟨f, hfault, hf⟩ := Option.map_eq_some_iff.1 hfailure
    exact .inr ⟨f, hfault, hf.symm⟩
  · rw [hall] at hfailure
    exact .inl (failure_of_carryOutAll (s := s) (by rw [hall]; exact hfailure))

end Encoder

/-- The encoder may fail to write the number. -/
def Encoder.Refuses {σ : Type} (e : Encoder σ) (n : Number) (failure : Failure) : Prop :=
  ∃ s, (e.number n s).2 = some failure

/-- The number has too many digits to be written as a text. -/
def Number.TooLong (n : Number) (failure : Failure) : Prop :=
  n.hasText = false ∧ failure = .fault .tooManyDigits

/-- Without a way of its own to write numbers, an encoder that takes every text fails for those only
that have too many digits. -/
theorem Encoder.tooLong_of_refuses {σ : Type} {w : Writer σ} (hnever : w.NeverRefuses) {n : Number}
    {failure : Failure} (hrefuses : (ofWriter w).Refuses n failure) : n.TooLong failure := by
  obtain ⟨s, hfailure⟩ := hrefuses
  change (((Request.number n).run).handTo w s).2 = some failure at hfailure
  rw [Run.handTo_of_neverRefuses hnever, Request.run, Number.text?] at hfailure
  cases hn : n.hasText with
  | true =>
    rw [hn] at hfailure
    cases hfailure
  | false =>
    rw [hn] at hfailure
    cases hfailure
    exact ⟨hn, rfl⟩

namespace Template

variable {hasher : Hasher} {source : Text} {t : Template}

/-- In the blocks of a source no section reaches past the end. -/
theorem fits_of_compile (hcompile : compileWith hasher source = .ok t) : Block.Fits t.blocks := by
  obtain ⟨b, hreads, hopened, rfl⟩ := compileWith_eq_ok_iff.1 hcompile
  exact fun i html inverted name count hblock =>
    ((hreads.wellFormed hopened).closed i html inverted name count hblock).2.1

/-- The whole of a render asks for no number and stops with no fault but those of what the value is
made of. -/
theorem scriptWith_within (hcompile : compileWith hasher source = .ok t) {convert : Conversion}
    {N : Number → Prop} {F : Fault → Prop} (hconvert : ∀ text f, convert text = .error f → F f)
    {v : Value} (hall : v.Everywhere (Value.Within convert N F)) :
    (t.scriptWith convert v).Within N F := by
  rw [scriptWith]
  cases hcapacity : t.capacity v with
  | ok n => exact Block.walk_within hconvert (fits_of_compile hcompile) (Nat.le_refl _) hall
  | error f =>
    obtain ⟨w, hw, huncounted⟩ := Value.exists_uncounted hcapacity
    exact Script.within_fail ((hall w hw).fault f huncounted.stops)

/-- Where Markdown is always converted and an encoder takes every text, a render fails only where
the encoder does not write a number of the value, or where something in the value stops it: a
signalling decimal or an overlong sequence in a section, a visible attribute that is not set, or a
custom value that gives up. A writer, which has no way of its own to write numbers, fails only for
those with too many digits. -/
theorem blamed_of_failure (hcompile : compileWith hasher source = .ok t) {convert : Conversion}
    (htotal : ∀ text, ∃ html, convert text = .ok html) (v : Value) :
    (∀ {σ : Type} (e : Encoder σ) (s : σ) (failure : Failure), e.TakesTexts →
      (t.renderInto convert v e s).2 = some failure → v.Blamed convert e.Refuses failure) ∧
    ∀ {σ : Type} (writer : Writer σ) (s : σ) (failure : Failure), writer.NeverRefuses →
      (t.renderBy convert v writer s).2 = some failure →
      v.Blamed convert Number.TooLong failure := by
  have hconvert : ∀ text f, convert text = .error f →
      ∃ w, Relation.ReflTransGen Value.Part w v ∧ w.Stops convert f := fun text f hfault => by
    obtain ⟨html, hhtml⟩ := htotal text
    rw [hhtml] at hfault
    cases hfault
  have hscript := scriptWith_within hcompile hconvert (v := v)
    (N := fun n => ∃ w, Relation.ReflTransGen Value.Part w v ∧ w.Formats convert n)
    fun w hw => ⟨fun n hformats => ⟨w, hw, hformats⟩, fun f hstops => ⟨w, hw, hstops⟩⟩
  have hencoder : ∀ {σ : Type} (e : Encoder σ) (s : σ) (failure : Failure), e.TakesTexts →
      (t.renderInto convert v e s).2 = some failure → v.Blamed convert e.Refuses failure := by
    intro σ e s failure htakes hfailure
    rw [renderInto_eq_handTo] at hfailure
    rcases Encoder.failure_of_handTo hfailure with ⟨r, hr, s', hrefused⟩ | ⟨f, hfault, rfl⟩
    · obtain ⟨n, rfl, hnumber⟩ := htakes.number_of_failure hrefused
      obtain ⟨w, hw, hformats⟩ := hscript.numbers n hr
      exact .number hw hformats ⟨s', hnumber⟩
    · obtain ⟨w, hw, hstops⟩ := hscript.fault f hfault
      exact .stop hw hstops
  refine ⟨hencoder, fun writer s failure hnever hfailure => ?_⟩
  rw [← renderInto_ofWriter] at hfailure
  cases hencoder _ s failure (.ofWriter hnever) hfailure with
  | number hw hformats hrefused => exact .number hw hformats (Encoder.tooLong_of_refuses hnever hrefused)
  | stop hw hstops => exact .stop hw hstops

/-- A list in which one number has too many digits. -/
theorem blamed_of_failure_digits :
    let t : Template := ⟨[⟨[], .opening false ⟨FieldName.dot, 0⟩ 2⟩,
      ⟨[], .print true ⟨FieldName.dot, 0⟩⟩, ⟨[], .closing⟩]⟩
    let v : Value := .sequence [.number (.int 7), .number (.int Number.tooGreat)]
    compileWith (.constant 0) (Text.of "\x7b\x7b#.\x7d\x7d\x7b\x7b.\x7d\x7d\x7b\x7b/.\x7d\x7d") = .ok t ∧
      (∀ text, ∃ html, (Except.ok text : Except Fault Text) = .ok html) ∧
      (Writer.ofSink Buffer).NeverRefuses ∧
      (t.renderBy .ok v (.ofSink Buffer) {}).2 = some (.fault .tooManyDigits) ∧
      v.Blamed .ok Number.TooLong (.fault .tooManyDigits) := by
  intro t v
  have hcompile : compileWith (.constant 0)
      (Text.of "\x7b\x7b#.\x7d\x7d\x7b\x7b.\x7d\x7d\x7b\x7b/.\x7d\x7d") = .ok t := by decide
  have htotal : ∀ text, ∃ html, (Except.ok text : Except Fault Text) = .ok html :=
    fun text => ⟨text, rfl⟩
  have hfailure : (t.renderBy .ok v (.ofSink Buffer) {}).2 = some (.fault .tooManyDigits) := by
    decide +kernel
  exact ⟨hcompile, htotal, Writer.neverRefuses_buffer, hfailure,
    (blamed_of_failure hcompile htotal v).2 _ _ _ Writer.neverRefuses_buffer hfailure⟩

/-- A section over a signalling decimal fails, though nothing that it is written to does. -/
theorem failure_of_signalling :
    (Writer.ofSink Buffer).NeverRefuses ∧
      ∃ t, compile (Text.of "\x7b\x7b#x\x7d\x7d\x7b\x7b/x\x7d\x7d") = .ok t ∧
        (t.renderBy .ok (.mapping [(.name (Text.of "x"), .number (.decimal (.nan false true 0)))])
          (.ofSink Buffer) {}).2 = some (.fault .undefinedTruth) := by
  refine ⟨Writer.neverRefuses_buffer,
    ⟨[⟨[], .opening false ⟨Text.of "x", 5717441744405258058⟩ 1⟩, ⟨[], .closing⟩]⟩, ?_, ?_⟩
  · decide +kernel
  · decide +kernel

end Template

end Stencil
