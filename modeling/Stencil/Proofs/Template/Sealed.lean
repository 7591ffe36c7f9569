import Stencil.Proofs.Template.RoundTrip

namespace Stencil

namespace Token

/-- The token behind as many more code points. -/
def shift (count : Nat) : Token → Token
  | char c => char c
  | tag t offset => tag t (offset + count)
  | unclosed offset => unclosed (offset + count)

/-- A scan that starts at another offset gives the same tokens there. -/
theorem scanFrom_add (skip offset count : Nat) (s : Text) :
    scanFrom skip (offset + count) s = (scanFrom skip offset s).map (shift count) := by
  induction s generalizing skip offset with
  | nil => cases skip <;> rfl
  | cons c r ih =>
    cases skip with
    | succ skip => rw [scanFrom, scanFrom, Nat.add_right_comm, ih]
    | zero =>
      rw [scanFrom, scanFrom]
      cases Tag.read (c :: r) with
      | none => simp only [List.map_cons, shift, Nat.add_right_comm offset count 1, ih]
      | unclosed => rfl
      | tag t width => simp only [List.map_cons, shift, Nat.add_right_comm offset count 1, ih]

/-- A token that stays as it is whatever follows. A variable whose name begins with an opening brace
does not: three closing braces behind it make it a tag of three. -/
def Kept : Token → Prop
  | char _ => True
  | tag t _ => t.kind = .print true → t.name.head? ≠ some Tag.openBrace
  | unclosed _ => False

instance : DecidablePred Kept
  | char _ => isTrue trivial
  | tag t _ => inferInstanceAs
      (Decidable (t.kind = .print true → t.name.head? ≠ some Tag.openBrace))
  | unclosed _ => isFalse id

/-- A text that is read alike whatever follows. -/
structure Sealed (s : Text) : Prop where
  ending : s.getLast? ≠ some Tag.openBrace
  kept : ∀ t ∈ scan s, t.Kept

end Token

/-- What is kept of a tag does not depend on how the text behind it goes on. -/
theorem Tag.Written.append {t : Tag} {piece rest : Text} (hwritten : Written t piece rest)
    {offset : Nat} (hkept : (Token.tag t offset).Kept) (v : Text) : Written t piece (rest ++ v) := by
  cases hwritten with
  | triple hend => exact .triple hend
  | signed hsign hend => exact .signed hsign hend
  | @plain inner _ hunsigned hnotTriple hend =>
    refine .plain hunsigned (fun r hr => ?_) hend
    cases inner with
    | nil => simp [doubleClose, show closeBrace ≠ openBrace by decide] at hr
    | cons c inner =>
      -- The name would begin with the brace that begins what stands between the braces.
      obtain rfl : c = openBrace := (List.cons.inj hr).1
      exact absurd (Text.head?_trim_cons (by decide) inner) (hkept rfl)

namespace Token

theorem getLast?_ne_of_append {s r : Text} {c : CodePoint} (hlast : (s ++ r).getLast? ≠ some c) :
    r.getLast? ≠ some c := by
  intro hr
  rw [List.getLast?_append, hr] at hlast
  exact hlast rfl

/-- The tokens of a text that nothing behind it changes are followed by those of what is there. -/
theorem Scans.append {offset : Nat} {s v : Text} {ts us : List Token} (hscans : Scans offset s ts)
    (hending : s.getLast? ≠ some Tag.openBrace) (hkept : ∀ t ∈ ts, t.Kept)
    (hv : Scans (offset + s.length) v us) : Scans offset (s ++ v) (ts ++ us) := by
  induction hscans with
  | nil => simpa using hv
  | @char offset c r ts hopen hrest ih =>
    have hlength : offset + (c :: r).length = offset + 1 + r.length := by
      rw [List.length_cons]
      omega
    rw [hlength] at hv
    rw [List.cons_append, List.cons_append]
    refine .char ?_ (ih (getLast?_ne_of_append (s := [c]) hending)
      (fun t ht => hkept t (List.mem_cons_of_mem _ ht)) hv)
    rw [doubleOpen_prefix_cons_iff] at hopen ⊢
    cases r with
    | nil =>
      rintro ⟨rfl, -⟩
      exact hending rfl
    | cons d r => exact hopen
  | @tag offset t piece rest ts hwritten hrest ih =>
    obtain ⟨hhere, hbehind⟩ := List.forall_mem_cons.1 hkept
    rw [List.length_append, ← Nat.add_assoc] at hv
    rw [List.append_assoc]
    exact .tag (hwritten.append hhere v) (ih (getLast?_ne_of_append hending) hbehind hv)
  | unclosed hclose => exact (hkept _ (List.mem_singleton.2 rfl)).elim

/-- A text that nothing behind it changes, at any offset. -/
theorem Sealed.scans_append {s v : Text} (hsealed : Sealed s) {offset : Nat} {us : List Token}
    (hv : Scans (offset + s.length) v us) :
    Scans offset (s ++ v) ((scan s).map (shift offset) ++ us) := by
  have hscans : Scans offset s ((scan s).map (shift offset)) := by
    rw [scan, ← scanFrom_add, Nat.zero_add]
    exact scans_scanFrom offset s
  refine hscans.append hsealed.ending (fun t ht => ?_) hv
  obtain ⟨u, hu, rfl⟩ := List.mem_map.1 ht
  have hkept := hsealed.kept u hu
  cases u with
  | char c => trivial
  | tag t offset => exact hkept
  | unclosed offset => exact hkept.elim

/-- A sealed text is read alike whatever follows: its tokens come first, and those of what follows
are moved behind it. -/
theorem Sealed.scan_append {s : Text} (hsealed : Sealed s) (v : Text) :
    scan (s ++ v) = scan s ++ (scan v).map (shift s.length) := by
  have hv : Scans (0 + s.length) v ((scan v).map (shift s.length)) := by
    rw [scan, ← scanFrom_add]
    exact scans_scanFrom _ v
  have hstay : (scan s).map (shift 0) = scan s := by
    rw [scan, ← scanFrom_add]
  rw [scan, scanFrom_eq_iff.2 (hsealed.scans_append hv), hstay]

end Token

end Stencil
