import Stencil.Proofs.Config.References

namespace Stencil

namespace Data

mutual

/-- The texts of data in depth-first order; keys do not count. -/
def texts : Data → List Text
  | .scalar (.text t) => [t]
  | .scalar _ => []
  | .list items => itemTexts items
  | .mapping entries => entryTexts entries

def itemTexts : List Data → List Text
  | [] => []
  | d :: ds => d.texts ++ itemTexts ds

def entryTexts : List (Scalar × Data) → List Text
  | [] => []
  | (_, d) :: es => d.texts ++ entryTexts es

end

mutual

/-- Data with another text in the place of each; all else is kept. -/
def mapTexts (f : Text → Text) : Data → Data
  | .scalar (.text t) => .text (f t)
  | .scalar s => .scalar s
  | .list items => .list (mapItems f items)
  | .mapping entries => .mapping (mapEntries f entries)

def mapItems (f : Text → Text) : List Data → List Data
  | [] => []
  | d :: ds => d.mapTexts f :: mapItems f ds

def mapEntries (f : Text → Text) : List (Scalar × Data) → List (Scalar × Data)
  | [] => []
  | (k, d) :: es => (k, d.mapTexts f) :: mapEntries f es

end

theorem entryTexts_eq_flatMap (es : List (Scalar × Data)) :
    entryTexts es = es.flatMap fun e => e.2.texts := by
  induction es with
  | nil => rfl
  | cons e es ih => rw [entryTexts, ih, List.flatMap_cons]

theorem mapEntries_eq_map (f : Text → Text) (es : List (Scalar × Data)) :
    mapEntries f es = es.map fun e => (e.1, e.2.mapTexts f) := by
  induction es with
  | nil => rfl
  | cons e es ih => rw [mapEntries, ih, List.map_cons]

mutual

/-- Data comes out alike if each text in it does. -/
theorem mapTexts_congr {f g : Text → Text} (d : Data) (hfg : ∀ t ∈ d.texts, f t = g t) :
    d.mapTexts f = d.mapTexts g := by
  cases d with
  | scalar s =>
    cases s with
    | text t => rw [mapTexts, mapTexts, hfg t (by simp [texts])]
    | _ => rfl
  | list items => rw [mapTexts, mapTexts, mapItems_congr items hfg]
  | mapping entries => rw [mapTexts, mapTexts, mapEntries_congr entries hfg]

theorem mapItems_congr {f g : Text → Text} (ds : List Data) (hfg : ∀ t ∈ itemTexts ds, f t = g t) :
    mapItems f ds = mapItems g ds := by
  cases ds with
  | nil => rfl
  | cons d ds =>
    rw [itemTexts, List.forall_mem_append] at hfg
    rw [mapItems, mapItems, mapTexts_congr d hfg.1, mapItems_congr ds hfg.2]

theorem mapEntries_congr {f g : Text → Text} (es : List (Scalar × Data))
    (hfg : ∀ t ∈ entryTexts es, f t = g t) : mapEntries f es = mapEntries g es := by
  cases es with
  | nil => rfl
  | cons e es =>
    rw [entryTexts, List.forall_mem_append] at hfg
    rw [mapEntries, mapEntries, mapTexts_congr e.2 hfg.1, mapEntries_congr es hfg.2]

end

open Reference

theorem expand_text (env : Environment) (t : Text) :
    (text t).expand env = verdict (Reference.unset env t) (text (Reference.filled env t)) := by
  rw [text, expand, Reference.expand_eq, map_verdict]

mutual

/-- Data comes out with all its references replaced, or its first one without a value is named. -/
theorem expand_eq (env : Environment) (d : Data) :
    d.expand env = verdict (d.texts.flatMap (unset env)) (d.mapTexts (filled env)) := by
  cases d with
  | scalar s =>
    cases s with
    | text t =>
      rw [texts, mapTexts, List.flatMap_singleton]
      exact expand_text env t
    | _ => rfl
  | list items => rw [expand, expandItems_eq, map_verdict, texts, mapTexts]
  | mapping entries => rw [expand, expandEntries_eq, map_verdict, texts, mapTexts]

/-- The items of a list are expanded one after another, and the first unset variable in them
decides. -/
theorem expandItems_eq (env : Environment) (ds : List Data) :
    expandItems env ds =
      verdict ((itemTexts ds).flatMap (unset env)) (mapItems (filled env) ds) := by
  cases ds with
  | nil => rfl
  | cons d ds =>
    rw [expandItems, expand_eq, expandItems_eq, itemTexts, List.flatMap_append]
    exact bind_verdict List.cons _ _ _ _

/-- And so are the values of a mapping, in the order of their keys. -/
theorem expandEntries_eq (env : Environment) (es : List (Scalar × Data)) :
    expandEntries env es =
      verdict ((entryTexts es).flatMap (unset env)) (mapEntries (filled env) es) := by
  cases es with
  | nil => rfl
  | cons e es =>
    rw [expandEntries, expand_eq, expandEntries_eq, entryTexts, List.flatMap_append]
    exact bind_verdict (fun d es => (e.1, d) :: es) _ _ _ _

end

/-- How the replacement of the references of a text ends that is cut into these pieces. -/
structure Replaces (env : Environment) (lead : Text) (ps : List Piece)
    (result : Except ConfigError Data) : Prop where
  fails_iff : (∃ e, result = .error e) ↔ ∃ p ∈ ps, p.Unset env
  leftmost : ∀ front p back, ps = front ++ p :: back → (∀ q ∈ front, ¬ q.Unset env) →
    p.Unset env → result = .error (.unset p.name)
  replaced : (∀ p ∈ ps, ¬ p.Unset env) →
    result = .ok (.text (lead ++ ps.flatMap (Piece.filled env)))

/-- A text comes out as its cut says: the references are replaced where they stand, and nothing is
read again. -/
theorem replaces_of_cut {s lead : Text} {ps : List Piece} (hcut : Cut s lead ps)
    (env : Environment) : Replaces env lead ps ((text s).expand env) := by
  have hnone {qs : List Piece} (hqs : ∀ q ∈ qs, ¬ q.Unset env) :
      qs.filter (Piece.Unset env) = [] :=
    List.filter_eq_nil_iff.2 fun q hq => by simpa using hqs q hq
  rw [expand_text, hcut.unset_eq, hcut.filled_eq]
  constructor
  · simp [verdict_eq_error_iff]
  · rintro front p back rfl hfront hp
    rw [List.filter_append, hnone hfront, List.nil_append, List.filter_cons, decide_eq_true hp]
    rfl
  · intro hps
    rw [hnone hps]
    rfl

/-- How data comes out, in terms of its texts. -/
structure Expands (env : Environment) (d : Data) (result : Except ConfigError Data) : Prop where
  fails_iff : (∃ e, result = .error e) ↔ ∃ t ∈ d.texts, ∃ e, (text t).expand env = .error e
  first : ∀ front t back e, d.texts = front ++ t :: back →
    (∀ u ∈ front, ∃ v, (text u).expand env = .ok v) → (text t).expand env = .error e →
      result = .error e
  replaced : ∀ f : Text → Text, (∀ t ∈ d.texts, (text t).expand env = .ok (text (f t))) →
    result = .ok (d.mapTexts f)

/-- A text is expanded if no variable in it is unset, to the text with its references filled in. -/
theorem expand_text_eq_ok_iff {env : Environment} {t : Text} {d : Data} :
    (text t).expand env = .ok d ↔ unset env t = [] ∧ text (filled env t) = d := by
  rw [expand_text]
  cases unset env t <;> simp

/-- Data is expanded in every text of it, and in nothing else; or the first unset variable is named,
in depth-first order. -/
theorem expands_expand (env : Environment) (d : Data) : Expands env d (d.expand env) := by
  rw [expand_eq]
  constructor
  · simp [verdict_eq_error_iff, expand_text]
  · intro front t back e hsplit hfront ht
    have hnone : front.flatMap (unset env) = [] := by
      refine List.flatMap_eq_nil_iff.2 fun u hu => ?_
      obtain ⟨v, hv⟩ := hfront u hu
      exact (expand_text_eq_ok_iff.1 hv).1
    rw [expand_text] at ht
    rw [hsplit, List.flatMap_append, hnone, List.nil_append, List.flatMap_cons]
    cases hunset : unset env t with
    | nil =>
      rw [hunset] at ht
      cases ht
    | cons n ns =>
      rw [hunset] at ht
      exact ht
  · intro f hf
    have hresolved (t : Text) (ht : t ∈ d.texts) := expand_text_eq_ok_iff.1 (hf t ht)
    have hnone : d.texts.flatMap (unset env) = [] :=
      List.flatMap_eq_nil_iff.2 fun t ht => (hresolved t ht).1
    rw [hnone, verdict_nil, mapTexts_congr d fun t ht => ?_]
    simpa [text] using (hresolved t ht).2

/-- The variables that data refers to. -/
def names (d : Data) : List Text := d.texts.flatMap Reference.names

/-- Only the variables that are named matter. -/
theorem expand_congr {env env' : Environment} {d : Data}
    (hagree : ∀ n ∈ d.names, env.lookup n = env'.lookup n) : d.expand env = d.expand env' := by
  have htexts (t : Text) (ht : t ∈ d.texts) :=
    replacement_congr fun n hn => hagree n (List.mem_flatMap.2 ⟨t, ht, hn⟩)
  rw [expand_eq, expand_eq, List.flatMap_congr fun t ht => (htexts t ht).1,
    mapTexts_congr d fun t ht => (htexts t ht).2]

/-- Every text is cut into literal text and references, and comes out with the value of each in its
place, or not at all because of the leftmost one without a value. In data this happens to every text
and to nothing else. -/
theorem expand_single_pass :
    (∀ s, ∃ lead ps, Cut s lead ps) ∧
      (∀ s lead ps, Cut s lead ps →
        s = lead ++ ps.flatMap Piece.source ∧ Reference.names s = ps.map Piece.name ∧
          ∀ env, Replaces env lead ps ((text s).expand env)) ∧
      ∀ d env, Expands env d (d.expand env) ∧
        ∀ env', (∀ n ∈ d.names, env.lookup n = env'.lookup n) → d.expand env = d.expand env' :=
  ⟨exists_cut, fun _ _ _ hcut => ⟨hcut.source_eq, hcut.names_eq, replaces_of_cut hcut⟩,
    fun d env => ⟨expands_expand env d, fun _ => expand_congr⟩⟩

/-- What a fallback and a value make together looks like references, and stays. -/
theorem expand_single_pass_unread :
    let env : Environment := [(Text.of "C", Text.of "$\x7bA\x7d")]
    let nested : Reference.Piece := ⟨Text.of "A", some (Text.of "$\x7bB"), Text.of "\x7d"⟩
    let last : Reference.Piece := ⟨Text.of "C", none, []⟩
    let s := Text.of "x$\x7bA:-$\x7bB\x7d\x7d$\x7bC\x7d"
    let bare : Text := Text.of "$\x7bD\x7d"
    Cut s (Text.of "x") [nested, last] ∧
      (text s).expand env = .ok (text (Text.of "x$\x7bB\x7d$\x7bA\x7d")) ∧
      (mapping [(.text bare, .list [.scalar (.int 1), text s]), (.int 0, text bare),
        (.null, text bare)]).expand env = .error (.unset (Text.of "D")) := by
  intro env nested last s bare
  have hplain (c : CodePoint) (rest : Text) (hat : at? (c :: rest) = none) : Plain [c] rest :=
    plain_cons_iff.2 ⟨at?_eq_none_iff.1 hat, plain_nil rest⟩
  have hcut : Cut s (Text.of "x") [nested, last] :=
    @Cut.reference (Text.of "x") (Text.of "\x7d" ++ (last.reference.source ++ [])) nested [last]
      (hplain _ _ (by decide)) (isReference_of_at? (t := nested.reference.source) (by decide))
      (@Cut.reference (Text.of "\x7d") [] last [] (hplain _ _ (by decide))
        (isReference_of_at? (t := last.reference.source) (by decide)) (.literal (plain_nil [])))
  have hfilled := ((expand_single_pass.2.1 s _ _ hcut).2.2 env).replaced (by decide)
  refine ⟨hcut, hfilled, ?_⟩
  exact (expand_single_pass.2.2 _ env).1.first [s] bare [bare] (.unset (Text.of "D")) rfl
    (fun u hu => ⟨_, List.mem_singleton.1 hu ▸ hfilled⟩) rfl

end Data

end Stencil
