import Stencil.Proofs.Template.Step
import Stencil.Template.Node

namespace Stencil

namespace Node

/-- Whether a node is literal text. -/
def isLiteral : Node → Bool
  | .literal _ => true
  | _ => false

end Node

namespace Block

/-- The blocks of nodes are laid out from left to right: text that is left over comes before the
first of the next blocks. -/
theorem ofNodes_append (pending : Text) (ms ns : List Node) :
    ofNodes pending (ms ++ ns) =
      ((ofNodes pending ms).1 ++ (ofNodes (ofNodes pending ms).2 ns).1,
        (ofNodes (ofNodes pending ms).2 ns).2) := by
  induction ms generalizing pending with
  | nil => simp [ofNodes]
  | cons m ms ih => simp [ofNodes, ih, List.append_assoc]

theorem ofNodes_append_literal (pending : Text) (ns : List Node) (t : Text) :
    ofNodes pending (ns ++ [.literal t]) = ((ofNodes pending ns).1, (ofNodes pending ns).2 ++ t) := by
  simp [ofNodes_append, ofNodes, ofNode]

theorem ofNodes_append_print (pending : Text) (ns : List Node) (escaped : Bool) (name : FieldName) :
    ofNodes pending (ns ++ [.print escaped name]) =
      ((ofNodes pending ns).1 ++ [⟨(ofNodes pending ns).2, .print escaped name⟩], []) := by
  simp [ofNodes_append, ofNodes, ofNode]

/-- A section is laid out as its opening block, which counts the blocks of the body and the closing
one, then these. -/
theorem ofNodes_append_nested (pending : Text) (ns body : List Node) (inverted : Bool)
    (name : FieldName) :
    ofNodes pending (ns ++ [.nested inverted name body]) =
      ((ofNodes pending ns).1 ++
        (⟨(ofNodes pending ns).2, .opening inverted name ((ofNodes [] body).1.length + 1)⟩ ::
          (ofNodes [] body).1 ++ [⟨(ofNodes [] body).2, .closing⟩]), []) := by
  simp [ofNodes_append, ofNodes, ofNode]

theorem ofTree_eq (nodes : List Node) :
    ofTree nodes =
      if (ofNodes [] nodes).2 = [] then (ofNodes [] nodes).1
      else (ofNodes [] nodes).1 ++ [⟨(ofNodes [] nodes).2, .tail⟩] := rfl

end Block

namespace Node.Progress

/-- The blocks of the open sections, none of which has been told how many blocks belong to it. -/
def outline : List Frame → List Block
  | [] => []
  | f :: fs =>
    let level := Block.ofNodes [] f.before.reverse
    outline fs ++ level.1 ++ [⟨level.2, .opening f.inverted f.name 0⟩]

/-- The open sections, each with the index of its block. -/
def openings : List Frame → List Builder.Open
  | [] => []
  | f :: fs =>
    ⟨(outline fs ++ (Block.ofNodes [] f.before.reverse).1).length, f.name.text, f.offset⟩ ::
      openings fs

/-- Between two tokens no literal text stands behind the last node: it is still pending. -/
def Settled (p : Progress) : Prop := (Block.ofNodes [] p.nodes.reverse).2 = []

/-- Text that is still pending is the text left over when a half-read tree is laid out. -/
theorem ofNodes_flush {p : Progress} (hsettled : p.Settled) :
    Block.ofNodes [] p.flush.reverse = ((Block.ofNodes [] p.nodes.reverse).1, p.pending.reverse) := by
  by_cases hempty : p.pending = []
  · rw [flush, if_pos hempty, hempty, List.reverse_nil]
    exact Prod.ext rfl hsettled
  · rw [flush, if_neg hempty, List.reverse_cons, Block.ofNodes_append_literal, hsettled,
      List.nil_append]

end Node.Progress

namespace Builder

/-- The builder that has read what a half-read tree has read. -/
def ofProgress (p : Node.Progress) : Builder where
  blocks := (Node.Progress.outline p.frames ++ (Block.ofNodes [] p.nodes.reverse).1).toArray
  opened := Node.Progress.openings p.frames
  pending := p.pending

open Node.Progress

/-- The block of a variable is pushed where its node is put into the half-read tree. -/
theorem print_ofProgress {p : Node.Progress} (hsettled : p.Settled) (escaped : Bool)
    (name : FieldName) :
    (ofProgress p).push (.print escaped name) =
      ofProgress ⟨p.frames, .print escaped name :: p.flush, []⟩ := by
  simp [ofProgress, push, Block.ofNodes_append_print, ofNodes_flush hsettled]

/-- An open section has its block laid out already, with nothing counted. -/
theorem openSection_ofProgress {p : Node.Progress} (hsettled : p.Settled) (inverted : Bool)
    (name : FieldName) (offset : Nat) :
    (ofProgress p).openSection inverted name offset =
      ofProgress ⟨⟨inverted, name, offset, p.flush⟩ :: p.frames, [], []⟩ := by
  simp [ofProgress, openSection, push, outline, openings, ofNodes_flush hsettled, Block.ofNodes]

/-- Patching the block of the section that is closed makes it the block of the
    finished section, whose blocks are those of its body and its closing one. -/
theorem close_ofProgress {p : Node.Progress} (hsettled : p.Settled) (name : Text) (offset : Nat) :
    (ofProgress p).close name offset = (p.close name offset).map ofProgress := by
  obtain ⟨frames, nodes, pending⟩ := p
  cases frames with
  | nil => rfl
  | cons f fs =>
    by_cases hname : f.name.text = name
    · have hbody := ofNodes_flush hsettled
      generalize hbefore : outline fs ++ (Block.ofNodes [] f.before.reverse).1 = before
      have hblocks : (ofProgress ⟨f :: fs, nodes, pending⟩).blocks.toList =
          before ++ ⟨(Block.ofNodes [] f.before.reverse).2, .opening f.inverted f.name 0⟩ ::
            (Block.ofNodes [] nodes.reverse).1 := by
        simp [ofProgress, outline, ← hbefore]
      have hopened : (ofProgress ⟨f :: fs, nodes, pending⟩).opened =
          ⟨before.length, f.name.text, f.offset⟩ :: openings fs := by
        simp only [ofProgress, openings, hbefore]
      have hclosed : (ofProgress ⟨f :: fs, nodes, pending⟩).pushClosing before.length =
          (ofProgress ⟨fs, .nested f.inverted f.name (flush ⟨f :: fs, nodes, pending⟩).reverse ::
            f.before, []⟩).blocks := by
        refine Array.toList_inj.1 ?_
        rw [toList_pushClosing hblocks]
        simp [ofProgress, Block.ofNodes_append_nested, hbody, ← hbefore, Block.withChildren,
          Block.Tag.withChildren]
      simp only [Builder.close, hopened, hname, ne_eq, not_true_eq_false, if_false, hclosed]
      simp [Node.Progress.close, hname, Except.map, ofProgress]
    · simp [Builder.close, Node.Progress.close, ofProgress, openings, hname, CompileError.fail,
        Except.map]

/-- The builder of a half-read tree takes a token in as the tree does, and fails where that
fails. -/
theorem take_ofProgress (hasher : Hasher) {p : Node.Progress} (hsettled : p.Settled) (t : Token) :
    take hasher (ofProgress p) t = (p.take hasher t).map ofProgress := by
  cases t with
  | char c => rfl
  | unclosed offset => rfl
  | tag t offset =>
    simp only [take, Node.Progress.take, takeTag, Node.Progress.takeTag]
    split
    · rfl
    · cases hkind : t.kind with
      | comment => rfl
      | closing => exact close_ofProgress hsettled t.name offset
      | print escaped =>
        cases CompileError.hashed hasher t.name with
        | error e => rfl
        | ok name => exact congrArg Except.ok (print_ofProgress hsettled escaped name)
      | opening inverted =>
        cases CompileError.hashed hasher t.name with
        | error e => rfl
        | ok name => exact congrArg Except.ok (openSection_ofProgress hsettled inverted name offset)

end Builder

namespace Node.Progress

/-- What a token does to a half-read tree that takes it in. -/
inductive Step (hasher : Hasher) (p : Progress) : Token → Progress → Prop where
  | char (c : CodePoint) : Step hasher p (.char c) { p with pending := c :: p.pending }
  | comment {t : Tag} {offset : Nat} (hkind : t.kind = .comment) : Step hasher p (.tag t offset) p
  | print {t : Tag} {offset : Nat} {escaped : Bool} {hash : Hash} (hkind : t.kind = .print escaped)
      (hhash : hasher t.name = some hash) :
      Step hasher p (.tag t offset) ⟨p.frames, .print escaped ⟨t.name, hash⟩ :: p.flush, []⟩
  | opening {t : Tag} {offset : Nat} {inverted : Bool} {hash : Hash}
      (hkind : t.kind = .opening inverted) (hhash : hasher t.name = some hash) :
      Step hasher p (.tag t offset)
        ⟨⟨inverted, ⟨t.name, hash⟩, offset, p.flush⟩ :: p.frames, [], []⟩
  | closing {t : Tag} {offset : Nat} {f : Frame} {fs : List Frame} (hkind : t.kind = .closing)
      (hframes : p.frames = f :: fs) (hname : f.name.text = t.name) :
      Step hasher p (.tag t offset)
        ⟨fs, .nested f.inverted f.name p.flush.reverse :: f.before, []⟩

theorem step_of_take {hasher : Hasher} {p q : Progress} {t : Token}
    (htake : p.take hasher t = .ok q) : Step hasher p t q := by
  cases t with
  | char c =>
    cases htake
    exact .char c
  | unclosed offset => cases htake
  | tag t offset =>
    simp only [take, takeTag] at htake
    split at htake
    · cases htake
    · cases hkind : t.kind with
      | comment =>
        simp only [hkind, Except.ok.injEq] at htake
        subst htake
        exact .comment hkind
      | closing =>
        simp only [hkind, close] at htake
        split at htake
        · cases htake
        · rename_i f fs hframes
          by_cases hname : f.name.text = t.name
          · simp only [hname, ne_eq, not_true_eq_false, if_false, Except.ok.injEq] at htake
            subst htake
            exact .closing hkind hframes hname
          · simp [hname, CompileError.fail] at htake
      | print escaped =>
        simp only [hkind] at htake
        obtain ⟨hash, hhash, rfl⟩ := CompileError.map_hashed_eq_ok_iff.1 htake
        exact .print hkind hhash
      | opening inverted =>
        simp only [hkind] at htake
        obtain ⟨hash, hhash, rfl⟩ := CompileError.map_hashed_eq_ok_iff.1 htake
        exact .opening hkind hhash

/-- What every step keeps holds of all that is read. -/
theorem foldlM_take_keeps {hasher : Hasher} {ts : List Token} {p q : Progress} {P : Progress → Prop}
    (hread : ts.foldlM (take hasher) p = .ok q) (hstart : P p)
    (hkeep : ∀ {p q t}, Step hasher p t q → P p → P q) : P q := by
  induction ts generalizing p with
  | nil =>
    cases hread
    exact hstart
  | cons t ts ih =>
    rw [List.foldlM_cons] at hread
    cases htake : p.take hasher t with
    | error e => simp [htake, Bind.bind, Except.bind] at hread
    | ok r =>
      rw [htake] at hread
      exact ih hread (hkeep (step_of_take htake) hstart)

/-- Every step leaves the half-read tree without two literal texts in a row. -/
theorem Step.settled {hasher : Hasher} {p q : Progress} {t : Token} (hstep : Step hasher p t q)
    (hsettled : p.Settled) : q.Settled := by
  cases hstep with
  | char c => exact hsettled
  | comment hkind => exact hsettled
  | print hkind hhash => simp [Settled, Block.ofNodes_append_print]
  | opening hkind hhash => rfl
  | closing hkind hframes hname => simp [Settled, Block.ofNodes_append_nested]

end Node.Progress

namespace Builder

open Node.Progress

/-- Reading on with the builder is reading on with the tree. -/
theorem foldlM_take_ofProgress (hasher : Hasher) (ts : List Token) {p : Node.Progress}
    (hsettled : p.Settled) :
    ts.foldlM (take hasher) (ofProgress p) =
      (ts.foldlM (Node.Progress.take hasher) p).map ofProgress := by
  induction ts generalizing p with
  | nil => rfl
  | cons t ts ih =>
    rw [List.foldlM_cons, List.foldlM_cons, take_ofProgress hasher hsettled]
    cases htake : p.take hasher t with
    | error e => rfl
    | ok q => exact ih ((step_of_take htake).settled hsettled)

/-- At the end the builder has the blocks of the tree, or the error of the tree. -/
theorem finish_ofProgress {p : Node.Progress} (hsettled : p.Settled) :
    (ofProgress p).finish = p.finish.map fun nodes => (Block.ofTree nodes).toArray := by
  obtain ⟨frames, nodes, pending⟩ := p
  cases frames with
  | cons f fs => rfl
  | nil =>
    have hflush := ofNodes_flush hsettled
    have htree : Block.ofTree (flush ⟨[], nodes, pending⟩).reverse =
        if pending.reverse = [] then (Block.ofNodes [] nodes.reverse).1
        else (Block.ofNodes [] nodes.reverse).1 ++ [⟨pending.reverse, .tail⟩] := by
      rw [Block.ofTree_eq, hflush]
    simp only [Builder.finish, Node.Progress.finish, ofProgress, openings, outline, Except.map,
      List.nil_append, htree]
    by_cases hempty : pending = []
    · simp [hempty]
    · simp [hempty, push]

/-- The blocks that one pass over a source puts down and patches are the blocks of
    its parse tree, and both readings refuse the same sources for the same reason. -/
theorem build_eq_parse (hasher : Hasher) (source : Text) :
    build hasher source =
      (Node.parse hasher source).map fun nodes => (Block.ofTree nodes).toArray := by
  have hread := foldlM_take_ofProgress hasher (Token.scan source) (p := {}) rfl
  have hstart : ofProgress {} = {} := rfl
  rw [hstart] at hread
  rw [build, Node.parse, hread]
  cases hp : (Token.scan source).foldlM (Node.Progress.take hasher) {} with
  | error e => rfl
  | ok p => exact finish_ofProgress (foldlM_take_keeps hp rfl Step.settled)

end Builder

/-- The blocks of a source are the blocks of its parse tree, and a source has blocks exactly when it
has a tree. -/
theorem Template.compileWith_eq_parse (hasher : Hasher) (source : Text) :
    compileWith hasher source =
      (Node.parse hasher source).map fun nodes => ⟨Block.ofTree nodes⟩ := by
  rw [compileWith, Builder.build_eq_parse]
  cases Node.parse hasher source <;> rfl

end Stencil
