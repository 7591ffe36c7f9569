import Mathlib.Data.List.Chain
import Stencil.Proofs.Template.Outline
import Stencil.Render.Tree
import Stencil.Render.Walk

namespace Stencil

namespace Node

/-- Literal text does not stand beside literal text. -/
def Apart (m n : Node) : Prop := ¬ (m.isLiteral = true ∧ n.isLiteral = true)

mutual

/-- No literal text in the node is empty or stands beside other literal text. -/
def Tidy : Node → Prop
  | .literal t => t ≠ []
  | .print _ _ => True
  | .nested _ _ body => body.IsChain Apart ∧ TidyEach body

/-- Each of the nodes is tidy. -/
def TidyEach : List Node → Prop
  | [] => True
  | n :: ns => n.Tidy ∧ TidyEach ns

end

theorem tidyEach_iff {ns : List Node} : TidyEach ns ↔ ∀ n ∈ ns, n.Tidy := by
  induction ns with
  | nil => simp [TidyEach]
  | cons n ns ih => simp [TidyEach, ih]

/-- A body is tidy together with the literal texts in it that may touch. -/
def TidyBody (ns : List Node) : Prop := ns.IsChain Apart ∧ TidyEach ns

theorem apart_comm {m n : Node} : Apart m n ↔ Apart n m := by
  simp only [Apart, and_comm]

theorem TidyBody.reverse {ns : List Node} (htidy : TidyBody ns) : TidyBody ns.reverse := by
  refine ⟨?_, ?_⟩
  · rw [List.isChain_reverse]
    exact htidy.1.imp fun m n => apart_comm.1
  · have heach := tidyEach_iff.1 htidy.2
    rw [tidyEach_iff]
    simpa using heach

/-- A node that is no literal text may come before a tidy body. -/
theorem TidyBody.cons {n : Node} {ns : List Node} (htidy : TidyBody ns) (hn : n.Tidy)
    (hliteral : n.isLiteral = false) : TidyBody (n :: ns) := by
  refine ⟨?_, hn, htidy.2⟩
  rw [List.isChain_cons]
  exact ⟨fun m _ hboth => by simp [hliteral] at hboth, htidy.1⟩

namespace Progress

/-- Everything read so far is tidy, and no literal text is waiting for its neighbour. -/
structure Tidy (p : Progress) : Prop where
  nodes : TidyBody p.nodes
  settled : ∀ n ∈ p.nodes.head?, n.isLiteral = false
  frames : ∀ f ∈ p.frames, TidyBody f.before

theorem Tidy.flush {p : Progress} (htidy : p.Tidy) : TidyBody p.flush := by
  unfold Progress.flush
  split
  · exact htidy.nodes
  · rename_i hpending
    refine ⟨?_, by simpa [TidyEach, Node.Tidy] using ⟨hpending, htidy.nodes.2⟩⟩
    rw [List.isChain_cons]
    refine ⟨fun n hn hboth => ?_, htidy.nodes.1⟩
    simp [htidy.settled n hn] at hboth

/-- Every step leaves a half-read tree tidy: literal texts are joined, and none is empty. -/
theorem Step.tidy {hasher : Hasher} {p q : Progress} {t : Token} (hstep : Step hasher p t q)
    (htidy : p.Tidy) : q.Tidy := by
  cases hstep with
  | char c => exact ⟨htidy.nodes, htidy.settled, htidy.frames⟩
  | comment hkind => exact htidy
  | print hkind hhash =>
    exact ⟨htidy.flush.cons trivial rfl, by simp [isLiteral], htidy.frames⟩
  | opening hkind hhash =>
    exact ⟨⟨.nil, trivial⟩, by simp, by simpa using ⟨htidy.flush, htidy.frames⟩⟩
  | closing hkind hframes hname =>
    have hbefore := htidy.frames _ (hframes ▸ List.mem_cons_self)
    refine ⟨hbefore.cons htidy.flush.reverse rfl, by simp [isLiteral], fun g hg => ?_⟩
    exact htidy.frames g (hframes ▸ List.mem_cons_of_mem _ hg)

end Progress

/-- A parse tree has no empty literal text and no two literal texts side by side. -/
theorem tidyBody_of_parse {hasher : Hasher} {source : Text} {nodes : List Node}
    (hparse : parse hasher source = .ok nodes) : TidyBody nodes := by
  unfold parse at hparse
  cases hread : (Token.scan source).foldlM (Progress.take hasher) {} with
  | error e => simp [hread, Bind.bind, Except.bind] at hparse
  | ok p =>
    have htidy : p.Tidy := Progress.foldlM_take_keeps (P := Progress.Tidy) hread
      ⟨⟨.nil, trivial⟩, by simp, by simp⟩ Progress.Step.tidy
    simp only [hread, Bind.bind, Except.bind, Progress.finish] at hparse
    split at hparse
    · cases hparse
      exact htidy.flush.reverse
    · cases hparse

/-- Renders nodes as a walk over their blocks does: literal text waits for the next
    tag, and what is left of it behind the last one is not written. -/
def renderPending (convert : Conversion) (pending : Text) : List Node → Value → Script
  | [], _ => .done
  | .literal t :: ns, v => renderPending convert (pending ++ t) ns v
  | n :: ns, v =>
    ((Block.writeHtml pending).andThen (n.script convert v)).andThen
      (renderPending convert [] ns v)

/-- Writing late and in one piece comes to the same for tidy nodes, of which the
    pending literal text counts as one. -/
theorem renderPending_andThen_writeHtml (convert : Conversion) (pending : Text) {ns : List Node}
    (v : Value) (htidy : TidyBody ns)
    (hpending : pending ≠ [] → ∀ n ∈ ns.head?, n.isLiteral = false) :
    (renderPending convert pending ns v).andThen (Block.writeHtml (Block.ofNodes pending ns).2) =
      (Block.writeHtml pending).andThen (scriptAll convert ns v) := by
  induction ns generalizing pending with
  | nil => simp [renderPending, scriptAll, Block.ofNodes]
  | cons n ns ih =>
    obtain ⟨hchain, hn, hns⟩ := htidy
    rw [List.isChain_cons] at hchain
    cases n with
    | literal t =>
      have hempty : pending = [] := by
        by_contra hne
        simp [isLiteral] at hpending
        exact hne hpending
      have hapart : t ≠ [] → ∀ m ∈ ns.head?, m.isLiteral = false := by
        intro _ m hm
        have := hchain.1 m hm
        simpa [Apart, isLiteral] using this
      subst hempty
      have hrest := ih t ⟨hchain.2, hns⟩ hapart
      simp only [renderPending, Block.ofNodes, Block.ofNode, List.nil_append]
      rw [hrest]
      have hne : t ≠ [] := hn
      simp [scriptAll, script, Block.writeHtml, hne]
    | print escaped name =>
      have hrest := ih [] ⟨hchain.2, hns⟩ (by simp)
      simp only [renderPending, Block.ofNodes, Block.ofNode, Script.andThen_assoc]
      rw [hrest]
      simp [scriptAll, Block.writeHtml]
    | nested inverted name body =>
      have hrest := ih [] ⟨hchain.2, hns⟩ (by simp)
      simp only [renderPending, Block.ofNodes, Block.ofNode, Script.andThen_assoc]
      rw [hrest]
      simp [scriptAll, Block.writeHtml]

end Node

namespace Block

/-- Blocks that belong to a section that has run are passed over. -/
theorem walk_skip (convert : Conversion) (bs rest : List Block) (count : Nat) (v : Value) :
    walk convert (bs ++ rest) bs.length (bs.length + count) v = walk convert rest 0 count v := by
  induction bs with
  | nil => simp
  | cons b bs ih =>
    rw [List.cons_append, List.length_cons, Nat.add_right_comm, walk]
    exact ih

@[simp] theorem walk_zero (convert : Conversion) (bs : List Block) (v : Value) :
    walk convert bs 0 0 v = .done := by
  cases bs <;> simp [walk]

/-- A walk comes to a section, whose body runs once for each item, and goes on behind it. -/
theorem walk_section {convert : Conversion} {body : List Block} {last : Text} {once : Value → Script}
    {rest : List Block}
    (honce : ∀ w, walk convert (body ++ ⟨last, .closing⟩ :: rest) 0 (body.length + 1) w = once w)
    (html : Text) (inverted : Bool) (name : FieldName) (count : Nat) (v : Value) :
    walk convert
        (⟨html, .opening inverted name (body.length + 1)⟩ :: (body ++ ⟨last, .closing⟩ :: rest)) 0
        (body.length + 1 + count + 1) v =
      ((writeHtml html).andThen ((v.tagPlan convert inverted name).script once)).andThen
        (walk convert rest 0 count v) := by
  have hskip := walk_skip convert (body ++ [⟨last, .closing⟩]) rest count v
  simp only [List.append_assoc, List.singleton_append, List.length_append, List.length_cons,
    List.length_nil, Nat.zero_add] at hskip
  have hitems : walk convert (body ++ ⟨last, .closing⟩ :: rest) 0 (body.length + 1) = once :=
    funext honce
  rw [walk]
  simp only [Tag.children, hskip, hitems]

open Node

/-- The blocks of a section are walked once for each of its items, and each time
    the literal text before the closing tag is written behind the body. -/
theorem walk_nested (convert : Conversion) (pending : Text) (inverted : Bool) (name : FieldName)
    {body : List Node} (htidy : TidyBody body)
    (hbody : ∀ rest count v,
      walk convert ((ofNodes [] body).1 ++ rest) 0 ((ofNodes [] body).1.length + count) v =
        (renderPending convert [] body v).andThen (walk convert rest 0 count v))
    (rest : List Block) (count : Nat) (v : Value) :
    walk convert ((ofNode pending (.nested inverted name body)).1 ++ rest) 0
        ((ofNode pending (.nested inverted name body)).1.length + count) v =
      ((writeHtml pending).andThen ((Node.nested inverted name body).script convert v)).andThen
        (walk convert rest 0 count v) := by
  generalize hinner : ofNodes [] body = inner at hbody
  have honce : ∀ w, walk convert (inner.1 ++ Block.mk inner.2 .closing :: rest) 0
      (inner.1.length + 1) w = scriptAll convert body w := by
    intro w
    have hclosed := renderPending_andThen_writeHtml convert [] w htidy (by simp)
    rw [hinner] at hclosed
    rw [hbody, walk]
    simpa [writeHtml, Tag.children] using hclosed
  have hsection := walk_section honce pending inverted name count v
  have hlength : (ofNode pending (.nested inverted name body)).1.length + count =
      inner.1.length + 1 + count + 1 := by
    simp only [ofNode, hinner, List.length_append, List.length_cons, List.length_nil]
    omega
  have hblocks : (ofNode pending (.nested inverted name body)).1 ++ rest =
      ⟨pending, .opening inverted name (inner.1.length + 1)⟩ ::
        (inner.1 ++ Block.mk inner.2 .closing :: rest) := by
    simp [ofNode, hinner]
  rw [hlength, hblocks, hsection, Node.script]

/-- A walk over the blocks of some nodes renders the nodes and goes on behind them. -/
theorem walk_ofNodes (convert : Conversion) (pending : Text) (ns : List Node)
    (htidy : TidyEach ns) (rest : List Block) (count : Nat) (v : Value) :
    walk convert ((ofNodes pending ns).1 ++ rest) 0 ((ofNodes pending ns).1.length + count) v =
      (renderPending convert pending ns v).andThen (walk convert rest 0 count v) := by
  cases ns with
  | nil => simp [ofNodes, renderPending]
  | cons n ns =>
    cases n with
    | literal t =>
      simpa [ofNodes, ofNode, renderPending] using
        walk_ofNodes convert (pending ++ t) ns htidy.2 rest count v
    | print escaped name =>
      have hns := walk_ofNodes convert [] ns htidy.2 rest count v
      simp only [ofNodes, ofNode, renderPending, Node.script, List.cons_append, List.nil_append,
        List.length_cons, Nat.add_right_comm, walk, Tag.children, hns, Script.andThen_assoc]
    | nested inverted name body =>
      have hns := walk_ofNodes convert [] ns htidy.2 rest count v
      have hbody := walk_ofNodes convert [] body htidy.1.2
      have hsection := walk_nested convert pending inverted name htidy.1 hbody
        ((ofNodes [] ns).1 ++ rest) ((ofNodes [] ns).1.length + count) v
      have hpending : (ofNode pending (.nested inverted name body)).2 = [] := rfl
      have hrender : renderPending convert pending (.nested inverted name body :: ns) v =
          ((writeHtml pending).andThen ((Node.nested inverted name body).script convert v)).andThen
            (renderPending convert [] ns v) := rfl
      rw [hrender, ofNodes, hpending, List.append_assoc, List.length_append, Nat.add_assoc,
        hsection, hns, Script.andThen_assoc _ (renderPending convert [] ns v)]

end Block

/-- Walking the blocks of a source comes to the script of its parse tree. -/
theorem Template.script_eq_scriptAll {hasher : Hasher} {source : Text} {t : Template}
    {nodes : List Node} (hcompile : compileWith hasher source = .ok t)
    (hparse : Node.parse hasher source = .ok nodes) (convert : Conversion) (v : Value) :
    t.script convert v = Node.scriptAll convert nodes v := by
  have htidy := Node.tidyBody_of_parse hparse
  have hpending := Node.renderPending_andThen_writeHtml convert [] v htidy (by simp)
  have hblocks : t.blocks = Block.ofTree nodes := by
    rw [compileWith_eq_parse, hparse] at hcompile
    cases hcompile
    rfl
  have hwalk := Block.walk_ofNodes convert [] nodes htidy.2
  rw [Template.script, Template.size, hblocks, Block.ofTree_eq]
  split
  · rename_i hempty
    have hall := hwalk [] 0 v
    simp only [hempty, Block.writeHtml, if_true, Script.andThen_done, Script.done_andThen] at hpending
    simpa [hpending] using hall
  · have hall := hwalk [⟨(Block.ofNodes [] nodes).2, .tail⟩] 1 v
    simp only [Block.walk, Block.Tag.children, if_pos, Nat.zero_le, Script.andThen_done, hpending]
      at hall
    rw [List.length_append]
    simpa [Block.writeHtml] using hall

end Stencil
