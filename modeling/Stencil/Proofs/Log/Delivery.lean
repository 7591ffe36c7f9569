import Stencil.Log.Tree

namespace Stencil

namespace Log

namespace Node

variable {nodes above : List Node}

theorem effectiveLevel_of_zero (hzero : ∀ n ∈ nodes, n.level = 0) :
    effectiveLevel (nodes ++ above) = effectiveLevel above := by
  induction nodes with
  | nil => rfl
  | cons n nodes ih =>
    obtain ⟨hn, hnodes⟩ := List.forall_mem_cons.1 hzero
    rw [List.cons_append, effectiveLevel, if_pos hn, ih hnodes]

/-- Plain loggers pass records on. -/
theorem reached_of_plain (hplain : ∀ n ∈ nodes, n = {}) :
    reached (nodes ++ above) = reached above := by
  induction nodes with
  | nil => rfl
  | cons n nodes ih =>
    obtain ⟨rfl, hnodes⟩ := List.forall_mem_cons.1 hplain
    rw [List.cons_append, reached, ih hnodes]
    simp

/-- Loggers without handlers lead to none. -/
theorem reached_eq_nil (hnone : ∀ n ∈ nodes, n.handlers = []) : reached nodes = [] := by
  induction nodes with
  | nil => rfl
  | cons n nodes ih =>
    obtain ⟨hn, hnodes⟩ := List.forall_mem_cons.1 hnone
    rw [reached, hn, ih hnodes]
    simp

/-- A setup forgets all that a logger was before. -/
theorem setUp_eq (n : Node) (s : Setup) : n.setUp s = ⟨s.level, [s.handler], false⟩ := rfl

end Node

section Names

variable {isThere : Text → Bool} {n name : Text}

/-- What stands above a logger stands in front of a dot. -/
theorem eq_append_of_mem_namesAbove (hn : n ∈ namesAbove isThere name) :
    ∃ rest, name = n ++ CodePoint.ofChar '.' :: rest := by
  have hreversed {t : Text} (hn : n ∈ aboveReversed isThere t) :
      ∃ before, t = before ++ CodePoint.ofChar '.' :: n.reverse := by
    fun_induction aboveReversed isThere t with
    | case1 c d rest hdot _ ih =>
      rcases List.mem_cons.1 hn with rfl | hn
      · exact ⟨[], by simp [eq_of_beq hdot]⟩
      · obtain ⟨before, hbefore⟩ := ih hn
        exact ⟨c :: before, by rw [hbefore]; rfl⟩
    | case2 c d rest _ _ ih =>
      obtain ⟨before, hbefore⟩ := ih hn
      exact ⟨c :: d :: before, by rw [hbefore]; rfl⟩
    | case3 c d rest _ ih =>
      obtain ⟨before, hbefore⟩ := ih hn
      exact ⟨c :: before, by rw [hbefore]; rfl⟩
    | case4 => cases hn
  obtain ⟨before, hbefore⟩ := hreversed hn
  exact ⟨before.reverse, by simpa using congrArg List.reverse hbefore⟩

/-- If every logger is there, all that stands in front of a dot is above. -/
theorem mem_namesAbove_of_append (hn : n ≠ []) (rest : Text) :
    n ∈ namesAbove (fun _ => true) (n ++ CodePoint.ofChar '.' :: rest) := by
  have hreversed (before : Text) :
      n ∈ aboveReversed (fun _ => true) (before ++ CodePoint.ofChar '.' :: n.reverse) := by
    obtain ⟨d, more, hd⟩ := List.exists_cons_of_ne_nil (mt List.reverse_eq_nil_iff.1 hn)
    induction before with
    | nil =>
      have hfirst : (d :: more).reverse = n := by rw [← hd, List.reverse_reverse]
      rw [List.nil_append, hd, aboveReversed, if_pos (by decide), if_pos rfl, hfirst]
      exact List.mem_cons_self
    | cons c before ih =>
      obtain ⟨e, t, ht⟩ : ∃ e t, before ++ CodePoint.ofChar '.' :: n.reverse = e :: t := by
        cases before <;> exact ⟨_, _, rfl⟩
      rw [List.cons_append, ht, aboveReversed]
      rw [ht] at ih
      split
      · exact List.mem_cons_of_mem _ ih
      · exact ih
  rw [namesAbove, List.reverse_append, List.reverse_cons, List.append_assoc]
  exact hreversed rest.reverse

end Names

namespace Tree

/-- A logger and those above it are plain, but for the top one: they have no level and no handlers
of their own, and pass records on. -/
def PlainBelowTop (t : Tree) (name : Text) : Prop := ∀ n ∈ t.names name, n ≠ topName → t.node n = {}

variable {t : Tree} {name : Text} {s : Setup}

/-- The running logger takes every logger in front of a dot to be there. -/
theorem isBelowTop_of_mem_names (hbelow : topName ∈ t.names name) : isBelowTop name = true := by
  rw [isBelowTop, Bool.or_eq_true]
  rcases List.mem_cons.1 hbelow with rfl | hbelow
  · exact .inl (beq_self_eq_true _)
  · obtain ⟨rest, rfl⟩ := eq_append_of_mem_namesAbove hbelow
    exact .inr (List.isPrefixOf_iff_prefix.2 ⟨rest, by rw [List.append_assoc]; rfl⟩)

section Chain

variable (hplain : t.PlainBelowTop name) (hbelow : topName ∈ t.names name)

include hplain hbelow

/-- The chain of a logger below the top one: plain loggers, the top one, and those above. -/
theorem chain_eq : ∃ plain above, t.chain name = plain ++ t.node topName :: above ∧
    ∀ n ∈ plain, n = {} := by
  obtain ⟨below, above, hsplit, hfirst⟩ := List.eq_append_cons_of_mem hbelow
  refine ⟨below.map t.node, above.map t.node ++ [t.root], by simp [chain, hsplit], ?_⟩
  intro n hn
  obtain ⟨m, hm, rfl⟩ := List.mem_map.1 hn
  refine hplain m (hsplit ▸ List.mem_append_left _ hm) fun htop => hfirst (htop ▸ hm)

/-- The level in force for a plain logger is that of the top logger, or of the root if that has
none. -/
theorem effectiveLevel_chain : Node.effectiveLevel (t.chain name) =
    if (t.node topName).level = 0 then t.root.level else (t.node topName).level := by
  by_cases hzero : (t.node topName).level = 0
  · have hnames : ∀ n ∈ (t.names name).map t.node, n.level = 0 := by
      intro n hn
      obtain ⟨m, hm, rfl⟩ := List.mem_map.1 hn
      by_cases htop : m = topName
      · rw [htop, hzero]
      · rw [hplain m hm htop]
    rw [chain, Node.effectiveLevel_of_zero hnames, if_pos hzero]
    by_cases hroot : t.root.level = 0 <;> simp [Node.effectiveLevel, hroot]
  · obtain ⟨plain, above, hchain, hplain⟩ := chain_eq hplain hbelow
    rw [hchain, Node.effectiveLevel_of_zero fun n hn => hplain n hn ▸ rfl, Node.effectiveLevel,
      if_neg hzero, if_neg hzero]

/-- A record below the top logger comes to the handlers of that, and to no others: it is kept from
the root. -/
theorem reached_chain (hkept : (t.node topName).propagates = false) :
    Node.reached (t.chain name) = (t.node topName).handlers := by
  obtain ⟨plain, above, hchain, hplain⟩ := chain_eq hplain hbelow
  rw [hchain, Node.reached_of_plain hplain, Node.reached, hkept]
  simp

end Chain

/-- Of two setups the last one counts. -/
theorem setUp_setUp (t : Tree) (s s' : Setup) : (t.setUp s).setUp s' = t.setUp s' := by
  simp only [setUp, meet, mk.injEq, true_and, and_true]
  refine ⟨funext fun name => ?_, funext fun name => ?_⟩
  · by_cases htop : name = topName <;> simp [htop, Node.setUp_eq]
  · rw [← Bool.or_assoc, Bool.or_self]

theorem meet_meet (t : Tree) (names names' : List Text) :
    (t.meet names).meet names' = t.meet (names ++ names') := by
  simp only [meet, mk.injEq, true_and, and_true]
  funext name
  rw [List.contains_append, ← Bool.or_assoc, Bool.or_comm (names'.contains name)]

/-- A setup does not touch the loggers that have been met. -/
theorem meet_setUp (t : Tree) (s : Setup) (names : List Text) :
    (t.setUp s).meet names = (t.meet names).setUp s := by
  simp only [setUp, meet, mk.injEq, true_and, and_true]
  funext name
  rw [Bool.or_left_comm]

theorem lastSetup?_cons (e : Event) (events : List Event) :
    lastSetup? (e :: events) = (lastSetup? events).or e.setup? := by
  cases he : e.setup? with
  | none => simp [lastSetup?, he]
  | some s =>
    rw [lastSetup?, lastSetup?, List.filterMap_cons_some he, List.getLast?_cons]
    cases (events.filterMap Event.setup?).getLast? <;> rfl

/-- Of the setups in some events only the last one leaves a trace. -/
theorem afterAll_eq (t : Tree) (events : List Event) :
    t.afterAll events =
      let t := t.meet (events.filterMap Event.logger?)
      ((lastSetup? events).map t.setUp).getD t := by
  induction events generalizing t with
  | nil => rfl
  | cons e events ih =>
    rw [afterAll, List.foldl_cons, ← afterAll, ih, lastSetup?_cons]
    have hsetUp (s : Setup) (ns : List Text) :
        ((lastSetup? events).map ((t.setUp s).meet ns).setUp).getD ((t.setUp s).meet ns) =
          (((lastSetup? events).or (some s)).map (t.meet ns).setUp).getD (t.meet ns) := by
      rw [meet_setUp]
      cases lastSetup? events <;> simp [setUp_setUp]
    cases e with
    | setUp s => exact hsetUp s _
    | flags f stream => exact hsetUp (.ofFlags f stream) _
    | call c =>
      rw [after, meet_meet]
      simp only [Event.setup?, Option.or_none]
      rfl

/-- What comes later is delivered by the tree as it is then. -/
theorem deliveries_append (t : Tree) (before after : List Event) :
    t.deliveries (before ++ after) =
      t.deliveries before ++ (t.afterAll before).deliveries after := by
  induction before generalizing t with
  | nil => rfl
  | cons e before ih =>
    rw [List.cons_append, deliveries, deliveries, ih, List.append_assoc]
    rfl

/-- Once the top logger is set up, a call below it comes to the handler of the setup alone. -/
theorem deliver_setUp {c : Call} (hbelow : topName ∈ (t.setUp s).names c.record.logger)
    (hplain : (t.setUp s).PlainBelowTop c.record.logger) :
    (t.setUp s).deliver c =
      if 0 < c.record.level ∧ (if s.level = 0 then t.root.level else s.level) ≤ c.record.level then
        [s.handler.deliver c] else [] := by
  have htop : (t.setUp s).node topName = ⟨s.level, [s.handler], false⟩ := by
    simp [setUp, Node.setUp_eq]
  have hlevel := effectiveLevel_chain hplain hbelow
  have hreached := reached_chain hplain hbelow (by rw [htop])
  rw [htop] at hlevel hreached
  have htakes : (t.setUp s).takes c.record = true ↔
      0 < c.record.level ∧ (if s.level = 0 then t.root.level else s.level) ≤ c.record.level := by
    rw [takes, hlevel, Bool.and_eq_true, decide_eq_true_iff, decide_eq_true_iff]
    rfl
  by_cases htaken : (t.setUp s).takes c.record = true
  · have hlow : s.handler.level ≤ c.record.level := Int.le_of_lt (htakes.1 htaken).1
    rw [deliver, if_pos htaken, if_pos (htakes.1 htaken), handlers, hreached]
    simp [hlow]
  · rw [deliver, if_neg htaken, if_neg (mt htakes.2 htaken)]

end Tree

namespace Logger

variable {l : Logger} {stream : Stream} {name : Text}

/-- The tree of a process with one stream in which every logger is there and nothing but the top one
is configured. -/
def tree (l : Logger) (stream : Stream) : Tree where
  root := { level := rootLevel }
  node name :=
    if name = topName then
      ⟨l.level, l.format.toList.map fun f => { stream, format := some f }, l.format.isNone⟩
    else {}
  isThere _ := true
  lastResort := { stream, level := rootLevel }

/-- In the tree that the logger stands for, nothing but the top logger is configured. -/
theorem tree_topName : (l.tree stream).node topName =
    ⟨l.level, l.format.toList.map fun f => { stream, format := some f }, l.format.isNone⟩ := by
  simp [tree]

theorem plainBelowTop_tree : (l.tree stream).PlainBelowTop name := by
  intro n _ hother
  simp [tree, hother]

theorem mem_names_tree : topName ∈ (l.tree stream).names name ↔ isBelowTop name = true := by
  refine ⟨Tree.isBelowTop_of_mem_names, fun hbelow => ?_⟩
  rcases Bool.or_eq_true_iff.1 hbelow with htop | hprefix
  · exact eq_of_beq htop ▸ List.mem_cons_self
  · obtain ⟨rest, rfl⟩ := List.isPrefixOf_iff_prefix.1 hprefix
    rw [List.append_assoc]
    exact List.mem_cons_of_mem _ (mem_namesAbove_of_append (by decide) rest)

/-- A setup of the tree is a setup of the logger. -/
theorem setUp_tree (s : Setup) : (l.tree s.stream).setUp s =
    (setUp s.stream.terminal s.mode s.level).tree s.stream := by
  simp only [Tree.setUp, Tree.meet, tree, Tree.mk.injEq, true_and, and_true, Bool.or_true]
  funext name
  by_cases htop : name = topName <;> simp [htop, Node.setUp_eq, setUp, Setup.handler, Setup.format]

/-- And a record is taken by one if it is by the other. -/
theorem takes_tree (r : Record) : (l.tree stream).takes r = l.takes r := by
  have hlevel : Node.effectiveLevel ((l.tree stream).chain r.logger) = l.threshold r.logger := by
    cases hbelow : isBelowTop r.logger with
    | true =>
      rw [Tree.effectiveLevel_chain plainBelowTop_tree (mem_names_tree.2 hbelow), tree_topName,
        threshold, hbelow]
      by_cases hzero : l.level = 0 <;> simp [hzero, tree]
    | false =>
      have hzero : ∀ n ∈ ((l.tree stream).names r.logger).map (l.tree stream).node, n.level = 0 := by
        intro n hn
        obtain ⟨m, hm, rfl⟩ := List.mem_map.1 hn
        have hother : m ≠ topName := by
          rintro rfl
          rw [mem_names_tree.1 hm] at hbelow
          cases hbelow
        rw [plainBelowTop_tree m hm hother]
      rw [Tree.chain, Node.effectiveLevel_of_zero hzero, threshold, hbelow]
      rfl
  rw [Tree.takes, takes, hlevel]

/-- A record comes to the handler of the top logger or to the last resort. -/
theorem handlers_tree (name : Text) : (l.tree stream).handlers name =
    [⟨stream, l.formatOf name, if (l.formatOf name).isSome then 0 else rootLevel⟩] := by
  cases hformat : l.formatOf name with
  | some f =>
    obtain ⟨hbelow, hset⟩ := Option.ite_none_right_eq_some.1 hformat
    have hreached : Node.reached ((l.tree stream).chain name) =
        ((l.tree stream).node topName).handlers :=
      Tree.reached_chain plainBelowTop_tree (mem_names_tree.2 hbelow)
        (by rw [tree_topName, hset]; rfl)
    rw [Tree.handlers, hreached, tree_topName, hset]
    rfl
  | none =>
    have hnone : ∀ n ∈ (l.tree stream).chain name, n.handlers = [] := by
      intro n hn
      rcases List.mem_append.1 hn with hn | hn
      · obtain ⟨m, hm, rfl⟩ := List.mem_map.1 hn
        by_cases htop : m = topName
        · have hset : l.format = none := by
            rw [htop] at hm
            rwa [formatOf, if_pos (mem_names_tree.1 hm)] at hformat
          rw [htop, tree_topName, hset]
          rfl
        · rw [plainBelowTop_tree m hm htop]
      · rw [List.mem_singleton.1 hn]
        rfl
    rw [Tree.handlers, Node.reached_eq_nil hnone]
    rfl

/-- What runs is that tree. -/
theorem deliver_tree (c : Call) : (l.tree stream).deliver c =
    if l.writes c.record then [⟨stream, l.emit c.args c.record⟩] else [] := by
  rw [Tree.deliver, takes_tree, handlers_tree, emit, writes]
  cases htakes : l.takes c.record with
  | false => rfl
  | true =>
    have hpositive : 0 < c.record.level := of_decide_eq_true (Bool.and_eq_true_iff.1 htakes).1
    have hlow : (0 : Level) ≤ c.record.level := Int.le_of_lt hpositive
    cases hformat : l.formatOf c.record.logger with
    | some f => simp [hlow, Handler.deliver]
    | none => by_cases hroot : rootLevel ≤ c.record.level <;> simp [hroot, Handler.deliver]

end Logger

namespace Tree

/-- Whatever was set up and logged before, a call at the top logger or below it is written once, to
the stream and in the format of the last setup, if its level is positive and at least the level of
that setup; a setup at level zero leaves the level to the root logger. Nothing is left of earlier
setups, and if the root logger has its usual level, what is written is what the running logger
writes. A record that cannot be written is an error at the one handler. -/
theorem deliveries_setUp {t : Tree} {before : List Event} {s : Setup} {c : Call}
    (hlast : lastSetup? before = some s)
    (hbelow : topName ∈ (t.afterAll before).names c.record.logger)
    (hplain : (t.afterAll before).PlainBelowTop c.record.logger) :
    let l := Logger.setUp s.stream.terminal s.mode s.level
    t.afterAll before = (t.meet (before.filterMap Event.logger?)).setUp s ∧
    t.deliveries (before ++ [.call c]) = t.deliveries before ++
      (if 0 < c.record.level ∧ (if s.level = 0 then t.root.level else s.level) ≤ c.record.level then
        [⟨s.stream, c.record.emit (some ⟨s.mode, s.stream.terminal⟩) c.args⟩] else []) ∧
    (t.root.level = rootLevel → t.deliveries (before ++ [.call c]) = t.deliveries before ++
      (if l.writes c.record then [⟨s.stream, l.emit c.args c.record⟩] else [])) := by
  intro l
  have hafter : t.afterAll before = (t.meet (before.filterMap Event.logger?)).setUp s := by
    rw [afterAll_eq, hlast]
    rfl
  have hcall : t.deliveries (before ++ [.call c]) =
      t.deliveries before ++ (t.afterAll before).deliver c := by
    rw [deliveries_append, deliveries, written, deliveries, List.append_nil]
  have hdeliver : (t.afterAll before).deliver c =
      if 0 < c.record.level ∧ (if s.level = 0 then t.root.level else s.level) ≤ c.record.level then
        [s.handler.deliver c] else [] := by
    rw [hafter] at hbelow hplain ⊢
    exact deliver_setUp hbelow hplain
  refine ⟨hafter, by rw [hcall, hdeliver]; rfl, fun hroot => ?_⟩
  -- The running logger stands for a tree that is set up in the same way.
  have htree : (({} : Logger).tree s.stream).setUp s = l.tree s.stream := Logger.setUp_tree s
  have hrun : (l.tree s.stream).deliver c = (t.afterAll before).deliver c := by
    have hbelow' : topName ∈ (l.tree s.stream).names c.record.logger :=
      Logger.mem_names_tree.2 (isBelowTop_of_mem_names hbelow)
    rw [hdeliver, hroot, ← htree]
    rw [← htree] at hbelow'
    exact deliver_setUp hbelow' (htree ▸ Logger.plainBelowTop_tree)
  rw [hcall, ← hrun, Logger.deliver_tree]

/-- Set up by hand and again by flags: handlers of the program around the library and of the first
setup are gone, and a record from below is written once, as the flags say. -/
theorem deliveries_setUp_twice :
    let other : Stream := ⟨0, false⟩
    let terminal : Stream := ⟨1, true⟩
    let t : Tree :=
      { root := { level := rootLevel, handlers := [{ stream := other }] }
        node := fun name => if name = topName then ⟨Level.debug, [{ stream := other }], true⟩ else {}
        isThere := fun _ => false
        lastResort := { stream := other, level := rootLevel } }
    let before : List Event := [.setUp ⟨other, .json, Level.debug⟩, .flags { quiet := true } terminal]
    let c : Call := ⟨⟨Text.of "tinhorn.cli", Level.warning, Text.of "%s left", 0, none⟩,
      [.scalar (.text (Text.of "two"))]⟩
    let s : Setup := ⟨terminal, .human, Level.warning⟩
    lastSetup? before = some s ∧ topName ∈ (t.afterAll before).names c.record.logger ∧
      (t.afterAll before).PlainBelowTop c.record.logger ∧
      t.afterAll before = t.setUp s ∧
      t.deliveries (before ++ [.call c]) = t.deliveries before ++
        [⟨terminal, .ok (Level.colour Level.warning ++ Text.of "[WARNING]" ++ Level.reset ++
          Text.of " two left\n")⟩] := by
  intro other terminal t before c s
  have hlast : lastSetup? before = some s := rfl
  have hbelow : topName ∈ (t.afterAll before).names c.record.logger := by decide
  have hplain : (t.afterAll before).PlainBelowTop c.record.logger := by
    intro n _ hother
    simp [before, afterAll, after, setUp, meet, t, hother]
  obtain ⟨hafter, hcall, -⟩ := deliveries_setUp hlast hbelow hplain
  refine ⟨hlast, hbelow, hplain, hafter, ?_⟩
  rw [hcall, if_pos (by decide)]
  rfl

/-- What a setup at some level does not write although its level is reached: a setup at level zero
leaves the level to the root logger, no record at or below zero is taken, and a record whose
arguments do not fit is an error. -/
theorem deliveries_of_unwritten :
    let stream : Stream := ⟨0, false⟩
    let t : Tree := Logger.tree {} stream
    let call (level : Level) (message : String) (args : List Data) : Call :=
      ⟨⟨topName, level, Text.of message, 0, none⟩, args⟩
    (0 ≤ Level.debug ∧
      t.deliveries [.setUp ⟨stream, .human, 0⟩, .call (call Level.debug "x" [])] = []) ∧
    t.deliveries [.setUp ⟨stream, .human, -5⟩, .call (call (-5) "x" [])] = [] ∧
    t.deliveries [.setUp ⟨stream, .human, Level.info⟩,
      .call (call Level.info "%d" [.scalar (.text (Text.of "x"))])] =
        [⟨stream, .error (.message (.notReal (CodePoint.ofChar 'd') (Text.of "str")))⟩] := by
  refine ⟨⟨by decide, rfl⟩, rfl, rfl⟩

end Tree

end Log

end Stencil
