import Mathlib.Data.List.Forall2
import ReviewContext.Proofs.Span.Visited

/-!
# Walks in pre-order

A tree can be listed by recursion, each node before its named children. The walk with its stack of
pending places goes along this list and stops in front of the first place that lies too deep, or
after as many nodes as are allowed if these come first. The spans that it keeps are those of the
listed declarations around changed lines up to there, one for each and in the same order.
-/

namespace ReviewContext

namespace Node

mutual

/-- The places of a tree along named children with their depths, each place before those below. -/
def preorder (ancestors : List Node) (depth : Int) : Node → List Pending
  | node label children =>
    ⟨⟨node label children, ancestors⟩, depth⟩ ::
      preorderAll (node label children :: ancestors) (depth + 1) children

def preorderAll (ancestors : List Node) (depth : Int) : List Node → List Pending
  | [] => []
  | child :: rest =>
    if child.label.named then child.preorder ancestors depth ++ preorderAll ancestors depth rest
    else preorderAll ancestors depth rest

end

theorem preorderAll_eq (ancestors : List Node) (depth : Int) (children : List Node) :
    preorderAll ancestors depth children =
      (children.filter fun child => child.label.named).flatMap (preorder ancestors depth) := by
  induction children with
  | nil => rfl
  | cons child rest ih =>
    rw [preorderAll, ih]
    by_cases hnamed : child.label.named = true
    · simp [hnamed]
    · simp [hnamed]

end Node

namespace Pending

def preorder (pending : Pending) : List Pending :=
  pending.place.node.preorder pending.place.ancestors pending.depth

theorem preorder_eq (pending : Pending) :
    pending.preorder = pending :: pending.children.flatMap preorder := by
  obtain ⟨⟨node, ancestors⟩, depth⟩ := pending
  cases node with
  | node label children =>
    simp only [preorder, Node.preorder, Node.preorderAll_eq, Pending.children, Place.namedChildren,
      Node.namedChildren, Node.children, List.map_map, List.flatMap_map, Function.comp_apply,
      Place.below]

theorem flatMap_preorder_cons (pending : Pending) (rest : List Pending) :
    (pending :: rest).flatMap preorder =
      pending :: (pending.children ++ rest).flatMap preorder := by
  rw [List.flatMap_cons, preorder_eq, List.flatMap_append, List.cons_append]

end Pending

/-! ## Where a walk ends -/

namespace WalkLimits

/-- How many of some listed places a walk visits, and why it stops then. A place that lies too deep
ends it unless the nodes are used up before. -/
def ending (limits : WalkLimits) (listed : List Pending) : Nat × Option WalkStop :=
  match listed.findIdx? fun pending => decide (limits.maxDepth < pending.depth) with
  | some index =>
    if index ≤ limits.maxNodes then (index, some .depth)
    else (limits.maxNodes.toNat, some .nodes)
  | none =>
    if limits.maxNodes < listed.length then (limits.maxNodes.toNat, some .nodes)
    else (listed.length, none)

/-- The limits that are left when some nodes have been visited. -/
def less (limits : WalkLimits) (visited : Nat) : WalkLimits :=
  ⟨limits.maxDepth, limits.maxNodes - visited⟩

variable {limits : WalkLimits} {pending : Pending} {rest : List Pending}

theorem ending_nil (hnodes : 0 ≤ limits.maxNodes) : limits.ending [] = (0, none) := by
  have hspare : ¬ limits.maxNodes < 0 := by omega
  simp [ending, hspare]

theorem ending_of_deep
    (hdeep : limits.maxDepth < pending.depth)
    (hnodes : 0 ≤ limits.maxNodes) :
    limits.ending (pending :: rest) = (0, some .depth) := by
  simp [ending, List.findIdx?_cons, hdeep, hnodes]

theorem ending_of_spent
    (hdepth : ¬ limits.maxDepth < pending.depth)
    (hspent : limits.maxNodes = 0) :
    limits.ending (pending :: rest) = (0, some .nodes) := by
  unfold ending
  rw [List.findIdx?_cons, if_neg (by simpa using hdepth), hspent]
  cases rest.findIdx? fun pending => decide (limits.maxDepth < pending.depth) with
  | none =>
    have hmore : (0 : Int) < ((pending :: rest).length : Nat) := by
      rw [List.length_cons]
      omega
    simp only [Option.map_none, if_pos hmore, Int.toNat_zero]
  | some index =>
    have hbehind : ¬ ((index + 1 : Nat) : Int) ≤ 0 := by omega
    simp only [Option.map_some, if_neg hbehind, Int.toNat_zero]

theorem ending_of_visited
    (hdepth : ¬ limits.maxDepth < pending.depth)
    (hnodes : 0 < limits.maxNodes) :
    limits.ending (pending :: rest) =
      (((limits.less 1).ending rest).1 + 1, ((limits.less 1).ending rest).2) := by
  have hcount : (limits.maxNodes - 1).toNat + 1 = limits.maxNodes.toNat := by omega
  unfold ending less
  rw [List.findIdx?_cons, if_neg (by simpa using hdepth), Int.natCast_one]
  dsimp only
  cases rest.findIdx? fun pending => decide (limits.maxDepth < pending.depth) with
  | none =>
    simp only [Option.map_none, List.length_cons]
    by_cases hmore : limits.maxNodes - 1 < (rest.length : Int)
    · rw [if_pos hmore, if_pos (by omega), hcount]
    · rw [if_neg hmore, if_neg (by omega)]
  | some index =>
    simp only [Option.map_some]
    by_cases hreached : (index : Int) ≤ limits.maxNodes - 1
    · rw [if_pos hreached, if_pos (by omega)]
    · rw [if_neg hreached, if_neg (by omega), hcount]

theorem less_zero : limits.less 0 = limits := by
  cases limits
  simp [less]

theorem ending_visit (rest : List Pending) {visited : Nat}
    (hdepth : ¬ limits.maxDepth < pending.depth)
    (hleft : ¬ limits.maxNodes ≤ visited) :
    (limits.less visited).ending (pending :: rest) =
      (((limits.less (visited + 1)).ending rest).1 + 1,
        ((limits.less (visited + 1)).ending rest).2) := by
  have hnodes : 0 < (limits.less visited).maxNodes := by
    simp only [less]
    omega
  have hless : (limits.less visited).less 1 = limits.less (visited + 1) := by
    simp only [less, mk.injEq, true_and]
    omega
  have hdepthLess : ¬ (limits.less visited).maxDepth < pending.depth := hdepth
  rw [ending_of_visited hdepthLess hnodes, hless]

end WalkLimits

/-! ## Which spans a walk keeps -/

namespace WalkTarget

/-- Whether a place declares something in whose rows a changed line lies. -/
def meets (target : WalkTarget) (place : Place) : Bool :=
  (place.declaration? target.family).isSome &&
    target.changed.toList.any fun line =>
      (place.rowRange.1 : Int) + 1 + target.offset ≤ line &&
        line ≤ (place.rowRange.2 : Int) + 1 + target.offset

/-- The span tells the declaration of a place, its name, its lines and the changed lines in it. -/
structure Describes (target : WalkTarget) (place : Place) (span : Span) : Prop where
  kind : (place.declaration? target.family).map Declaration.name = some span.kind
  name : span.name = some (place.name target.bytes)
  stands : span.StandsAt place target.offset
  cut : span.IsCutFrom target.changed

variable {target : WalkTarget} {order : Int} {place : Place} {span : Span}

theorem describes_of_spanAt? (hspan : target.spanAt? order place = some span) :
    target.Describes place span := by
  have hstands := standsAt_of_spanAt? hspan
  obtain ⟨declaration, hdeclaration, rfl, hcovers⟩ := exists_of_spanAt? hspan
  exact ⟨by rw [hdeclaration, Option.map_some], rfl, hstands, rfl, hcovers⟩

theorem meets_of_spanAt? (hspan : target.spanAt? order place = some span) :
    target.meets place = true := by
  obtain ⟨hkind, -, ⟨hfirst, hlast⟩, hcut⟩ := describes_of_spanAt? hspan
  obtain ⟨line, hline⟩ := hcut.covers
  obtain ⟨hchanged, hfrom, hto⟩ := hcut.mem_covered.mp hline
  have hdeclares : (place.declaration? target.family).isSome = true := by
    cases hdeclaration : place.declaration? target.family with
    | none => simp [hdeclaration] at hkind
    | some declaration => rfl
  rw [meets, hdeclares, Bool.true_and, List.any_eq_true]
  refine ⟨line, hchanged, ?_⟩
  simp only [Bool.and_eq_true, decide_eq_true_eq]
  omega

theorem meets_eq_false_of_spanAt? (hnone : target.spanAt? order place = none) :
    target.meets place = false := by
  unfold spanAt? at hnone
  unfold meets
  cases hdeclaration : place.declaration? target.family with
  | none => rfl
  | some declaration =>
    simp only [hdeclaration] at hnone
    split at hnone
    · rename_i hempty
      rw [Option.isSome_some, Bool.true_and, List.any_eq_false]
      intro line hline hwithin
      simp only [Bool.and_eq_true, decide_eq_true_eq] at hwithin
      have hmem : line ∈ target.changed.between (place.rowRange.1 + 1 + target.offset)
          (place.rowRange.2 + 1 + target.offset) :=
        LineSet.mem_between.mpr ⟨hline, hwithin⟩
      have hfull := LineSet.isEmpty_eq_false.mpr ⟨line, hmem⟩
      rw [hempty] at hfull
      cases hfull
    · cases hnone

end WalkTarget

/-- A walk that goes along some listed places, with the number of nodes visited before. -/
structure Walk.GoesAlong (target : WalkTarget) (limits : WalkLimits) (visited : Nat)
    (listed : List Pending) (walk : Walk) : Prop where
  visited_eq : walk.visited = visited + ((limits.less visited).ending listed).1
  stop_eq : walk.stop = ((limits.less visited).ending listed).2
  describes : List.Forall₂ target.Describes
    (((listed.take ((limits.less visited).ending listed).1).map Pending.place).filter target.meets)
    walk.spans

namespace Walk.GoesAlong

variable {target : WalkTarget} {limits : WalkLimits} {visited : Nat} {order : Int}
  {pending : Pending} {rest listed : List Pending} {walk : Walk}

theorem stopped {stop : Option WalkStop}
    (hending : (limits.less visited).ending listed = (0, stop)) :
    Walk.GoesAlong target limits visited listed ⟨[], visited, stop⟩ := by
  constructor
  · rw [hending]
    rfl
  · rw [hending]
  · rw [hending]
    exact .nil

theorem found {span : Span}
    (halong : walk.GoesAlong target limits (visited + 1) rest)
    (hdepth : ¬ limits.maxDepth < pending.depth)
    (hleft : ¬ limits.maxNodes ≤ visited)
    (hspan : target.spanAt? order pending.place = some span) :
    Walk.GoesAlong target limits visited (pending :: rest)
      { walk with spans := span :: walk.spans } := by
  obtain ⟨hvisited, hstop, hdescribes⟩ := halong
  have hending := WalkLimits.ending_visit rest hdepth hleft
  constructor
  · rw [hending, hvisited]
    omega
  · rw [hending]
    exact hstop
  · rw [hending, List.take_succ_cons, List.map_cons,
      List.filter_cons_of_pos (WalkTarget.meets_of_spanAt? hspan)]
    exact .cons (WalkTarget.describes_of_spanAt? hspan) hdescribes

theorem passed
    (halong : walk.GoesAlong target limits (visited + 1) rest)
    (hdepth : ¬ limits.maxDepth < pending.depth)
    (hleft : ¬ limits.maxNodes ≤ visited)
    (hnone : target.spanAt? order pending.place = none) :
    walk.GoesAlong target limits visited (pending :: rest) := by
  obtain ⟨hvisited, hstop, hdescribes⟩ := halong
  have hending := WalkLimits.ending_visit rest hdepth hleft
  have hmisses : ¬ target.meets pending.place = true := by
    simp [WalkTarget.meets_eq_false_of_spanAt? hnone]
  constructor
  · rw [hending, hvisited]
    omega
  · rw [hending]
    exact hstop
  · rw [hending, List.take_succ_cons, List.map_cons, List.filter_cons_of_neg hmisses]
    exact hdescribes

end Walk.GoesAlong

theorem goesAlong_walkFrom {target : WalkTarget} {limits : WalkLimits} {visited : Nat}
    {order : Int} {stack : List Pending}
    (hnodes : visited ≤ limits.maxNodes) :
    (walkFrom target limits visited order stack).GoesAlong target limits visited
      (stack.flatMap Pending.preorder) := by
  have hspare {count : Nat} (hcount : count ≤ limits.maxNodes) :
      0 ≤ (limits.less count).maxNodes := by
    simp only [WalkLimits.less]
    omega
  fun_induction walkFrom target limits visited order stack with
  | case1 visited order => exact .stopped (WalkLimits.ending_nil (hspare hnodes))
  | case2 visited order pending rest hdeep =>
    rw [Pending.flatMap_preorder_cons]
    exact .stopped (WalkLimits.ending_of_deep hdeep (hspare hnodes))
  | case3 visited order pending rest hdepth hspent =>
    have hzero : (limits.less visited).maxNodes = 0 := by
      simp only [WalkLimits.less]
      omega
    rw [Pending.flatMap_preorder_cons]
    exact .stopped (WalkLimits.ending_of_spent hdepth hzero)
  | case4 visited order pending rest hdepth hleft span hspan walk ih =>
    rw [Pending.flatMap_preorder_cons]
    exact (ih (by omega)).found hdepth hleft hspan
  | case5 visited order pending rest hdepth hleft hnone ih =>
    rw [Pending.flatMap_preorder_cons]
    exact (ih (by omega)).passed hdepth hleft hnone

/-- The walk over a tree goes along its pre-order from the root on. Its spans are those of the
declarations around changed lines that it visits, numbered one after another. -/
theorem collectSpans_follows_preorder {target : WalkTarget} {limits : WalkLimits}
    {orderStart : Int} {root : Node}
    (hchanged : target.changed.isEmpty = false)
    (hnodes : 0 ≤ limits.maxNodes) :
    ((collectSpans target limits orderStart root).visited,
        (collectSpans target limits orderStart root).stop) =
          limits.ending (root.preorder [] 1) ∧
      List.Forall₂ target.Describes
        ((((root.preorder [] 1).take (collectSpans target limits orderStart root).visited).map
          Pending.place).filter target.meets)
        (collectSpans target limits orderStart root).spans ∧
      (collectSpans target limits orderStart root).spans.map Span.order =
        (List.range (collectSpans target limits orderStart root).spans.length).map
          fun index : Nat => orderStart + (index : Int) := by
  have hlisted : [(⟨Place.root root, 1⟩ : Pending)].flatMap Pending.preorder =
      root.preorder [] 1 := by
    simp [Pending.preorder, Place.root]
  have halong : (collectSpans target limits orderStart root).GoesAlong target limits 0
      (root.preorder [] 1) := by
    rw [collectSpans, hchanged, ← hlisted]
    exact goesAlong_walkFrom (by omega)
  obtain ⟨hvisited, hstop, hdescribes⟩ := halong
  rw [WalkLimits.less_zero, Nat.zero_add] at hvisited
  rw [WalkLimits.less_zero] at hstop hdescribes
  rw [← hvisited] at hdescribes
  refine ⟨?_, hdescribes, (isSound_collectSpans target limits orderStart root).orders⟩
  rw [hvisited, hstop]

namespace DecoratedFunction

def function : Node :=
  .node ⟨"function_definition", some "definition", true, 1, 2, 6, 26⟩
    [.node ⟨"def", none, false, 1, 1, 6, 9⟩ [],
      .node ⟨"identifier", some "name", true, 1, 1, 10, 11⟩ [],
      .node ⟨"block", some "body", true, 2, 2, 19, 26⟩ []]

def decorated : Node :=
  .node ⟨"decorated_definition", none, true, 0, 2, 0, 26⟩
    [.node ⟨"decorator", none, true, 0, 0, 0, 5⟩ [], function]

/-- A decorated function and a call behind it. -/
def tree : Node :=
  .node ⟨"module", none, true, 0, 3, 0, 30⟩
    [decorated, .node ⟨"expression_statement", none, true, 3, 3, 27, 30⟩ []]

def target : WalkTarget :=
  ⟨.python, Text.Utf8.encode "@memo\ndef f():\n    return 1\nf()", 0, LineSet.ofList [1, 4]⟩

/-- The nodes are used up just where the first place lies too deep. -/
def limits : WalkLimits :=
  ⟨3, 4⟩

def place : Place :=
  ⟨function, [decorated, tree]⟩

theorem ending_eq : limits.ending (tree.preorder [] 1) = (4, some .depth) := by
  decide +kernel

theorem visited_eq :
    (((tree.preorder [] 1).take 4).map Pending.place).filter target.meets = [place] := by
  rfl

end DecoratedFunction

theorem decoratedFunction_follows_preorder :
    (collectSpans DecoratedFunction.target DecoratedFunction.limits 7
        DecoratedFunction.tree).stop = some .depth ∧
      List.Forall₂ DecoratedFunction.target.Describes [DecoratedFunction.place]
        (collectSpans DecoratedFunction.target DecoratedFunction.limits 7
          DecoratedFunction.tree).spans ∧
      (collectSpans DecoratedFunction.target DecoratedFunction.limits 7
        DecoratedFunction.tree).spans.map Span.order = [7] := by
  obtain ⟨hending, hdescribes, horders⟩ :=
    @collectSpans_follows_preorder DecoratedFunction.target DecoratedFunction.limits 7
      DecoratedFunction.tree (by decide) (by decide)
  rw [DecoratedFunction.ending_eq, Prod.mk.injEq] at hending
  obtain ⟨hvisited, hstop⟩ := hending
  rw [hvisited, DecoratedFunction.visited_eq] at hdescribes
  have hlength : (collectSpans DecoratedFunction.target DecoratedFunction.limits 7
      DecoratedFunction.tree).spans.length = 1 := hdescribes.length_eq.symm
  refine ⟨hstop, hdescribes, ?_⟩
  rw [horders, hlength]
  rfl

end ReviewContext
