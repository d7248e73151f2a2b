import ReviewContext.Proofs.Span.Irredundance
import ReviewContext.Proofs.Span.LineSharing
import ReviewContext.Proofs.Span.Visited

/-!
# Nested declarations

In a tree with nested rows, the rows of a declaration hold those of every declaration below it.
This is also so where a declaration begins with its decorators, since they belong to a node that
lies below all nodes around the declaration. A selection has no span inside of another one, so it
never has a declaration and one of its descendants.
-/

namespace ReviewContext

/-! ## Rows of descendants -/

namespace Node

def HoldsRowsOf (outer inner : Node) : Prop :=
  outer.label.startRow ≤ inner.label.startRow ∧ inner.label.endRow ≤ outer.label.endRow

theorem haveNestedRows_iff {children : List Node} {parent : Label} :
    haveNestedRows children parent = true ↔
      ∀ child ∈ children,
        (parent.startRow ≤ child.label.startRow ∧ child.label.endRow ≤ parent.endRow) ∧
          child.hasNestedRows = true := by
  induction children with
  | nil => simp [haveNestedRows]
  | cons child rest ih => simp [haveNestedRows, ih]

theorem hasNestedRows_iff {node : Node} :
    node.hasNestedRows = true ↔
      ∀ child ∈ node.children, node.HoldsRowsOf child ∧ child.hasNestedRows = true := by
  cases node with
  | node label children => exact haveNestedRows_iff

end Node

namespace Place

/-- The upper place is an ancestor of the lower one. -/
def IsBelow (lower upper : Place) : Prop :=
  (upper.node :: upper.ancestors) <:+ lower.ancestors

/-- The rows of a place lie within those of its ancestors, as do the rows of each ancestor within
those of the ones above. -/
structure HasNestedRows (place : Place) : Prop where
  below : place.node.hasNestedRows = true
  above : (place.node :: place.ancestors).Pairwise fun inner outer => outer.HoldsRowsOf inner

theorem HasNestedRows.child {place child : Place}
    (hnested : place.HasNestedRows)
    (hchild : child ∈ place.namedChildren) :
    child.HasNestedRows := by
  obtain ⟨node, hnode, rfl⟩ := List.mem_map.mp hchild
  obtain ⟨⟨hstart, hend⟩, hbelow⟩ :=
    Node.hasNestedRows_iff.mp hnested.below node (List.mem_filter.mp hnode).1
  refine ⟨hbelow, List.pairwise_cons.mpr ⟨?_, hnested.above⟩⟩
  intro outer houter
  rcases List.mem_cons.mp houter with rfl | habove
  · exact ⟨hstart, hend⟩
  · obtain ⟨houterStart, houterEnd⟩ := (List.pairwise_cons.mp hnested.above).1 outer habove
    exact ⟨Nat.le_trans houterStart hstart, Nat.le_trans hend houterEnd⟩

theorem IsReachedIn.hasNestedRows {root : Node} {place : Place}
    (hreached : place.IsReachedIn root)
    (hroot : root.hasNestedRows = true) :
    place.HasNestedRows := by
  induction hreached with
  | root => exact ⟨hroot, List.pairwise_singleton _ _⟩
  | child _ hchild ih => exact ih.child hchild

theorem rowRange_snd (place : Place) : place.rowRange.2 = place.node.label.endRow := by
  unfold rowRange
  split
  · split <;> rfl
  · rfl

/-- A place begins with its node or with the node above it. -/
theorem rowRange_fst (place : Place) :
    place.rowRange.1 = place.node.label.startRow ∨
      ∃ parent, place.parent? = some parent ∧ place.rowRange.1 = parent.label.startRow := by
  unfold rowRange parent?
  split
  · rename_i parent above hancestors
    split
    · exact .inr ⟨parent, by rw [hancestors, List.head?_cons], rfl⟩
    · exact .inl rfl
  · exact .inl rfl

namespace HasNestedRows

variable {place lower upper : Place}

theorem rowRange_fst_le (hnested : place.HasNestedRows) :
    place.rowRange.1 ≤ place.node.label.startRow := by
  rcases place.rowRange_fst with heq | ⟨parent, hparent, heq⟩
  · exact Nat.le_of_eq heq
  · have hmem : parent ∈ place.ancestors := List.mem_of_mem_head? hparent
    rw [heq]
    exact ((List.pairwise_cons.mp hnested.above).1 parent hmem).1

/-- The first row of an ancestor does not lie behind that of a place, decorators included. -/
theorem startRow_le_of_isBelow
    (hnested : lower.HasNestedRows)
    (hbelow : lower.IsBelow upper) :
    upper.node.label.startRow ≤ lower.rowRange.1 := by
  have hupper : upper.node ∈ lower.ancestors := hbelow.subset List.mem_cons_self
  obtain ⟨hlower, habove⟩ := List.pairwise_cons.mp hnested.above
  rcases lower.rowRange_fst with heq | ⟨parent, hparent, heq⟩
  · rw [heq]
    exact (hlower upper.node hupper).1
  · obtain ⟨rest, hancestors⟩ := List.head?_eq_some_iff.mp hparent
    rw [hancestors] at hupper habove
    rw [heq]
    rcases List.mem_cons.mp hupper with hsame | hrest
    · rw [hsame]
    · exact ((List.pairwise_cons.mp habove).1 upper.node hrest).1

theorem rowRange_of_isBelow
    (hlower : lower.HasNestedRows)
    (hupper : upper.HasNestedRows)
    (hbelow : lower.IsBelow upper) :
    upper.rowRange.1 ≤ lower.rowRange.1 ∧ lower.rowRange.2 ≤ upper.rowRange.2 := by
  have hmem : upper.node ∈ lower.ancestors := hbelow.subset List.mem_cons_self
  constructor
  · exact Nat.le_trans hupper.rowRange_fst_le (hlower.startRow_le_of_isBelow hbelow)
  · rw [rowRange_snd, rowRange_snd]
    exact ((List.pairwise_cons.mp hlower.above).1 upper.node hmem).2

end HasNestedRows

end Place

/-! ## Spans of descendants -/

section Selected

variable {target : WalkTarget} {limits : WalkLimits} {orderStart : Int} {root : Node}

theorem contains_of_isBelow {inner outer : Span} {lower upper : Place}
    (hroot : root.hasNestedRows = true)
    (hinner : target.StemsFrom root inner lower)
    (houter : target.StemsFrom root outer upper)
    (hbelow : lower.IsBelow upper) :
    outer.contains inner = true := by
  obtain ⟨hinnerFirst, hinnerLast⟩ := WalkTarget.standsAt_of_spanAt? hinner.spanAt?
  obtain ⟨houterFirst, houterLast⟩ := WalkTarget.standsAt_of_spanAt? houter.spanAt?
  obtain ⟨hfirst, hlast⟩ := (hinner.reached.hasNestedRows hroot).rowRange_of_isBelow
    (houter.reached.hasNestedRows hroot) hbelow
  rw [Span.contains_iff]
  omega

/-- Every selected span stems from a place of the tree, and no two of them stem from places one of
which is an ancestor of the other. Still, they cover all lines that the collected spans cover. -/
theorem selected_spans_stem_apart (hroot : root.hasNestedRows = true) :
    (∀ span ∈ Span.selectMinimal (collectSpans target limits orderStart root).spans,
        ∃ place, target.StemsFrom root span place) ∧
      ((Span.selectMinimal (collectSpans target limits orderStart root).spans).Pairwise
        fun first second => ∀ place other,
          target.StemsFrom root first place → target.StemsFrom root second other →
            ¬ place.IsBelow other ∧ ¬ other.IsBelow place) ∧
      ∀ span ∈ (collectSpans target limits orderStart root).spans, ∀ line ∈ span.covered,
        ∃ other ∈ Span.selectMinimal (collectSpans target limits orderStart root).spans,
          line ∈ other.covered := by
  refine ⟨?_, ?_, ?_⟩
  · intro span hspan
    exact exists_stemsFrom_of_mem_collectSpans ((Span.subperm_selectMinimal _).subset hspan)
  · refine (Span.apart_selectMinimal _).imp ?_
    rintro first second ⟨hfirst, hsecond⟩ place other hplace hother
    constructor
    · intro hbelow
      rw [contains_of_isBelow hroot hplace hother hbelow] at hsecond
      cases hsecond
    · intro hbelow
      rw [contains_of_isBelow hroot hother hplace hbelow] at hfirst
      cases hfirst
  · intro span hspan line hline
    have hsound := isSound_collectSpans target limits orderStart root
    exact Span.exists_selected_covers hsound.cut hsound.nodup_orders hspan hline

end Selected

/-! ## A decorated class -/

namespace DecoratedClass

def method : Node :=
  .node ⟨"function_definition", some "definition", true, 3, 4, 19, 33⟩
    [.node ⟨"identifier", some "name", true, 3, 3, 23, 24⟩ [],
      .node ⟨"block", some "body", true, 4, 4, 32, 33⟩ []]

def body : Node :=
  .node ⟨"block", some "body", true, 2, 5, 14, 37⟩
    [.node ⟨"decorated_definition", none, true, 2, 4, 14, 33⟩
        [.node ⟨"decorator", none, true, 2, 2, 14, 16⟩ [], method],
      .node ⟨"expression_statement", none, true, 5, 5, 36, 37⟩ []]

def owner : Node :=
  .node ⟨"class_definition", some "definition", true, 1, 5, 3, 37⟩
    [.node ⟨"identifier", some "name", true, 1, 1, 9, 10⟩ [], body]

def function : Node :=
  .node ⟨"function_definition", none, true, 6, 7, 38, 50⟩
    [.node ⟨"identifier", some "name", true, 6, 6, 42, 43⟩ [],
      .node ⟨"block", some "body", true, 7, 7, 49, 50⟩ []]

def decorated : Node :=
  .node ⟨"decorated_definition", none, true, 0, 5, 0, 37⟩
    [.node ⟨"decorator", none, true, 0, 0, 0, 2⟩ [], owner]

/-- A decorated class with a decorated method and a statement, and a function behind it. -/
def tree : Node :=
  .node ⟨"module", none, true, 0, 7, 0, 50⟩ [decorated, function]

/-- The changed lines: the body of the method, the statement and the body of the function. -/
def target : WalkTarget :=
  ⟨.python, Text.Utf8.encode "@a\nclass C:\n  @b\n  def f():\n    x\n  y\ndef g():\n  z", 0,
    LineSet.ofList [5, 6, 8]⟩

def limits : WalkLimits :=
  ⟨60, 200000⟩

def ownerSpan : Span :=
  ⟨1, 6, "class", some "C", LineSet.ofList [5, 6], 0⟩

def functionSpan : Span :=
  ⟨7, 8, "function", some "g", LineSet.ofList [8], 2⟩

theorem selected_eq :
    Span.selectMinimal (collectSpans target limits 0 tree).spans = [ownerSpan, functionSpan] := by
  have hspans : (collectSpans target limits 0 tree).spans =
      [ownerSpan, ⟨3, 5, "method", some "f", LineSet.ofList [5], 1⟩, functionSpan] := by
    decide +kernel
  rw [hspans]
  cbv

theorem stemsFrom_owner : target.StemsFrom tree ownerSpan ⟨owner, [decorated, tree]⟩ := by
  have hdecorated : Place.IsReachedIn tree ⟨decorated, [tree]⟩ := .child .root List.mem_cons_self
  exact ⟨.child hdecorated (List.mem_cons_of_mem _ List.mem_cons_self), by decide +kernel⟩

end DecoratedClass

/-- The class is selected for its statement, and the other selected span stems from no place in
the class. -/
theorem decoratedClass_stems_apart :
    DecoratedClass.tree.hasNestedRows = true ∧
      (∃ place, DecoratedClass.target.StemsFrom DecoratedClass.tree DecoratedClass.functionSpan
        place) ∧
      ∀ place,
        DecoratedClass.target.StemsFrom DecoratedClass.tree DecoratedClass.functionSpan place →
          ¬ place.IsBelow
            ⟨DecoratedClass.owner, [DecoratedClass.decorated, DecoratedClass.tree]⟩ := by
  have hroot : DecoratedClass.tree.hasNestedRows = true := by decide
  obtain ⟨hstem, hapart, -⟩ :=
    @selected_spans_stem_apart DecoratedClass.target DecoratedClass.limits 0 DecoratedClass.tree
      hroot
  rw [DecoratedClass.selected_eq] at hstem hapart
  have hpair := List.rel_of_pairwise_cons hapart (List.mem_singleton.mpr rfl)
  refine ⟨hroot, hstem DecoratedClass.functionSpan (by simp), ?_⟩
  intro place hplace
  exact (hpair _ _ DecoratedClass.stemsFrom_owner hplace).2

end ReviewContext
