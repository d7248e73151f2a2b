import ReviewContext.Span.Basic
import ReviewContext.Tree.Declaration

/-!
# Collecting the spans around changed lines

The walk visits the named nodes of a tree, each node before its children, and keeps the span of
every declaration that covers a changed line. It carries the places still to visit with their
depths, the root at depth one, and stops early at a place that lies too deep or when enough nodes
have been visited; what it found until then stays.
-/

namespace ReviewContext

/-- Why a walk stopped early. -/
inductive WalkStop where
  | depth
  | nodes
  deriving DecidableEq, Repr

structure Walk where
  spans : List Span
  visited : Nat
  stop : Option WalkStop
  deriving DecidableEq

def Walk.isComplete (walk : Walk) : Bool :=
  walk.stop.isNone

structure WalkLimits where
  maxDepth : Int
  maxNodes : Int
  deriving DecidableEq, Repr

/-- What a walk looks for: declarations of a family around changed lines, where the first row of
the tree is the line after the offset. -/
structure WalkTarget where
  family : Family
  bytes : List UInt8
  offset : Int
  changed : LineSet

namespace WalkTarget

/-- The span of a place if it declares something around a changed line. -/
def spanAt? (target : WalkTarget) (order : Int) (place : Place) : Option Span :=
  match place.declaration? target.family with
  | none => none
  | some declaration =>
    let first := (place.rowRange.1 : Int) + 1 + target.offset
    let last := (place.rowRange.2 : Int) + 1 + target.offset
    let covered := target.changed.between first last
    if covered.isEmpty then none
    else some ⟨first, last, declaration.name, some (place.name target.bytes), covered, order⟩

end WalkTarget

/-- A place still to visit and its depth. -/
structure Pending where
  place : Place
  depth : Int

namespace Pending

def children (pending : Pending) : List Pending :=
  pending.place.namedChildren.map fun place => ⟨place, pending.depth + 1⟩

def weight (stack : List Pending) : Nat :=
  Node.sizeAll (stack.map fun pending => pending.place.node)

theorem weight_children_append_lt (pending : Pending) (rest : List Pending) :
    weight (pending.children ++ rest) < weight (pending :: rest) := by
  have hnodes :
      (pending.children.map fun entry => entry.place.node) =
        pending.place.node.namedChildren := by
    simp [children, Place.namedChildren, Place.below, Function.comp_def]
  have hlt := Node.sizeAll_namedChildren_lt pending.place.node
  simp only [weight, List.map_append, Node.sizeAll_append, hnodes, List.map_cons, Node.sizeAll]
  omega

end Pending

/-- Walks the pending places in order. -/
def walkFrom (target : WalkTarget) (limits : WalkLimits) (visited : Nat) (order : Int) :
    List Pending → Walk
  | [] => ⟨[], visited, none⟩
  | pending :: rest =>
    if limits.maxDepth < pending.depth then ⟨[], visited, some .depth⟩
    else if limits.maxNodes ≤ visited then ⟨[], visited, some .nodes⟩
    else
      match target.spanAt? order pending.place with
      | some span =>
        let walk := walkFrom target limits (visited + 1) (order + 1) (pending.children ++ rest)
        { walk with spans := span :: walk.spans }
      | none => walkFrom target limits (visited + 1) order (pending.children ++ rest)
  termination_by stack => Pending.weight stack
  decreasing_by all_goals exact Pending.weight_children_append_lt pending rest

/-- The walk over a whole tree; without changed lines nothing is visited. -/
def collectSpans (target : WalkTarget) (limits : WalkLimits) (orderStart : Int) (root : Node) :
    Walk :=
  if target.changed.isEmpty then ⟨[], 0, none⟩
  else walkFrom target limits 0 orderStart [⟨Place.root root, 1⟩]

end ReviewContext
