/-!
# Syntax trees

A node has a label and its children in order. The label gives the node's tag, the field that it
fills in its parent, whether it is named, its first and last row, counted from zero, and where its
bytes start and end in the source; that an end is not in front of its start is not required. A place
is a node together with its ancestors, nearest first, so that questions about parents need no links
upwards.

A tree can be listed as rows, each with the index of its parent among the earlier rows.
-/

namespace ReviewContext

structure Label where
  tag : String
  field : Option String
  named : Bool
  startRow : Nat
  endRow : Nat
  startByte : Nat
  endByte : Nat
  deriving DecidableEq, Repr

inductive Node where
  | node (label : Label) (children : List Node)

namespace Node

def label : Node → Label
  | node label _ => label

def children : Node → List Node
  | node _ children => children

def tag (node : Node) : String :=
  node.label.tag

def namedChildren (node : Node) : List Node :=
  node.children.filter fun child => child.label.named

/-- The first child that fills a field. -/
def childByField? (node : Node) (field : String) : Option Node :=
  node.children.find? fun child => child.label.field == some field

mutual

def size : Node → Nat
  | node _ children => 1 + sizeAll children

def sizeAll : List Node → Nat
  | [] => 0
  | child :: rest => child.size + sizeAll rest

end

theorem sizeAll_append (left right : List Node) :
    sizeAll (left ++ right) = sizeAll left + sizeAll right := by
  induction left with
  | nil => simp [sizeAll]
  | cons child rest ih => simp [sizeAll, ih, Nat.add_assoc]

theorem sizeAll_filter_le (keep : Node → Bool) (nodes : List Node) :
    sizeAll (nodes.filter keep) ≤ sizeAll nodes := by
  induction nodes with
  | nil => simp [sizeAll]
  | cons child rest ih =>
    by_cases h : keep child = true
    · simp only [List.filter_cons_of_pos h, sizeAll]
      omega
    · simp only [List.filter_cons_of_neg h, sizeAll]
      omega

theorem sizeAll_namedChildren_lt (node : Node) :
    sizeAll node.namedChildren < node.size := by
  cases node with
  | node label children =>
    have h := sizeAll_filter_le (fun child => child.label.named) children
    simp only [namedChildren, Node.children, size]
    omega

/-- Whether a tree tells anything about its text: its root is no error, and some named child of
the root is none. -/
def isUsable (root : Node) : Bool :=
  root.tag != "ERROR" && root.namedChildren.any fun child => child.tag != "ERROR"

end Node

structure Place where
  node : Node
  ancestors : List Node

namespace Place

def root (node : Node) : Place :=
  ⟨node, []⟩

def parent? (place : Place) : Option Node :=
  place.ancestors.head?

def below (place : Place) (child : Node) : Place :=
  ⟨child, place.node :: place.ancestors⟩

def namedChildren (place : Place) : List Place :=
  place.node.namedChildren.map place.below

end Place

/-- A row of a listed tree. -/
structure ListedNode where
  parent : Option Nat
  label : Label

namespace ListedNode

/-- The subtree at each row, children in the order of their rows. -/
def subtrees (rows : List ListedNode) : List Node :=
  (rows.zipIdx.foldr
    (fun (row, index) (waiting, nodes) =>
      let node := Node.node row.label (waiting.getD index [])
      (match row.parent with
        | some parent => waiting.modify parent (node :: ·)
        | none => waiting,
        node :: nodes))
    (Array.replicate rows.length ([] : List Node), ([] : List Node))).2

def tree? (rows : List ListedNode) : Option Node :=
  (subtrees rows).head?

/-- The place of each row. -/
def places (rows : List ListedNode) : List Place :=
  ((rows.zip (subtrees rows)).foldl
    (fun (found : Array Place) (row, node) =>
      let ancestors :=
        match row.parent.bind fun parent => found[parent]? with
        | some place => place.node :: place.ancestors
        | none => []
      found.push ⟨node, ancestors⟩)
    #[]).toList

end ListedNode

end ReviewContext
