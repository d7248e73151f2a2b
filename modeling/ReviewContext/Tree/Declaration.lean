import ReviewContext.Grammar.Basic
import ReviewContext.Text.Utf8
import ReviewContext.Tree.Node

/-!
# Declarations in a syntax tree

Some nodes declare a function, a class or a method. The family of the grammar says which tags do;
two of them also look around: a Python function directly in the body of a class is a method, and a
Go type counts only as a struct or an interface. The rows of a declaration reach up to its
decorators. Its name is its own, or that of the variable, property or target to which it belongs.
-/

namespace ReviewContext

inductive Declaration where
  | function
  | type
  | method
  deriving DecidableEq, Repr

def Declaration.name : Declaration → String
  | .function => "function"
  | .type => "class"
  | .method => "method"

namespace Declaration

def ofJavascriptTag? : String → Option Declaration
  | "function_declaration" | "generator_function_declaration" | "function_expression"
  | "function" | "generator_function" | "arrow_function" => some .function
  | "class_declaration" | "class" => some .type
  | "method_definition" | "field_definition" => some .method
  | _ => none

def ofTypescriptTag? : String → Option Declaration
  | "abstract_class_declaration" => some .type
  | "public_field_definition" => some .method
  | tag => ofJavascriptTag? tag

def ofPythonTag? : String → Option Declaration
  | "function_definition" => some .function
  | "class_definition" => some .type
  | _ => none

def ofGoTag? : String → Option Declaration
  | "function_declaration" | "func_literal" => some .function
  | "method_declaration" => some .method
  | "type_spec" => some .type
  | _ => none

def ofTag? : Family → String → Option Declaration
  | .javascript => ofJavascriptTag?
  | .typescript => ofTypescriptTag?
  | .python => ofPythonTag?
  | .go => ofGoTag?
  | .unknown => fun _ => none

end Declaration

namespace Place

def decoratorTag : String := "decorated_definition"

/-- The ancestors of a definition beyond the one that holds its decorators. -/
def undecoratedAncestors (place : Place) : List Node :=
  match place.ancestors with
  | parent :: above => if parent.tag = decoratorTag then above else parent :: above
  | [] => []

/-- Whether the place lies directly in the body of a Python class. -/
def isInClassBody (place : Place) : Bool :=
  match place.undecoratedAncestors with
  | body :: owner :: _ => body.tag == "block" && owner.tag == "class_definition"
  | _ => false

/-- Whether a Go type declaration has members. -/
def hasMembers (place : Place) : Bool :=
  (place.node.childByField? "type").any fun body =>
    body.tag == "struct_type" || body.tag == "interface_type"

def declaration? (family : Family) (place : Place) : Option Declaration :=
  match Declaration.ofTag? family place.node.tag with
  | none => none
  | some declaration =>
    if family = .python ∧ declaration = .function ∧ place.isInClassBody then some .method
    else if family = .go ∧ declaration = .type ∧ !place.hasMembers then none
    else some declaration

/-- The first and last row, counted from zero, decorators included. -/
def rowRange (place : Place) : Nat × Nat :=
  match place.ancestors with
  | parent :: _ =>
    if parent.tag = decoratorTag then (parent.label.startRow, place.node.label.endRow)
    else (place.node.label.startRow, place.node.label.endRow)
  | [] => (place.node.label.startRow, place.node.label.endRow)

end Place

open ReviewContext.Text

namespace Node

/-- The text of a node, ill-formed bytes replaced. -/
def text (bytes : List UInt8) (node : Node) : List Char :=
  Utf8.decodeLeniently ((bytes.take node.label.endByte).drop node.label.startByte)

def isQuoteMark (c : Char) : Bool :=
  c.toNat == 0x22 || c.toNat == 0x27

/-- The text of a node without quotes around it. -/
def unquotedText (bytes : List UInt8) (node : Node) : List Char :=
  let behind := (node.text bytes).dropWhile isQuoteMark
  (behind.reverse.dropWhile isQuoteMark).reverse

end Node

namespace Place

/-- The name that a parent gives to a node. -/
def nameFromParent? (bytes : List UInt8) (parent : Node) : Option (List Char) :=
  match parent.tag with
  | "variable_declarator" => (parent.childByField? "name").map (Node.text bytes)
  | "pair" => (parent.childByField? "key").map (Node.unquotedText bytes)
  | "assignment_expression" | "assignment" => (parent.childByField? "left").map (Node.text bytes)
  | _ => none

/-- The name that a node gives to itself by a property. -/
def nameFromProperty? (bytes : List UInt8) (node : Node) : Option (List Char) :=
  ((node.childByField? "property").or (node.childByField? "key")).map (Node.unquotedText bytes)

def anonymous : List Char :=
  "anonymous".toList

def name (bytes : List UInt8) (place : Place) : String :=
  String.ofList
    ((((place.node.childByField? "name").map (Node.text bytes)).or
      ((place.parent?.bind (nameFromParent? bytes)).or
        (nameFromProperty? bytes place.node))).getD anonymous)

end Place

end ReviewContext
