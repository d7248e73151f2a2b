/-!
# JSON values

Values with integers as their only numbers. An object keeps its members in the order given.
-/

namespace ReviewContext

inductive Json where
  | null
  | bool (value : Bool)
  | int (value : Int)
  | text (value : String)
  | list (items : List Json)
  | object (members : List (String × Json))
  deriving Inhabited

namespace Json

def optionalText : Option String → Json
  | some value => .text value
  | none => .null

end Json

end ReviewContext
