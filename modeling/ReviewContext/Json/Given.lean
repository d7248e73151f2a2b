import ReviewContext.Json.Value

/-!
# Given values

What is given for a name or a number: a value, or a blank. A blank was given like any value, but it
is none: it is shown as an empty list, and nothing can be computed from it.
-/

namespace ReviewContext

inductive Given (α : Type) where
  | filled (value : α)
  | blank
  deriving DecidableEq, Repr

namespace Given

variable {α : Type}

def value? : Given α → Option α
  | filled value => some value
  | blank => none

def getD (given : Given α) (default : α) : α :=
  given.value?.getD default

def isBlank : Given α → Bool
  | filled _ => false
  | blank => true

/-- A given text as messages show it. -/
def shown : Given String → String
  | filled text => text
  | blank => "[]"

def toJson : Given String → Json
  | filled text => .text text
  | blank => .list []

def optionalJson : Option (Given String) → Json
  | some given => given.toJson
  | none => .null

end Given

end ReviewContext
