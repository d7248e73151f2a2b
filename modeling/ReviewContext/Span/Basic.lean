import ReviewContext.LineSet

/-!
# Spans

A span is a range of lines that a declaration occupies, with the changed lines that it covers and
its place in the order in which declarations were met.
-/

namespace ReviewContext

structure Span where
  first : Int
  last : Int
  kind : String
  name : Option String
  covered : LineSet
  order : Int
  deriving DecidableEq

namespace Span

def size (span : Span) : Int :=
  span.last - span.first

def contains (span other : Span) : Bool :=
  span.first ≤ other.first && other.last ≤ span.last

end Span

end ReviewContext
