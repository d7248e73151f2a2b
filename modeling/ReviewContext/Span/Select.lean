import ReviewContext.Span.Basic

/-!
# Selecting the smallest spans

Spans are considered from the smallest to the largest; ties go to the earlier first line, then to
the earlier order. A span is accepted when it covers a line that no earlier accepted span covered
and no accepted span contains it. Accepting a span drops the accepted ones that it contains. The
result is sorted by first line.
-/

namespace ReviewContext

namespace Span

/-- Smaller spans first, then earlier ones. -/
def sizeOrder (a b : Span) : Bool :=
  a.size < b.size ||
    (a.size == b.size && (a.first < b.first || (a.first == b.first && a.order ≤ b.order)))

/-- Earlier first lines first, then the order of discovery. -/
def lineOrder (a b : Span) : Bool :=
  a.first < b.first || (a.first == b.first && a.order ≤ b.order)

/-- Accepted spans, and the lines that they or dropped ones cover. -/
structure Selection where
  accepted : List Span
  covered : List Int

namespace Selection

def refuses (selection : Selection) (span : Span) : Bool :=
  span.covered.isCoveredBy selection.covered ||
    selection.accepted.any fun other => other.contains span

def consider (selection : Selection) (span : Span) : Selection :=
  if selection.refuses span then selection
  else
    ⟨(selection.accepted.filter fun other => !span.contains other) ++ [span],
      span.covered.toList ++ selection.covered⟩

end Selection

def selectMinimal (spans : List Span) : List Span :=
  ((spans.mergeSort sizeOrder).foldl Selection.consider ⟨[], []⟩).accepted.mergeSort lineOrder

end Span

end ReviewContext
