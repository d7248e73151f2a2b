import ReviewContext.Block.Basic
import ReviewContext.Span.Basic
import ReviewContext.Text.Slice

/-!
# Windows around changed lines

A long span is shown by windows: the lines within some radius of a changed line. Windows that touch
or overlap are one window. Between windows, and at both ends of the span, a marker tells how many
lines are left out. If the rows are still too many, the first ones are kept and a last marker tells
how many changed lines went missing.
-/

namespace ReviewContext

open ReviewContext.Text

/-- Merges the windows of ascending lines into an open window. -/
def mergeInto (radius first last : Int) : List Int → List (Int × Int)
  | [] => [(first, last)]
  | line :: rest =>
    if line - radius ≤ last + 1 then mergeInto radius first (max last (line + radius)) rest
    else (first, last) :: mergeInto radius (line - radius) (line + radius) rest

/-- The merged windows of some lines in any order. -/
def mergeWindows (lines : List Int) (radius : Int) : List (Int × Int) :=
  match lines.mergeSort (fun a b => decide (a ≤ b)) with
  | [] => []
  | line :: rest => mergeInto radius (line - radius) (line + radius) rest

/-- A row of a windowed block. -/
inductive WindowRow where
  | source (text : String) (line : Int)
  | omitted (count : Int)
  | capped (maxLines : Int) (dropped : Nat)
  deriving DecidableEq, Repr

namespace WindowRow

def line? : WindowRow → Option Int
  | source _ line => some line
  | _ => none

def render (family : Family) : WindowRow → String
  | source text _ => text
  | omitted count => Marker.comment family (Marker.omitted count)
  | capped maxLines dropped => Marker.comment family (Marker.capped maxLines dropped)

def isWritable : WindowRow → Bool
  | omitted count => Text.isWritable count
  | _ => true

end WindowRow

namespace Span

/-- The windows around the covered lines, cut to the span. -/
def windows (span : Span) (radius : Int) : List (Int × Int) :=
  ((mergeWindows span.covered.toList radius).map fun (first, last) =>
    (max span.first first, min span.last last)).filter fun (first, last) => first ≤ last

def sourceRows (lines : List String) (first last : Int) : List WindowRow :=
  (slice lines (first - 1) last).zipIdx.map fun (text, index) => .source text (first + index)

/-- A marker for the lines from a cursor up to a line, unless there are none. -/
def gapRows (cursor next : Int) : List WindowRow :=
  if cursor < next then [.omitted (next - cursor)] else []

/-- The rows from a cursor on: the remaining windows with markers around them. -/
def skeletonFrom (lines : List String) (last cursor : Int) : List (Int × Int) → List WindowRow
  | [] => gapRows cursor (last + 1)
  | (first, stop) :: rest =>
    gapRows cursor first ++ sourceRows lines first stop ++
      skeletonFrom lines last (stop + 1) rest

/-- All rows of the windowed span. -/
def windowRows (span : Span) (lines : List String) (radius : Int) : List WindowRow :=
  skeletonFrom lines span.last span.first (span.windows radius)

/-- The covered lines that no row shows. -/
def droppedCount (span : Span) (rows : List WindowRow) : Nat :=
  (span.covered.filter fun line => !(rows.filterMap WindowRow.line?).contains line).size

/-- The rows, or the first of them and a marker if they are more than allowed. -/
def capRows (span : Span) (maxLines : Int) (rows : List WindowRow) : List WindowRow :=
  if maxLines < rows.length then
    let kept := rows.take (maxLines - 1).toNat
    kept ++ [.capped maxLines (span.droppedCount kept)]
  else rows

/-- The code of the windowed span. -/
def windowed (span : Span) (lines : List String) (radius maxLines : Int) (family : Family) :
    String :=
  joinRows
    ((span.capRows maxLines (span.windowRows lines radius)).map (WindowRow.render family))

/-- Whether all counts of left-out lines can be written. -/
def hasWritableGaps (span : Span) (lines : List String) (radius : Int) : Bool :=
  (span.windowRows lines radius).all WindowRow.isWritable

end Span

end ReviewContext
