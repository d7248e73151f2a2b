import ReviewContext.Diff.Record
import ReviewContext.Text.Blank
import ReviewContext.Text.Rows

/-!
# The rebuilt source

The added and unchanged lines of a diff, without their signs and without blank ones, give a source
text in which declarations can be looked for. A line map keeps the number that each of its lines
has in the new file, and leads back from a line of the source to a line of the file.
-/

namespace ReviewContext.Source

open ReviewContext.Text
open ReviewContext.Diff (Record FileDiff)

structure Rebuilt where
  text : String
  lineMap : List Int
  deriving DecidableEq, Repr

/-- A row of a diff without the sign in front. -/
def stripSign (content : String) : String :=
  match content.toList with
  | c :: rest => if c = '+' ∨ c = '-' ∨ c = ' ' then String.ofList rest else content
  | [] => content

/-- Whether a record contributes a line to the source. -/
def isSourceLine (record : Record) : Bool :=
  record.kind != .removed && !record.isUnlabeled && !record.isHeader &&
    !isBlank (stripSign record.content)

/-- The number of a record in the new file, or its display number. -/
def fileNumber (record : Record) : Int :=
  record.newNumber.getD record.displayNumber

/-- The source of some records, unless none of them contributes a line. -/
def rebuild? (records : List Record) : Option Rebuilt :=
  let kept := records.filter isSourceLine
  if kept.isEmpty then none
  else some ⟨joinRows (kept.map fun record => stripSign record.content), kept.map fileNumber⟩

namespace Rebuilt

def lines (source : Rebuilt) : List String :=
  rows source.text

/-- The file line of a source line, counted from one; lines outside the source take the number of
its nearest line. -/
def fileLine (source : Rebuilt) (line : Int) : Int :=
  source.lineMap.getD ((min (max line 1) source.lineMap.length - 1).toNat) 0

/-- The source lines, counted from one, whose file numbers belong to a set. -/
def sourceLinesFor (source : Rebuilt) (numbers : LineSet) : LineSet :=
  LineSet.ofList
    (source.lineMap.zipIdx.filterMap fun (number, index) =>
      if numbers.contains number then some (index + 1 : Int) else none)

end Rebuilt

end ReviewContext.Source
