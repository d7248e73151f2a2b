import ReviewContext.Diff.Record
import ReviewContext.Text.Rows

/-!
# The numbered view of a diff

The numbered view shows each record on a row of its own: a sign for its kind, its numbers in
brackets as far as they are known and not zero, and the row itself. A view of a line range shows
the rows whose new number lies in the range, widened by some lines of context.
-/

namespace ReviewContext.Diff

open ReviewContext.Text

def Kind.sign : Kind → Char
  | .added => '+'
  | .removed => '-'
  | .context => ' '

namespace Record

/-- The numbers that the view shows for a record: an old one and a new one. -/
def shownNumbers (record : Record) : Option Int × Option Int :=
  match record.kind with
  | .added => (none, record.shownNew?)
  | .removed => (record.shownOld?, none)
  | .context =>
    match record.shownNew? with
    | some new => (record.shownOld?, some new)
    | none => (none, none)

def numberMark : Option Int × Option Int → List Char
  | (some old, some new) =>
    '[' :: integerDigits old ++ ['-', '>'] ++ integerDigits new ++ [']', ' ']
  | (some n, none) => '[' :: integerDigits n ++ [']', ' ']
  | (none, some n) => '[' :: integerDigits n ++ [']', ' ']
  | (none, none) => []

def numberedRow (record : Record) : String :=
  String.ofList
    (record.kind.sign :: numberMark record.shownNumbers ++ record.content.toList)

/-- Whether the numbers shown for the record can be written. -/
def hasWritableNumbers (record : Record) : Bool :=
  record.shownNumbers.1.all isWritable && record.shownNumbers.2.all isWritable

end Record

namespace FileDiff

def numberedText (diff : FileDiff) : String :=
  joinRows (diff.records.map Record.numberedRow)

/-- The numbered view, unless one of its numbers cannot be written. -/
def numbered (diff : FileDiff) : Except NumeralFault String :=
  if diff.records.all Record.hasWritableNumbers then .ok diff.numberedText
  else .error .tooLongToWrite

def isInRange (first last : Int) (record : Record) : Bool :=
  record.shownNew?.any fun n => first ≤ n && n ≤ last

/-- The rows with a new number from the first to the last line, context lines added on both sides
and lines in front of the first one left out. -/
def lineRange (diff : FileDiff) (first last contextLines : Int) : String :=
  joinRows
    ((diff.records.filter
      (isInRange (max 1 (first - contextLines)) (last + contextLines))).map Record.content)

end FileDiff

end ReviewContext.Diff
