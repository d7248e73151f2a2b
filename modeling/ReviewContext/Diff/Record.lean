import ReviewContext.Diff.Header
import ReviewContext.LineSet

/-!
# Records of a diff

Each row of a diff gives one record: the row, what it does to the file, and its numbers in the old
and the new file as far as it has them. The display number of a record is its new number when it
has one, else its old one, and a best guess for rows that belong to neither file.
-/

namespace ReviewContext.Diff

inductive Kind where
  | added
  | removed
  | context
  deriving DecidableEq, Repr

def Kind.name : Kind → String
  | .added => "added"
  | .removed => "removed"
  | .context => "context"

structure Record where
  content : String
  kind : Kind
  oldNumber : Option Int
  newNumber : Option Int
  displayNumber : Int
  deriving DecidableEq, Repr

namespace Record

def isHeader (record : Record) : Bool :=
  Diff.isHeader record.content

/-- Whether the record is context without a number in either file. -/
def isUnlabeled (record : Record) : Bool :=
  record.oldNumber.isNone && record.newNumber.isNone && record.kind == .context

/-- The new number unless it is missing or zero. -/
def shownNew? (record : Record) : Option Int :=
  record.newNumber.filter (· != 0)

/-- The old number unless it is missing or zero. -/
def shownOld? (record : Record) : Option Int :=
  record.oldNumber.filter (· != 0)

end Record

/-- The records of one file's diff and the headers among them. -/
structure FileDiff where
  path : String
  oldPath : Option String
  records : List Record
  hunks : List Header
  deriving DecidableEq, Repr

namespace FileDiff

def ofKind (diff : FileDiff) (kind : Kind) : List Record :=
  diff.records.filter fun record => record.kind == kind

def added (diff : FileDiff) : List Record :=
  diff.ofKind .added

def removed (diff : FileDiff) : List Record :=
  diff.ofKind .removed

/-- The records that are not headers. -/
def body (diff : FileDiff) : List Record :=
  diff.records.filter fun record => !record.isHeader

/-- The new numbers of the added records, zero left out. -/
def changedNumbers (diff : FileDiff) : LineSet :=
  LineSet.ofList (diff.added.filterMap Record.shownNew?)

end FileDiff

end ReviewContext.Diff
