import ReviewContext.Diff.Record
import ReviewContext.Text.Rows

/-!
# Reading a diff

A cursor runs over the rows with the next line number of each file and with the lines that the
current header still announces for each. The announced lines serve one purpose: while some are left
on a side, a row that begins with three signs of that side is a line of the file, and otherwise it
belongs to the metadata. Nothing else about a diff is checked, so only a numeral beyond the limit
stops the reading.
-/

namespace ReviewContext.Diff

open ReviewContext.Text

structure Cursor where
  oldLine : Nat
  newLine : Nat
  oldLeft : Nat
  newLeft : Nat
  deriving DecidableEq, Repr

namespace Cursor

def start : Cursor :=
  ⟨0, 0, 0, 0⟩

def atHeader (header : Header) : Cursor :=
  ⟨header.oldStart, header.newStart, header.oldCount, header.newCount⟩

/-- Whether a row is a line with the given sign, when so many lines are left on its side. -/
def isLineOf (sign : Char) (left : Nat) (row : String) : Bool :=
  [sign].isPrefixOf row.toList && (!([sign, sign, sign].isPrefixOf row.toList) || 0 < left)

def isUnchanged (row : String) : Bool :=
  [' '].isPrefixOf row.toList || row.isEmpty

def passOld (cursor : Cursor) : Cursor :=
  { cursor with oldLine := cursor.oldLine + 1, oldLeft := cursor.oldLeft - 1 }

def passNew (cursor : Cursor) : Cursor :=
  { cursor with newLine := cursor.newLine + 1, newLeft := cursor.newLeft - 1 }

/-- The record of a row and the cursor behind it. -/
def step (cursor : Cursor) (row : String) : Record × Cursor :=
  match header? row with
  | some header =>
    (⟨row, .context, some header.oldStart, some header.newStart, header.newStart⟩,
      atHeader header)
  | none =>
    if isLineOf '+' cursor.newLeft row then
      (⟨row, .added, none, some cursor.newLine, cursor.newLine⟩, cursor.passNew)
    else if isLineOf '-' cursor.oldLeft row then
      (⟨row, .removed, some cursor.oldLine, none, cursor.oldLine⟩, cursor.passOld)
    else if isUnchanged row then
      (⟨row, .context, some cursor.oldLine, some cursor.newLine, cursor.newLine⟩,
        cursor.passOld.passNew)
    else
      (⟨row, .context, none, none, if cursor.newLine = 0 then 1 else cursor.newLine⟩, cursor)

/-- The records of some rows from a cursor on. -/
def run (cursor : Cursor) : List String → List Record
  | [] => []
  | row :: rest => (cursor.step row).1 :: (cursor.step row).2.run rest

end Cursor

/-- The rows of a diff without the carriage returns at their ends; a final line feed ends the last
row and does not begin another. -/
def diffRows (text : String) : List String :=
  let all := rows text
  (if all.getLast? = some "" then all.dropLast else all).map dropCarriageReturns

namespace FileDiff

def read (text path : String) (oldPath : Option String) : Except NumeralFault FileDiff :=
  match (diffRows text).findSome? headerFault? with
  | some fault => .error fault
  | none =>
    .ok {
      path := path
      oldPath := oldPath
      records := Cursor.start.run (diffRows text)
      hunks := (diffRows text).filterMap header?
    }

end FileDiff

end ReviewContext.Diff
