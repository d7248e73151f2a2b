import ReviewContext.Diff.Numbered
import ReviewContext.Proofs.Diff.HeaderRow

/-!
# Patches

A patch is an edit script from an old file to a new one, cut into hunks. Lines between hunks are
unchanged and not shown. It is written as the rows of a unified diff: a header in front of every
hunk, a sign in front of every shown line, and rows of metadata outside and inside of the hunks.
-/

namespace ReviewContext.Diff

open ReviewContext.Text

/-- A text within one row. -/
structure RowText where
  text : String
  noFeed : '\n' ∉ text.toList

/-- A line of a file as a row can show it. -/
structure FileLine extends RowText where
  noReturn : text.toList.getLast? ≠ some '\r'

/-- A row outside of the hunks. -/
structure Metadata extends RowText where
  visible : dropCarriageReturns text ≠ ""
  foreign :
    ['-', '-', '-'] <+: text.toList ∨ ['+', '+', '+'] <+: text.toList ∨
      (¬ ['@', '@'] <+: text.toList ∧ ¬ [' '] <+: text.toList ∧
        ¬ ['+'] <+: text.toList ∧ ¬ ['-'] <+: text.toList)

/-- A row inside of a hunk that is no line of a file. -/
structure Remark extends RowText where
  backslash : ['\\'] <+: text.toList

inductive Edit where
  | kept (line : FileLine)
  | removed (line : FileLine)
  | inserted (line : FileLine)

namespace Edit

def line : Edit → FileLine
  | kept line => line
  | removed line => line
  | inserted line => line

def kind : Edit → Kind
  | kept _ => .context
  | removed _ => .removed
  | inserted _ => .added

def old? : Edit → Option FileLine
  | kept line => some line
  | removed line => some line
  | inserted _ => none

def new? : Edit → Option FileLine
  | kept line => some line
  | removed _ => none
  | inserted line => some line

def row (edit : Edit) : String :=
  String.ofList (edit.kind.sign :: edit.line.text.toList)

end Edit

def oldLines (edits : List Edit) : List FileLine :=
  edits.filterMap Edit.old?

def newLines (edits : List Edit) : List FileLine :=
  edits.filterMap Edit.new?

inductive HunkRow where
  | line (edit : Edit)
  | remark (row : Remark)

def HunkRow.edit? : HunkRow → Option Edit
  | line edit => some edit
  | remark _ => none

structure Hunk where
  /-- Unchanged lines in front of the hunk that are not shown. -/
  skipped : List FileLine
  preface : List Metadata
  oldStart : Nat
  newStart : Nat
  heading : RowText
  body : List HunkRow

namespace Hunk

def edits (hunk : Hunk) : List Edit :=
  hunk.body.filterMap HunkRow.edit?

def header (hunk : Hunk) : Header where
  oldStart := hunk.oldStart
  oldCount := (oldLines hunk.edits).length
  newStart := hunk.newStart
  newCount := (newLines hunk.edits).length

def script (hunk : Hunk) : List Edit :=
  hunk.skipped.map .kept ++ hunk.edits

end Hunk

/-- A row of a written patch. -/
inductive PatchRow where
  | metadata (row : Metadata)
  | header (marks : Header) (heading : RowText)
  | line (edit : Edit)
  | remark (row : Remark)

def PatchRow.text : PatchRow → String
  | metadata row => row.text
  | header marks heading => marks.row heading.text
  | line edit => edit.row
  | remark row => row.text

def HunkRow.patchRow : HunkRow → PatchRow
  | line edit => .line edit
  | remark row => .remark row

def Hunk.rows (hunk : Hunk) : List PatchRow :=
  hunk.preface.map .metadata ++ .header hunk.header hunk.heading ::
    hunk.body.map HunkRow.patchRow

structure Patch where
  hunks : List Hunk
  /-- Unchanged lines behind the last hunk. -/
  rest : List FileLine
  trailer : List Metadata

/-- The part of an edit script that some hunks and the lines in front of them make up. -/
def scriptOf (hunks : List Hunk) : List Edit :=
  hunks.flatMap Hunk.script

namespace Patch

def script (patch : Patch) : List Edit :=
  scriptOf patch.hunks ++ patch.rest.map .kept

def oldFile (patch : Patch) : List FileLine :=
  oldLines patch.script

def newFile (patch : Patch) : List FileLine :=
  newLines patch.script

def rows (patch : Patch) : List PatchRow :=
  patch.hunks.flatMap Hunk.rows ++ patch.trailer.map .metadata

/-- Every header tells the numbers of the first lines of its hunk. A side without lines has no
first line, and its start is free. -/
structure HasTrueStarts (patch : Patch) : Prop where
  old :
    ∀ before hunk after, patch.hunks = before ++ hunk :: after →
      0 < hunk.header.oldCount →
        hunk.oldStart = (oldLines (scriptOf before)).length + hunk.skipped.length + 1
  new :
    ∀ before hunk after, patch.hunks = before ++ hunk :: after →
      0 < hunk.header.newCount →
        hunk.newStart = (newLines (scriptOf before)).length + hunk.skipped.length + 1

def HasWritableHeaders (patch : Patch) : Prop :=
  ∀ hunk ∈ patch.hunks, hunk.header.isWritable = true

/-- The text of a patch, with or without a line feed behind the last row. -/
def IsWrittenAs (patch : Patch) (text : String) : Prop :=
  text = joinRows (patch.rows.map PatchRow.text) ∨
    text =
      String.ofList ((patch.rows.map PatchRow.text).flatMap fun row => row.toList ++ ['\n'])

end Patch

end ReviewContext.Diff
