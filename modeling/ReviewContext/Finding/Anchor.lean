import ReviewContext.Diff.Record
import ReviewContext.Finding.Issue

/-!
# Anchors of issues

An issue is anchored where its line is visible in the diff: on an added line, else on an unchanged
line, else only on the file. An issue for another file is anchored on that file; an issue that names
no file belongs to the file of the diff.
-/

namespace ReviewContext

open ReviewContext.Diff (FileDiff Record)

inductive Anchor where
  | added
  | context
  | file
  deriving DecidableEq, Repr

def Anchor.name : Anchor → String
  | .added => "added"
  | .context => "context"
  | .file => "file"

structure AnchoredIssue where
  issue : Issue
  anchor : Anchor
  deriving DecidableEq, Repr

def AnchoredIssue.isInline (anchored : AnchoredIssue) : Bool :=
  anchored.anchor != .file

def AnchoredIssue.toFinding (anchored : AnchoredIssue) : Issue.Finding :=
  anchored.issue.toFinding ++ [("anchor", .text anchored.anchor.name)]

/-- A finding as it was decoded, or an issue in normal form. -/
inductive RawIssue where
  | decoded (finding : Issue.Finding)
  | normal (issue : Issue)

def RawIssue.read (room : Nat) : RawIssue → Except Failure Issue
  | decoded finding => Issue.ofFinding room finding
  | normal issue => .ok issue

namespace Issue

def withFile (issue : Issue) (path : String) : Issue :=
  if issue.file.isEmpty then { issue with file := path } else issue

def shows (records : List Record) (line : Int) : Bool :=
  records.any fun record => record.shownNew? == some line

def anchorIn (issue : Issue) (diff : FileDiff) : Anchor :=
  if issue.file ≠ diff.path then .file
  else if shows diff.added issue.line then .added
  else if shows ((diff.ofKind .context).filter fun record => !record.isHeader) issue.line then
    .context
  else .file

def anchored (issue : Issue) (diff : FileDiff) : AnchoredIssue :=
  ⟨issue.withFile diff.path, (issue.withFile diff.path).anchorIn diff⟩

/-- Anchors the issues in order, unless one of them cannot be read. -/
def anchorAll (room : Nat) (diff : FileDiff) :
    List RawIssue → Except Failure (List AnchoredIssue)
  | [] => .ok []
  | raw :: rest => do
    let issue ← raw.read room
    let others ← anchorAll room diff rest
    return issue.anchored diff :: others

end Issue

end ReviewContext
