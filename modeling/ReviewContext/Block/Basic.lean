import ReviewContext.Grammar.Basic
import ReviewContext.Text.Numeral
import ReviewContext.Text.Rows

/-!
# Code blocks

A block is a piece of code with the range of lines that it stands for, what it declares, and how it
was shortened. Where code was left out, a marker inside a comment of the grammar's family says how
much.
-/

namespace ReviewContext

open ReviewContext.Text

inductive Truncation where
  | none
  | chars
  | window
  deriving DecidableEq, Repr

def Truncation.name : Truncation → String
  | .none => "none"
  | .chars => "chars"
  | .window => "window"

structure Block where
  code : String
  first : Int
  last : Int
  kind : String
  name : Option String
  truncation : Truncation
  deriving DecidableEq, Repr

/-- The number of rows of the code; no code has none. -/
def Block.lineCount (block : Block) : Nat :=
  if block.code.isEmpty then 0 else (rows block.code).length

namespace Marker

/-- Puts a marker into a comment. -/
def comment (family : Family) (text : String) : String :=
  if family = .python then "# " ++ text else "/* " ++ text ++ " */"

def truncated (length kept : Int) : String :=
  "[diffscope:truncated original_chars=" ++ numeral length ++ " kept_chars=" ++
    numeral kept ++ "]"

def omitted (count : Int) : String :=
  "[diffscope:omitted lines=" ++ numeral count ++ "]"

def capped (maxLines dropped : Int) : String :=
  "[diffscope:window_capped max_lines=" ++ numeral maxLines ++ " dropped_changed_lines=" ++
    numeral dropped ++ "]"

end Marker

end ReviewContext
