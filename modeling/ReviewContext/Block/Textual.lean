import ReviewContext.Block.Basic
import ReviewContext.Diff.Record

/-!
# The textual block

Without a syntax tree, one block holds the added lines, from the first of them to the last. It has
nothing to be cut around, so a block beyond a ceiling is dropped as a whole.
-/

namespace ReviewContext

open ReviewContext.Text
open ReviewContext.Diff (Record)

/-- The ceiling that a textual block exceeds. -/
inductive Oversize where
  | chars (count limit : Int)
  | lines (first last limit : Int)
  deriving DecidableEq, Repr

/-- The content of an added record without its sign. -/
def addedText (record : Record) : String :=
  match record.content.toList with
  | '+' :: rest => String.ofList rest
  | _ => record.content

def firstNumber (records : List Record) : Int :=
  (records.head?.bind Record.shownNew?).getD 1

/-- The block of the added records, none if there are none. -/
def textualBlock (records : List Record) (maxChars maxLines : Int) :
    Except Oversize (Option Block) :=
  let added := records.filter fun record => record.kind == .added
  let first := firstNumber added
  let last := firstNumber added.reverse
  let code := joinRows (added.map addedText)
  if added.isEmpty then .ok none
  else if maxChars < code.length then .error (.chars code.length maxChars)
  else if maxLines < last - first + 1 then .error (.lines first last maxLines)
  else .ok (some ⟨code, first, last, "unknown", none, .none⟩)

end ReviewContext
