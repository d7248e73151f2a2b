import ReviewContext.Parsing.LooseText
import ReviewContext.Proofs.Text.RowConcat
import ReviewContext.Text.Indent

/-!
# Rows of texts with lone surrogates

Whatever a text is written as has the rows of the text, each of them written by itself. Nothing but
a line feed is written as a line feed, and nothing but a space or a tab as one of these.
-/

namespace ReviewContext

open ReviewContext.Text

namespace CodePoint

def isIndent : CodePoint → Bool
  | char c => isIndentChar c
  | surrogate _ => false

theorem isIndentChar_written (point : CodePoint) : isIndentChar point.written = point.isIndent := by
  cases point <;> rfl

theorem written_eq_feed_iff {point : CodePoint} : point.written = '\n' ↔ point = .char '\n' := by
  cases point <;> simp [written]

end CodePoint

namespace LooseText

def feed : CodePoint :=
  .char '\n'

def rows (text : LooseText) : List LooseText :=
  text.splitOn feed

/-- The characters by which a text is written. -/
def chars (text : LooseText) : List Char :=
  text.map CodePoint.written

theorem toList_written (text : LooseText) : text.written.toList = text.chars :=
  String.toList_ofList

theorem written_append (first second : LooseText) :
    (first ++ second).written = first.written ++ second.written := by
  simp [written]

theorem written_ofString (text : String) : (ofString text).written = text := by
  have hchars : (text.toList.map CodePoint.char).map CodePoint.written = text.toList := by
    rw [List.map_map]
    exact List.map_id _
  rw [written, ofString, hchars, String.ofList_toList]

/-- A part of what is written is written for a part of the text. -/
theorem exists_append_of_written {text : LooseText} {front behind : String}
    (hwritten : text.written = front ++ behind) :
    ∃ first second : LooseText,
      text = first ++ second ∧ first.written = front ∧ second.written = behind := by
  have hchars : text.map CodePoint.written = front.toList ++ behind.toList := by
    rw [← String.toList_append, ← hwritten, toList_written]
    rfl
  obtain ⟨first, second, rfl, hfirst, hsecond⟩ := List.map_eq_append_iff.mp hchars
  refine ⟨first, second, rfl, ?_, ?_⟩
  · rw [written, hfirst, String.ofList_toList]
  · rw [written, hsecond, String.ofList_toList]

theorem count_chars (text : LooseText) : text.chars.count '\n' = text.count feed := by
  induction text with
  | nil => rfl
  | cons point rest ih =>
    rw [chars] at ih
    simp only [chars, List.map_cons, List.count_cons, ih, beq_iff_eq, feed,
      CodePoint.written_eq_feed_iff]

theorem splitOn_chars (text : LooseText) : text.chars.splitOn '\n' = text.rows.map chars := by
  induction text with
  | nil => simp [rows, chars]
  | cons point rest ih =>
    rw [chars, rows] at ih
    by_cases hpoint : point = feed
    · subst hpoint
      rw [chars, rows, List.map_cons, splitOn_feed_cons]
      exact (splitOn_feed_cons _).trans (congrArg (List.cons []) ih)
    · have hwritten : point.written ≠ '\n' := mt CodePoint.written_eq_feed_iff.mp hpoint
      rw [chars, rows, List.map_cons, splitOn_cons_of_ne hwritten, splitOn_cons_of_ne hpoint, ih]
      cases rest.splitOn feed <;> rfl

theorem rows_written (text : LooseText) : Text.rows text.written = text.rows.map written := by
  rw [Text.rows, toList_written, splitOn_chars, List.map_map]
  rfl

theorem length_rows_written (text : LooseText) :
    (Text.rows text.written).length = text.rows.length := by
  rw [rows_written, List.length_map]

theorem exists_row_of_written {text : LooseText} {index : Nat} {row : String}
    (hrow : (Text.rows text.written)[index]? = some row) :
    ∃ kept : LooseText, text.rows[index]? = some kept ∧ kept.written = row := by
  rwa [rows_written, List.getElem?_map, Option.map_eq_some_iff] at hrow

theorem mem_rows_written {text line : LooseText} {index : Nat}
    (hline : text.rows[index]? = some line) :
    line.written ∈ Text.rows text.written := by
  rw [rows_written]
  exact List.mem_map_of_mem (List.mem_of_getElem? hline)

end LooseText

end ReviewContext
