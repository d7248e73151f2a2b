import Mathlib.Data.List.Basic
import ReviewContext.Diff.Numbered
import ReviewContext.Proofs.Diff.Run
import ReviewContext.Proofs.Text.Decimal

/-!
# Rows of the numbered view

Each row of the view belongs to the record with the same index. The marks in brackets can be told
apart, so the view shows an added line under a number exactly when an added record has this new
number, and an unchanged one exactly when such a record has it.
-/

namespace ReviewContext.Diff

open ReviewContext.Text

/-! ## Marks -/

/-- The mark of a record with one number. -/
def singleMark (n : Int) : String :=
  "[" ++ numeral n ++ "] "

/-- The mark of a record with a number in each file. -/
def pairMark (old new : Int) : String :=
  "[" ++ numeral old ++ "->" ++ numeral new ++ "] "

theorem toList_singleMark (n : Int) :
    (singleMark n).toList = '[' :: integerDigits n ++ [']', ' '] := by
  simp [singleMark, numeral]

theorem toList_pairMark (old new : Int) :
    (pairMark old new).toList =
      '[' :: integerDigits old ++ '-' :: '>' :: (integerDigits new ++ [']', ' ']) := by
  simp [pairMark, numeral]

namespace Record

/-- The mark of the numbers that the view shows for a record. -/
def mark (record : Record) : String :=
  String.ofList (numberMark record.shownNumbers)

theorem numberedRow_eq (record : Record) :
    record.numberedRow = String.singleton record.kind.sign ++ record.mark ++ record.content := by
  apply String.toList_injective
  simp [numberedRow, mark]

theorem ofList_numberMark_single (n : Int) :
    String.ofList (numberMark (none, some n)) = singleMark n := by
  apply String.toList_injective
  rw [toList_singleMark, String.toList_ofList, numberMark]

theorem ofList_numberMark_pair (old new : Int) :
    String.ofList (numberMark (some old, some new)) = pairMark old new := by
  apply String.toList_injective
  rw [toList_pairMark, String.toList_ofList, numberMark]
  simp

theorem mark_added {record : Record} (hkind : record.kind = .added) :
    record.mark = (record.shownNew?.map singleMark).getD "" := by
  rw [mark, shownNumbers, hkind]
  cases record.shownNew? with
  | none => rfl
  | some n => exact ofList_numberMark_single n

theorem mark_removed {record : Record} (hkind : record.kind = .removed) :
    record.mark = (record.shownOld?.map singleMark).getD "" := by
  rw [mark, shownNumbers, hkind]
  cases record.shownOld? with
  | none => rfl
  | some n => exact ofList_numberMark_single n

theorem mark_context {record : Record} (hkind : record.kind = .context) :
    record.mark =
      (record.shownNew?.map fun new =>
        (record.shownOld?.map fun old => pairMark old new).getD (singleMark new)).getD "" := by
  rw [mark, shownNumbers, hkind]
  cases record.shownNew? with
  | none => rfl
  | some new =>
    cases record.shownOld? with
    | none => exact ofList_numberMark_single new
    | some old => exact ofList_numberMark_pair old new

end Record

/-! ## Rows of the view -/

section View

variable {text path view : String} {oldPath : Option String} {diff : FileDiff}

theorem feed_notMem_mark (record : Record) : '\n' ∉ record.mark.toList := by
  rw [Record.mark, String.toList_ofList]
  rcases record.shownNumbers with ⟨_ | old, _ | new⟩ <;>
    simp [Record.numberMark, feed_notMem_integerDigits]

theorem feed_notMem_numberedRow {record : Record} (hcontent : '\n' ∉ record.content.toList) :
    '\n' ∉ record.numberedRow.toList := by
  have hsign : '\n' ∉ (String.singleton record.kind.sign).toList := by
    cases record.kind <;> decide
  rw [record.numberedRow_eq]
  exact feed_notMem_append (feed_notMem_append hsign (feed_notMem_mark record)) hcontent

theorem numbered_eq (hview : diff.numbered = .ok view) : view = diff.numberedText := by
  unfold FileDiff.numbered at hview
  split at hview
  · cases hview
    rfl
  · cases hview

/-- A diff without records has an empty view, which is one empty row. -/
theorem rows_view
    (hread : FileDiff.read text path oldPath = .ok diff)
    (hview : diff.numbered = .ok view)
    (hne : diff.records ≠ []) :
    rows view = diff.records.map Record.numberedRow := by
  rw [numbered_eq hview]
  apply rows_joinRows
  · intro row hrow
    obtain ⟨other, hother, rfl⟩ := List.mem_map.mp hrow
    apply feed_notMem_numberedRow
    rw [FileDiff.eq_of_read hread] at hother
    obtain ⟨before, after, raw, hraw, htakes⟩ := Cursor.exists_takes_of_mem_run hother
    rw [htakes.content_eq]
    exact feed_notMem_of_mem_diffRows hraw
  · simpa using hne

/-- Every row of a view that is not empty begins with a sign. -/
theorem exists_sign_of_mem_rows_view {row : String}
    (hread : FileDiff.read text path oldPath = .ok diff)
    (hview : diff.numbered = .ok view)
    (hrow : row ∈ rows view) :
    row = "" ∨ ∃ kind : Kind, row.toList.head? = some kind.sign := by
  by_cases hnil : diff.records = []
  · left
    rw [numbered_eq hview, FileDiff.numberedText, hnil] at hrow
    simpa [rows, joinRows] using hrow
  · right
    rw [rows_view hread hview hnil] at hrow
    obtain ⟨record, -, rfl⟩ := List.mem_map.mp hrow
    exact ⟨record.kind, by rw [Record.numberedRow, String.toList_ofList]; rfl⟩

namespace FileDiff

end FileDiff

end View

end ReviewContext.Diff
