import Mathlib.Data.List.DropRight
import Mathlib.Data.List.Forall2
import ReviewContext.Proofs.Diff.Run

/-!
# Accounting for lines

Every row of a text gives one record, however malformed the text is. The number that a record has
in a file follows from the records in front of it: it is the start of the last header there, or
zero, and one more for each record behind that header that is a line of the file. Counts of headers
have no part in it. The cursor carries these sums from row to row.
-/

namespace ReviewContext.Diff

open ReviewContext.Text

/-! ## Rows and contents -/

/-- The content is the row without the carriage returns at its end. -/
def IsWithoutReturns (row content : String) : Prop :=
  content.toList.getLast? ≠ some '\r' ∧
    ∃ count, row.toList = content.toList ++ List.replicate count '\r'

/-- The rows make up the text. A line feed at its end belongs to the last of them. -/
structure HasRows (text : String) (rows : List String) : Prop where
  feedless : ∀ row ∈ rows, '\n' ∉ row.toList
  text_eq : text = joinRows (rows ++ [""]) ∨ text = joinRows rows ∧ rows.getLast? ≠ some ""

theorem isWithoutReturns_dropCarriageReturns (row : String) :
    IsWithoutReturns row (dropCarriageReturns row) := by
  have hkept : (dropCarriageReturns row).toList = row.toList.rdropWhile fun c => c == '\r' := by
    rw [dropCarriageReturns, String.toList_ofList]
    rfl
  rw [IsWithoutReturns, hkept]
  constructor
  · intro hlast
    have hne : (row.toList.rdropWhile fun c => c == '\r') ≠ [] := by
      intro hnil
      simp [hnil] at hlast
    have hnot := List.rdropWhile_last_not _ _ hne
    rw [List.getLast?_eq_some_getLast hne, Option.some.injEq] at hlast
    simp [hlast] at hnot
  · refine ⟨(row.toList.rtakeWhile fun c => c == '\r').length, ?_⟩
    have hreturns : ∀ c ∈ row.toList.rtakeWhile (fun c => c == '\r'), c = '\r' := by
      intro c hc
      simpa using List.mem_rtakeWhile_imp hc
    rw [← List.eq_replicate_of_mem hreturns, List.rdropWhile_append_rtakeWhile]

theorem exists_hasRows (text : String) :
    ∃ raw, HasRows text raw ∧ List.Forall₂ IsWithoutReturns raw (diffRows text) := by
  have hdrop (raw : List String) :
      List.Forall₂ IsWithoutReturns raw (raw.map dropCarriageReturns) := by
    rw [List.forall₂_map_right_iff, List.forall₂_same]
    intro row _
    exact isWithoutReturns_dropCarriageReturns row
  by_cases hlast : (rows text).getLast? = some ""
  · have hconcat : (rows text).dropLast ++ [""] = rows text :=
      List.dropLast_append_getLast? "" hlast
    refine ⟨(rows text).dropLast, ⟨?_, .inl ?_⟩, ?_⟩
    · intro row hrow
      exact feed_notMem_of_mem_rows (List.dropLast_subset _ hrow)
    · rw [hconcat, joinRows_rows]
    · simpa [diffRows, hlast] using hdrop (rows text).dropLast
  · refine ⟨rows text, ⟨?_, .inr ⟨?_, hlast⟩⟩, ?_⟩
    · intro row hrow
      exact feed_notMem_of_mem_rows hrow
    · rw [joinRows_rows]
    · simpa [diffRows, hlast] using hdrop (rows text)

/-! ## Sums behind the last header -/

namespace Record

/-- Whether a record that is no header is a line of the old file. -/
def standsInOld (record : Record) : Bool :=
  record.kind == .removed || record.kind == .context && !record.isUnlabeled

/-- Whether a record that is no header is a line of the new file. -/
def standsInNew (record : Record) : Bool :=
  record.kind == .added || record.kind == .context && !record.isUnlabeled

/-- The record shows the header and has its starts for numbers. -/
structure Opens (record : Record) (header : Header) : Prop where
  header?_content : header? record.content = some header
  kind : record.kind = .context
  oldNumber : record.oldNumber = some (header.oldStart : Int)
  newNumber : record.newNumber = some (header.newStart : Int)

end Record

def lastHeader? (records : List Record) : Option Header :=
  (records.filterMap fun record => header? record.content).getLast?

def behindHeader (records : List Record) : List Record :=
  records.rtakeWhile fun record => !record.isHeader

/-- The number behind some records on the side with the given starts and lines. -/
def nextLine (start : Header → Nat) (stands : Record → Bool) (records : List Record) : Nat :=
  (lastHeader? records).elim 0 start + (behindHeader records).countP stands

def nextOld (records : List Record) : Nat :=
  nextLine Header.oldStart Record.standsInOld records

def nextNew (records : List Record) : Nat :=
  nextLine Header.newStart Record.standsInNew records

/-- The numbers of a record that is no header follow from the records in front of it. -/
def Record.IsNumberedBehind (record : Record) (before : List Record) : Prop :=
  match record.kind with
  | .added => record.oldNumber = none ∧ record.newNumber = some (nextNew before : Int)
  | .removed => record.oldNumber = some (nextOld before : Int) ∧ record.newNumber = none
  | .context =>
    record.oldNumber = some (nextOld before : Int) ∧
        record.newNumber = some (nextNew before : Int) ∨
      record.oldNumber = none ∧ record.newNumber = none

section NextLine

variable (start : Header → Nat) (stands : Record → Bool)

theorem nextLine_concat_of_header? {before : List Record} {record : Record} {header : Header}
    (hheader : header? record.content = some header) :
    nextLine start stands (before ++ [record]) = start header := by
  have hyes : record.isHeader = true := by
    rw [Record.isHeader, isHeader_eq_isSome, hheader, Option.isSome_some]
  simp [nextLine, lastHeader?, behindHeader, List.filterMap_append, hheader, hyes]

theorem nextLine_concat_of_line {before : List Record} {record : Record}
    (hheader : header? record.content = none) :
    nextLine start stands (before ++ [record]) =
      nextLine start stands before + if stands record then 1 else 0 := by
  have hno : record.isHeader = false := by
    rw [Record.isHeader, isHeader_eq_isSome, hheader, Option.isSome_none]
  simp [nextLine, lastHeader?, behindHeader, List.filterMap_append, hheader, hno,
    List.countP_singleton, Nat.add_assoc]

end NextLine

/-! ## The cursor carries the sums -/

namespace Cursor

theorem Takes.opens {cursor next : Cursor} {row : String} {record : Record} {header : Header}
    (htakes : cursor.Takes row record next)
    (hheader : header? row = some header) :
    record.Opens header ∧ next = atHeader header := by
  have hstep := cursor.step_of_header? hheader
  rw [htakes.eq_step] at hstep
  obtain ⟨rfl, rfl⟩ := Prod.mk.inj hstep
  exact ⟨⟨hheader, rfl, rfl, rfl⟩, rfl⟩

/-- A row that is no header moves the cursor on in the files of which it is a line. -/
theorem Takes.lines_of_line {cursor next : Cursor} {row : String} {record : Record}
    (htakes : cursor.Takes row record next)
    (hheader : header? row = none) :
    next.oldLine = cursor.oldLine + (if record.standsInOld then 1 else 0) ∧
      next.newLine = cursor.newLine + if record.standsInNew then 1 else 0 := by
  cases htakes with
  | header header hsome => simp [hheader] at hsome
  | added => simp [Record.standsInOld, Record.standsInNew, passNew]
  | removed => simp [Record.standsInOld, Record.standsInNew, passOld]
  | unchanged =>
    simp [Record.standsInOld, Record.standsInNew, Record.isUnlabeled, passOld, passNew]
  | foreign => simp [Record.standsInOld, Record.standsInNew, Record.isUnlabeled]

/-- The lines of the cursor are the ones behind some records. -/
structure StandsBehind (cursor : Cursor) (records : List Record) : Prop where
  oldLine : cursor.oldLine = nextOld records
  newLine : cursor.newLine = nextNew records

theorem standsBehind_start : start.StandsBehind [] := by
  constructor <;> rfl

theorem StandsBehind.isNumberedBehind {cursor next : Cursor} {before : List Record} {row : String}
    {record : Record}
    (hstands : cursor.StandsBehind before)
    (htakes : cursor.Takes row record next)
    (hheader : header? row = none) :
    record.IsNumberedBehind before := by
  cases htakes with
  | header header hsome => simp [hheader] at hsome
  | added => simp [Record.IsNumberedBehind, hstands.newLine]
  | removed => simp [Record.IsNumberedBehind, hstands.oldLine]
  | unchanged => simp [Record.IsNumberedBehind, hstands.oldLine, hstands.newLine]
  | foreign => simp [Record.IsNumberedBehind]

theorem StandsBehind.next {cursor next : Cursor} {before : List Record} {row : String}
    {record : Record}
    (hstands : cursor.StandsBehind before)
    (htakes : cursor.Takes row record next) :
    next.StandsBehind (before ++ [record]) := by
  have hcontent := htakes.content_eq
  cases hheader : header? row with
  | some header =>
    obtain ⟨hopens, rfl⟩ := htakes.opens hheader
    constructor
    · rw [nextOld, nextLine_concat_of_header? _ _ hopens.header?_content, atHeader]
    · rw [nextNew, nextLine_concat_of_header? _ _ hopens.header?_content, atHeader]
  | none =>
    have hnone : header? record.content = none := by rw [hcontent, hheader]
    obtain ⟨hold, hnew⟩ := htakes.lines_of_line hheader
    constructor
    · rw [nextOld, nextLine_concat_of_line _ _ hnone, ← nextOld, ← hstands.oldLine, hold]
    · rw [nextNew, nextLine_concat_of_line _ _ hnone, ← nextNew, ← hstands.newLine, hnew]

theorem StandsBehind.passAll {cursor : Cursor} {before : List Record}
    (hstands : cursor.StandsBehind before) (rows : List String) :
    (cursor.passAll rows).StandsBehind (before ++ cursor.run rows) := by
  induction rows generalizing cursor before with
  | nil => simpa [Cursor.passAll, run] using hstands
  | cons row rest ih =>
    have hnext := ih (hstands.next (cursor.takes_step row))
    simpa [Cursor.passAll, run] using hnext

/-- A run can be cut at every record. -/
theorem run_split {cursor : Cursor} {rows : List String} {before after : List Record}
    (hrun : cursor.run rows = before ++ after) :
    cursor.run (before.map Record.content) = before ∧
      (cursor.passAll (before.map Record.content)).run (after.map Record.content) = after := by
  have hrows : rows = before.map Record.content ++ after.map Record.content := by
    rw [← contents_run cursor rows, hrun, List.map_append]
  rw [hrows, run_append] at hrun
  apply List.append_inj hrun
  have hlength := congrArg List.length (contents_run cursor (before.map Record.content))
  simpa using hlength

/-- The cursor takes the row of the record as a header. -/
def TakesAsHeader (cursor : Cursor) (record : Record) : Prop :=
  ∃ header, record.Opens header ∧ cursor.step record.content = (record, atHeader header)

/-- A record that begins what a cursor reads was made by its step. -/
theorem takes_of_run_eq {cursor : Cursor} {rows : List String} {record : Record}
    {after : List Record}
    (hrun : cursor.run rows = record :: after) :
    cursor.Takes record.content record (cursor.step record.content).2 := by
  cases rows with
  | nil => cases hrun
  | cons row rest =>
    obtain ⟨hrecord, -⟩ := List.cons.inj hrun
    have htakes := cursor.takes_step row
    rw [hrecord] at htakes
    have hcontent := htakes.content_eq
    rwa [hcontent]

theorem isHeader_iff_takesAsHeader {cursor : Cursor} {record : Record}
    (htakes : cursor.Takes record.content record (cursor.step record.content).2) :
    record.isHeader = true ↔ cursor.TakesAsHeader record := by
  rw [Record.isHeader, isHeader_eq_isSome, Option.isSome_iff_exists]
  constructor
  · rintro ⟨header, hheader⟩
    obtain ⟨hopens, hnext⟩ := htakes.opens hheader
    refine ⟨header, hopens, ?_⟩
    rw [htakes.eq_step, hnext]
  · rintro ⟨header, hopens, -⟩
    exact ⟨header, hopens.header?_content⟩

theorem forall₂_opens_run (cursor : Cursor) (rows : List String) :
    List.Forall₂ Record.Opens ((cursor.run rows).filter Record.isHeader)
      (rows.filterMap header?) := by
  induction rows generalizing cursor with
  | nil => exact .nil
  | cons row rest ih =>
    have htakes := cursor.takes_step row
    have hisHeader := htakes.isHeader_eq
    rw [run]
    cases hheader : header? row with
    | some header =>
      rw [List.filter_cons_of_pos (by simp [hisHeader, hheader]),
        List.filterMap_cons_some hheader]
      exact .cons (htakes.opens hheader).1 (ih _)
    | none =>
      rw [List.filter_cons_of_neg (by simp [hisHeader, hheader]),
        List.filterMap_cons_none hheader]
      exact ih _

end Cursor

/-- The records of a text are its rows, and their numbers follow from the headers among them. -/
theorem records_accountFor_rows {text path : String} {oldPath : Option String} {diff : FileDiff}
    (hread : FileDiff.read text path oldPath = .ok diff) :
    (∃ rows, HasRows text rows ∧
        List.Forall₂ (fun row record => IsWithoutReturns row record.content) rows diff.records) ∧
      List.Forall₂ Record.Opens (diff.records.filter Record.isHeader) diff.hunks ∧
      ∀ before record after, diff.records = before ++ record :: after →
        (record.isHeader = true ↔
            (Cursor.start.passAll (before.map Record.content)).TakesAsHeader record) ∧
          (record.isHeader = false → record.IsNumberedBehind before) := by
  obtain rfl := FileDiff.eq_of_read hread
  refine ⟨?_, Cursor.forall₂_opens_run _ _, ?_⟩
  · obtain ⟨rows, hrows, hcontents⟩ := exists_hasRows text
    rw [← Cursor.contents_run Cursor.start (diffRows text), List.forall₂_map_right_iff] at hcontents
    exact ⟨rows, hrows, hcontents⟩
  · intro before record after hsplit
    obtain ⟨hbefore, hafter⟩ := Cursor.run_split hsplit
    have hstands := Cursor.standsBehind_start.passAll (before.map Record.content)
    rw [hbefore, List.nil_append] at hstands
    have htakes := Cursor.takes_of_run_eq hafter
    constructor
    · exact Cursor.isHeader_iff_takesAsHeader htakes
    · intro hline
      rw [Record.isHeader, isHeader_eq_isSome, Option.isSome_eq_false_iff,
        Option.isNone_iff_eq_none] at hline
      exact hstands.isNumberedBehind htakes hline

/-! ## A diff with stray rows -/

namespace StrayRows

/-- There are rows in front of the header, a row that only looks like one, and wrong counts. -/
def text : String :=
  "--- a\n+x\n@@ b @@\n@@ -3 +7,1 @@ f\r\r\n+++ y\n+++ z\n--- w\n-v\n\n\\ n\n u"

def diff : FileDiff where
  path := "a.c"
  oldPath := none
  records :=
    [⟨"--- a", .context, none, none, 1⟩, ⟨"+x", .added, none, some 0, 0⟩,
      ⟨"@@ b @@", .context, none, none, 1⟩, ⟨"@@ -3 +7,1 @@ f", .context, some 3, some 7, 7⟩,
      ⟨"+++ y", .added, none, some 7, 7⟩, ⟨"+++ z", .context, none, none, 8⟩,
      ⟨"--- w", .context, none, none, 8⟩, ⟨"-v", .removed, some 3, none, 3⟩,
      ⟨"", .context, some 4, some 8, 8⟩, ⟨"\\ n", .context, none, none, 9⟩,
      ⟨" u", .context, some 5, some 9, 9⟩]
  hunks := [⟨3, 0, 7, 1⟩]

theorem read_text : FileDiff.read text "a.c" none = .ok diff := by
  rw [FileDiff.read_eq_ok (by decide +kernel)]
  exact congrArg Except.ok (by decide +kernel)

end StrayRows

theorem strayRows_accountFor :
    List.Forall₂ Record.Opens (StrayRows.diff.records.filter Record.isHeader) [⟨3, 0, 7, 1⟩] ∧
      Record.IsNumberedBehind ⟨" u", .context, some 5, some 9, 9⟩
        (StrayRows.diff.records.take 10) := by
  obtain ⟨-, hopens, hrecords⟩ := records_accountFor_rows StrayRows.read_text
  obtain ⟨-, hnumbered⟩ :=
    hrecords (StrayRows.diff.records.take 10) ⟨" u", .context, some 5, some 9, 9⟩ [] rfl
  exact ⟨hopens, hnumbered (by decide)⟩

end ReviewContext.Diff
