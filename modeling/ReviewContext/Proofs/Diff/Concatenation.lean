import ReviewContext.Proofs.Diff.Run

/-!
# Diffs one behind the other

A header puts the cursor at its own starts and counts, wherever the cursor was before. A text whose
first row is a header is therefore read alike on its own and behind any other text that ends its
last row: no line that is missing there, no surplus one and no announced line that is left over
reaches past the header.
-/

namespace ReviewContext.Diff

open ReviewContext.Text

theorem diffRows_append_feed (body : String) :
    diffRows (body ++ "\n") = (rows body).map dropCarriageReturns := by
  have hrows := rows_append_feed body ""
  have hempty : rows "" = [""] := by decide
  rw [String.append_empty, hempty] at hrows
  simp [diffRows, hrows]

theorem diffRows_append {first : String} (second : String)
    (hfirst : first = "" ∨ ∃ body, first = body ++ "\n") :
    diffRows (first ++ second) = diffRows first ++ diffRows second := by
  rcases hfirst with rfl | ⟨body, rfl⟩
  · have hempty : diffRows "" = [] := by decide
    simp [hempty]
  · rw [diffRows_append_feed]
    unfold diffRows
    have hne := rows_ne_nil second
    have hlast := List.getLast?_eq_some_getLast hne
    simp only [rows_append_feed, List.getLast?_append, hlast, Option.some_or]
    by_cases hempty : (rows second).getLast hne = ""
    · simp [hempty, List.dropLast_append_of_ne_nil hne]
    · simp [hempty]

namespace Cursor

theorem step_eq_of_isHeader (cursor other : Cursor) {row : String} (hrow : isHeader row = true) :
    cursor.step row = other.step row := by
  rw [isHeader_eq_isSome] at hrow
  obtain ⟨header, hheader⟩ := Option.isSome_iff_exists.mp hrow
  rw [cursor.step_of_header? hheader, other.step_of_header? hheader]

/-- Rows that begin with a header give the same records from every cursor. -/
theorem run_eq_of_isHeader (cursor other : Cursor) {rows : List String}
    (hhead : rows.head?.any isHeader = true) :
    cursor.run rows = other.run rows := by
  cases rows with
  | nil => simp at hhead
  | cons row rest =>
    have hrow : isHeader row = true := by simpa using hhead
    simp only [run, step_eq_of_isHeader cursor other hrow]

end Cursor

/-- A text that begins with a header is read behind any finished text as it is read alone. -/
theorem read_append_of_header {first second path : String} {oldPath : Option String}
    {firstDiff secondDiff : FileDiff}
    (hfirst : first = "" ∨ ∃ body, first = body ++ "\n")
    (hsecond : (diffRows second).head?.any isHeader = true)
    (hreadFirst : FileDiff.read first path oldPath = .ok firstDiff)
    (hreadSecond : FileDiff.read second path oldPath = .ok secondDiff) :
    FileDiff.read (first ++ second) path oldPath =
      .ok ⟨path, oldPath, firstDiff.records ++ secondDiff.records,
        firstDiff.hunks ++ secondDiff.hunks⟩ := by
  have hfaultFirst := FileDiff.headerFault?_of_read hreadFirst
  have hfaultSecond := FileDiff.headerFault?_of_read hreadSecond
  have hrows := diffRows_append second hfirst
  have hfault : ∀ row ∈ diffRows (first ++ second), headerFault? row = none := by
    intro row hrow
    rw [hrows] at hrow
    rcases List.mem_append.mp hrow with hrow | hrow
    · exact hfaultFirst row hrow
    · exact hfaultSecond row hrow
  have hrun :
      Cursor.start.run (diffRows first ++ diffRows second) =
        Cursor.start.run (diffRows first) ++ Cursor.start.run (diffRows second) := by
    rw [Cursor.run_append, Cursor.run_eq_of_isHeader _ Cursor.start hsecond]
  rw [FileDiff.read_eq_ok hfault, hrows, hrun, List.filterMap_append,
    FileDiff.eq_of_read hreadFirst, FileDiff.eq_of_read hreadSecond]

/-! ## A hunk with missing lines -/

namespace UnfinishedHunk

/-- The header announces nine lines of each file, of which one comes. -/
def text : String :=
  "+x\n@@ -1,9 +1,9 @@\n-a\n"

/-- With eight announced lines left, the rows behind the header would be lines of the files. -/
def nextText : String :=
  "@@ -5 +6 @@\r\n--- b\n+++ b\n"

def diff : FileDiff where
  path := "a.sql"
  oldPath := none
  records :=
    [⟨"+x", .added, none, some 0, 0⟩, ⟨"@@ -1,9 +1,9 @@", .context, some 1, some 1, 1⟩,
      ⟨"-a", .removed, some 1, none, 1⟩]
  hunks := [⟨1, 9, 1, 9⟩]

def nextDiff : FileDiff where
  path := "a.sql"
  oldPath := none
  records :=
    [⟨"@@ -5 +6 @@", .context, some 5, some 6, 6⟩, ⟨"--- b", .context, none, none, 6⟩,
      ⟨"+++ b", .context, none, none, 6⟩]
  hunks := [⟨5, 0, 6, 0⟩]

theorem read_text : FileDiff.read text "a.sql" none = .ok diff := by
  rw [FileDiff.read_eq_ok (by decide +kernel)]
  exact congrArg Except.ok (by decide +kernel)

theorem read_nextText : FileDiff.read nextText "a.sql" none = .ok nextDiff := by
  rw [FileDiff.read_eq_ok (by decide +kernel)]
  exact congrArg Except.ok (by decide +kernel)

end UnfinishedHunk

theorem read_append_unfinishedHunk :
    FileDiff.read (UnfinishedHunk.text ++ UnfinishedHunk.nextText) "a.sql" none =
      .ok ⟨"a.sql", none, UnfinishedHunk.diff.records ++ UnfinishedHunk.nextDiff.records,
        [⟨1, 9, 1, 9⟩, ⟨5, 0, 6, 0⟩]⟩ := by
  have hfirst : ∃ body, UnfinishedHunk.text = body ++ "\n" :=
    ⟨"+x\n@@ -1,9 +1,9 @@\n-a", by decide⟩
  exact read_append_of_header (.inr hfirst) (by decide +kernel) UnfinishedHunk.read_text
    UnfinishedHunk.read_nextText

end ReviewContext.Diff
