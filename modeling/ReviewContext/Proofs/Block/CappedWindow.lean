import Mathlib.Data.List.Basic
import ReviewContext.Proofs.Block.Skeleton

/-!
# Capped windows

A skeleton with more rows than allowed is cut, and a last row says how many covered lines are not
among the rows that are kept. Markers take up rows as well, but only the row of a covered line
itself shows the line, so the number in the last row and the covered lines whose rows are kept make
up all covered lines.
-/

namespace ReviewContext

open ReviewContext.Text

theorem source_mem_leaveOut {rows : List WindowRow} {text : String} {line : Int} :
    .source text line ∈ leaveOut rows ↔ .source text line ∈ rows := by
  unfold leaveOut
  split <;> simp

theorem text_eq_of_mem_skeletonOf {shown : Int → Bool} {lines : List String} {numbers : List Int}
    {text : String} {line : Int}
    (hrow : .source text line ∈ skeletonOf shown lines numbers) :
    text = lineText lines line := by
  induction numbers with
  | nil => cases hrow
  | cons number rest ih =>
    rw [skeletonOf] at hrow
    split at hrow
    · rcases List.mem_cons.mp hrow with heq | hrest
      · cases heq
        rfl
      · exact ih hrest
    · exact ih (source_mem_leaveOut.mp hrow)

namespace Span

variable {span : Span} {lines : List String} {radius : Int}

/-- The number of covered lines whose own row is among some rows. -/
def shownCount (span : Span) (lines : List String) (rows : List WindowRow) : Nat :=
  (span.covered.filter fun line => rows.contains (.source (lineText lines line) line)).size

theorem contains_line?_eq {rows : List WindowRow} {line : Int}
    (hrows : rows ⊆ span.skeleton lines radius) :
    (rows.filterMap WindowRow.line?).contains line =
      rows.contains (.source (lineText lines line) line) := by
  rw [Bool.eq_iff_iff, List.contains_iff_mem, List.contains_iff_mem, List.mem_filterMap]
  constructor
  · rintro ⟨row, hrow, hline⟩
    cases row with
    | source text number =>
      have htext : text = lineText lines number := text_eq_of_mem_skeletonOf (hrows hrow)
      rw [WindowRow.line?, Option.some.injEq] at hline
      rw [← hline, ← htext]
      exact hrow
    | omitted count => cases hline
    | capped maxLines dropped => cases hline
  · intro hrow
    exact ⟨_, hrow, rfl⟩

theorem droppedCount_add_shownCount {rows : List WindowRow}
    (hrows : rows ⊆ span.skeleton lines radius) :
    span.droppedCount rows + span.shownCount lines rows = span.covered.size := by
  have hsplit : span.covered.size =
      (span.covered.toList.filter fun line => (rows.filterMap WindowRow.line?).contains line).length +
        (span.covered.toList.filter fun line =>
          !(rows.filterMap WindowRow.line?).contains line).length :=
    List.length_eq_length_filter_add _
  have hshown : span.shownCount lines rows =
      (span.covered.toList.filter fun line =>
        (rows.filterMap WindowRow.line?).contains line).length := by
    simp only [contains_line?_eq hrows]
    rfl
  have hdropped : span.droppedCount rows =
      (span.covered.toList.filter fun line =>
        !(rows.filterMap WindowRow.line?).contains line).length := rfl
  omega

theorem rows_windowed {maxLines : Int} (family : Family)
    (hfeedless : ∀ line ∈ lines, '\n' ∉ line.toList)
    (hne : span.capRows maxLines (span.windowRows lines radius) ≠ []) :
    rows (span.windowed lines radius maxLines family) =
      (span.capRows maxLines (span.windowRows lines radius)).map (WindowRow.render family) := by
  have hrows : ∀ row ∈ span.windowRows lines radius, '\n' ∉ (row.render family).toList :=
    fun _ hrow => feed_notMem_windowRow family hfeedless hrow
  refine rows_joinRows ?_ ?_
  · intro text htext
    obtain ⟨row, hrow, rfl⟩ := List.mem_map.mp htext
    exact feed_notMem_capRows family hrows row hrow
  · rwa [ne_eq, List.map_eq_nil_iff]

/-- A span whose skeleton has too many rows is shown by as many rows as are allowed: the first rows
of the skeleton and a last one that accounts for the covered lines which the others do not show. -/
theorem rows_windowed_of_exceeds {maxLines : Int} (family : Family)
    (hfeedless : ∀ line ∈ lines, '\n' ∉ line.toList)
    (hfirst : 1 ≤ span.first)
    (hlast : span.last ≤ lines.length)
    (hlines : 1 ≤ maxLines)
    (hexceeds : maxLines < (span.skeleton lines radius).length) :
    (span.lineTotal < 10 ^ digitLimit →
        span.tryWindowed lines radius maxLines family =
          .ok (span.windowed lines radius maxLines family)) ∧
      ((rows (span.windowed lines radius maxLines family)).length : Int) = maxLines ∧
      ∃ dropped : Nat,
        rows (span.windowed lines radius maxLines family) =
            ((span.skeleton lines radius).take (maxLines - 1).toNat).map (WindowRow.render family) ++
              [(WindowRow.capped maxLines dropped).render family] ∧
          dropped + span.shownCount lines
              ((span.skeleton lines radius).take (maxLines - 1).toNat) =
            span.covered.size := by
  have hcap : span.capRows maxLines (span.windowRows lines radius) =
      (span.skeleton lines radius).take (maxLines - 1).toNat ++
        [.capped maxLines
          (span.droppedCount ((span.skeleton lines radius).take (maxLines - 1).toNat))] := by
    rw [windowRows_eq_skeleton hfirst hlast, capRows, if_pos hexceeds]
  have hne : span.capRows maxLines (span.windowRows lines radius) ≠ [] := by
    rw [hcap]
    exact List.append_ne_nil_of_right_ne_nil _ (List.cons_ne_nil _ _)
  have hrows := rows_windowed family hfeedless hne
  rw [hcap, List.map_append, List.map_singleton] at hrows
  refine ⟨tryWindowed_eq_ok, ?_, _, hrows, ?_⟩
  · rw [hrows, List.length_append, List.length_map, List.length_take, List.length_singleton]
    omega
  · exact droppedCount_add_shownCount (List.take_subset _ _)

end Span

namespace SpacedChanges

theorem shownCount_eq : span.shownCount lines ((span.skeleton lines 1).take 4) = 1 := by
  rw [skeleton_eq]
  decide +kernel

end SpacedChanges

/-- The marker of the first gap is one of the rows that are kept, but shows no covered line. -/
theorem spacedChanges_rows_windowed :
    rows (SpacedChanges.span.windowed SpacedChanges.lines 1 5 .python) =
        ["def f():", "    b = 1", "# [diffscope:omitted lines=1]", "    d = 3",
          "# [diffscope:window_capped max_lines=5 dropped_changed_lines=2]"] ∧
      2 + SpacedChanges.span.shownCount SpacedChanges.lines
          ((SpacedChanges.span.skeleton SpacedChanges.lines 1).take 4) = 3 := by
  have hfeedless : ∀ line ∈ SpacedChanges.lines, '\n' ∉ line.toList := by decide
  have hexceeds : 5 < ((SpacedChanges.span.skeleton SpacedChanges.lines 1).length : Int) := by
    rw [SpacedChanges.skeleton_eq]
    decide
  obtain ⟨-, -, dropped, hrows, haccount⟩ :=
    Span.rows_windowed_of_exceeds .python hfeedless (by decide) (by decide) (by decide) hexceeds
  have hsize : SpacedChanges.span.covered.size = 3 := by decide
  have hshown := SpacedChanges.shownCount_eq
  have hkept : ((5 : Int) - 1).toNat = 4 := by decide
  rw [hkept] at hrows haccount
  have hdropped : dropped = 2 := by omega
  rw [hdropped, SpacedChanges.skeleton_eq] at hrows
  constructor
  · rw [hrows]
    decide +kernel
  · rw [hshown]

end ReviewContext
