import ReviewContext.Block.Ceiling
import ReviewContext.Proofs.Text.Decimal
import ReviewContext.Proofs.Text.RowSplit

/-!
# Rows of windows

Every row of a windowed span shows a line of the source or stands for some lines of the span, so no
count of left-out lines is greater than the number of lines of the span. Rendered rows hold no line
feed, and capping leaves at most as many of them as are allowed.
-/

namespace ReviewContext

open ReviewContext.Text

namespace Marker

theorem feed_notMem_comment (family : Family) {text : String} (htext : '\n' ∉ text.toList) :
    '\n' ∉ (comment family text).toList := by
  unfold comment
  split
  · exact feed_notMem_append (by decide) htext
  · exact feed_notMem_append (feed_notMem_append (by decide) htext) (by decide)

theorem feed_notMem_omitted (count : Int) : '\n' ∉ (omitted count).toList := by
  unfold omitted
  apply feed_notMem_append
  · exact feed_notMem_append (by decide) (feed_notMem_numeral count)
  · decide

theorem feed_notMem_capped (maxLines dropped : Int) : '\n' ∉ (capped maxLines dropped).toList := by
  unfold capped
  apply feed_notMem_append
  · apply feed_notMem_append
    · apply feed_notMem_append
      · exact feed_notMem_append (by decide) (feed_notMem_numeral maxLines)
      · decide
    · exact feed_notMem_numeral dropped
  · decide

end Marker

/-! ## Rows and what they stand for -/

namespace Span

variable {span : Span} {lines : List String} {radius : Int}

theorem windows_within {window : Int × Int} (hwindow : window ∈ span.windows radius) :
    span.first ≤ window.1 ∧ window.1 ≤ window.2 ∧ window.2 ≤ span.last := by
  unfold windows at hwindow
  obtain ⟨hclipped, hle⟩ := List.mem_filter.mp hwindow
  obtain ⟨whole, -, rfl⟩ := List.mem_map.mp hclipped
  simp only [decide_eq_true_eq] at hle
  dsimp only
  omega

theorem eq_of_mem_gapRows {row : WindowRow} {cursor next : Int} (hrow : row ∈ gapRows cursor next) :
    cursor < next ∧ row = .omitted (next - cursor) := by
  unfold gapRows at hrow
  split at hrow
  · rename_i hlt
    exact ⟨hlt, List.mem_singleton.mp hrow⟩
  · cases hrow

theorem exists_of_mem_sourceRows {row : WindowRow} {first last : Int}
    (hrow : row ∈ sourceRows lines first last) :
    ∃ text ∈ lines, ∃ line, row = .source text line := by
  unfold sourceRows at hrow
  obtain ⟨⟨text, index⟩, hindexed, rfl⟩ := List.mem_map.mp hrow
  have htext := List.fst_mem_of_mem_zipIdx hindexed
  exact ⟨text, slice_subset lines _ _ htext, _, rfl⟩

/-- A row of a windowed span shows a line or stands for some lines of the span. -/
def IsWindowRow (span : Span) (lines : List String) : WindowRow → Prop
  | .source text _ => text ∈ lines
  | .omitted count => 0 < count ∧ count ≤ span.lineTotal
  | .capped _ _ => False

theorem isWindowRow_gap {row : WindowRow} {cursor next : Int}
    (hcursor : span.first ≤ cursor)
    (hnext : next ≤ span.last + 1)
    (hrow : row ∈ gapRows cursor next) :
    span.IsWindowRow lines row := by
  obtain ⟨hlt, rfl⟩ := eq_of_mem_gapRows hrow
  unfold IsWindowRow lineTotal
  omega

theorem isWindowRow_skeletonFrom {windows : List (Int × Int)} {cursor : Int} {row : WindowRow}
    (hwindows : ∀ window ∈ windows,
      span.first ≤ window.1 ∧ window.1 ≤ window.2 ∧ window.2 ≤ span.last)
    (hcursor : span.first ≤ cursor)
    (hrow : row ∈ skeletonFrom lines span.last cursor windows) :
    span.IsWindowRow lines row := by
  induction windows generalizing cursor with
  | nil => exact isWindowRow_gap hcursor (Int.le_refl _) hrow
  | cons window rest ih =>
    obtain ⟨hfirst, hle, hlast⟩ := hwindows window List.mem_cons_self
    rw [skeletonFrom, List.mem_append, List.mem_append] at hrow
    rcases hrow with (hgap | hsource) | hrest
    · exact isWindowRow_gap hcursor (by omega) hgap
    · obtain ⟨text, htext, line, rfl⟩ := exists_of_mem_sourceRows hsource
      exact htext
    · have hnext : span.first ≤ window.2 + 1 := by omega
      refine ih ?_ hnext hrest
      intro other hother
      exact hwindows other (List.mem_cons_of_mem _ hother)

theorem isWindowRow_windowRows {row : WindowRow} (hrow : row ∈ span.windowRows lines radius) :
    span.IsWindowRow lines row :=
  isWindowRow_skeletonFrom (fun _ hwindow => windows_within hwindow) (Int.le_refl _) hrow

theorem hasWritableGaps_of_lineTotal (htotal : span.lineTotal < 10 ^ digitLimit) :
    span.hasWritableGaps lines radius = true := by
  rw [hasWritableGaps, List.all_eq_true]
  intro row hrow
  have hwindow := isWindowRow_windowRows hrow
  cases row with
  | source text line => rfl
  | omitted count =>
    obtain ⟨hpos, hle⟩ := hwindow
    exact isWritable_of_lt (Int.le_of_lt hpos) (Int.lt_of_le_of_lt hle htotal)
  | capped maxLines dropped => rfl

theorem tryWindowed_eq_ok {maxLines : Int} {family : Family}
    (htotal : span.lineTotal < 10 ^ digitLimit) :
    span.tryWindowed lines radius maxLines family =
      .ok (span.windowed lines radius maxLines family) := by
  rw [tryWindowed, if_pos (hasWritableGaps_of_lineTotal htotal)]

theorem feed_notMem_render (family : Family) {row : WindowRow}
    (hfeedless : ∀ line ∈ lines, '\n' ∉ line.toList)
    (hrow : span.IsWindowRow lines row) :
    '\n' ∉ (row.render family).toList := by
  cases row with
  | source text line => exact hfeedless text hrow
  | omitted count => exact Marker.feed_notMem_comment family (Marker.feed_notMem_omitted count)
  | capped maxLines dropped => exact False.elim hrow

theorem feed_notMem_windowRow (family : Family) {row : WindowRow}
    (hfeedless : ∀ line ∈ lines, '\n' ∉ line.toList)
    (hrow : row ∈ span.windowRows lines radius) :
    '\n' ∉ (row.render family).toList :=
  feed_notMem_render family hfeedless (isWindowRow_windowRows hrow)

theorem feed_notMem_capRows (family : Family) {rows : List WindowRow} {maxLines : Int}
    (hrows : ∀ row ∈ rows, '\n' ∉ (row.render family).toList) :
    ∀ row ∈ span.capRows maxLines rows, '\n' ∉ (row.render family).toList := by
  unfold capRows
  split
  · intro row hrow
    rcases List.mem_append.mp hrow with hkept | hcapped
    · exact hrows row (List.mem_of_mem_take hkept)
    · rw [List.mem_singleton.mp hcapped]
      exact Marker.feed_notMem_comment family (Marker.feed_notMem_capped _ _)
  · exact hrows

theorem length_capRows_le (span : Span) {maxLines : Int} (rows : List WindowRow)
    (hlines : 1 ≤ maxLines) :
    ((span.capRows maxLines rows).length : Int) ≤ maxLines := by
  unfold capRows
  split
  · rw [List.length_append, List.length_take, List.length_singleton]
    omega
  · omega

end Span

end ReviewContext
