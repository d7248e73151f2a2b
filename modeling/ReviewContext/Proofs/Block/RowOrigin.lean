import ReviewContext.Proofs.Block.Ceilings
import ReviewContext.Proofs.Text.RowBeginning

/-!
# Where the rows of a governed block come from

However a span is governed, each row of its block is the beginning of a line of the source or of a
marker: a cut can end inside a line, and a ceiling too low for a marker ends inside that.
-/

namespace ReviewContext

open ReviewContext.Text

/-- The row is the beginning of one of the lines or of a marker. -/
inductive IsRowFrom (lines : List String) (row : String) : Prop where
  | line {line : String}
      (hline : line ∈ lines)
      (hbegins : row.toList <+: line.toList) :
      IsRowFrom lines row
  | marker (family : Family) (text : String)
      (hbegins : row.toList <+: (Marker.comment family text).toList) :
      IsRowFrom lines row

namespace IsRowFrom

variable {lines : List String} {row : String}

theorem of_mem (hrow : row ∈ lines) : IsRowFrom lines row :=
  .line hrow (List.prefix_refl _)

theorem of_comment (family : Family) (text : String) :
    IsRowFrom lines (Marker.comment family text) :=
  .marker family text (List.prefix_refl _)

theorem of_isPrefix {other : String}
    (hother : IsRowFrom lines other)
    (hbegins : row.toList <+: other.toList) :
    IsRowFrom lines row := by
  cases hother with
  | line hline hrest => exact .line hline (hbegins.trans hrest)
  | marker family text hrest => exact .marker family text (hbegins.trans hrest)

theorem of_empty : IsRowFrom lines "" :=
  .marker .unknown "" List.nil_prefix

theorem mono {others : List String}
    (hrow : IsRowFrom lines row)
    (hlines : ∀ line ∈ lines, line ∈ others) :
    IsRowFrom others row := by
  cases hrow with
  | line hline hbegins => exact .line (hlines _ hline) hbegins
  | marker family text hbegins => exact .marker family text hbegins

theorem of_mem_rows_joinRows {parts : List String}
    (hfree : ∀ part ∈ parts, '\n' ∉ part.toList)
    (hparts : ∀ part ∈ parts, IsRowFrom lines part)
    (hrow : row ∈ rows (joinRows parts)) :
    IsRowFrom lines row := by
  rcases mem_or_eq_empty_of_mem_rows_joinRows hfree hrow with hpart | rfl
  · exact hparts row hpart
  · exact of_empty

end IsRowFrom

/-! ## Cut texts -/

theorem sliceTo_isPrefix (text : String) (stop : Int) :
    (sliceTo text stop).toList <+: text.toList := by
  rw [sliceTo, String.toList_ofList, slice]
  have hstart : slicePosition text.toList.length 0 = 0 := by
    simp [slicePosition]
  rw [hstart, List.drop_zero]
  exact List.take_prefix _ _

theorem Marker.feed_notMem_truncated (length kept : Int) :
    '\n' ∉ (truncated length kept).toList := by
  unfold truncated
  apply feed_notMem_append
  · apply feed_notMem_append
    · apply feed_notMem_append
      · exact feed_notMem_append (by decide) (feed_notMem_numeral length)
      · decide
    · exact feed_notMem_numeral kept
  · decide

theorem rows_of_feedFree {text : String} (hfree : '\n' ∉ text.toList) : rows text = [text] := by
  have hone : joinRows [text] = text := by
    simp [joinRows]
  have hrows : rows (joinRows [text]) = [text] :=
    rows_joinRows (by simpa using hfree) (List.cons_ne_nil _ _)
  rwa [hone] at hrows

theorem isRowFrom_of_mem_rows_truncateChars {lines : List String} {text row : String}
    {maxChars : Int} {family : Family}
    (htext : ∀ other ∈ rows text, IsRowFrom lines other)
    (hrow : row ∈ rows (truncateChars text maxChars family)) :
    IsRowFrom lines row := by
  have hmarker (kept : Int) :
      '\n' ∉ (Marker.comment family (Marker.truncated text.length kept)).toList :=
    Marker.feed_notMem_comment family (Marker.feed_notMem_truncated _ _)
  unfold truncateChars at hrow
  dsimp only at hrow
  split at hrow
  · have hhead := sliceTo_isPrefix (Marker.comment family (Marker.truncated text.length 0)) maxChars
    rw [rows_of_feedFree fun hfeed => hmarker 0 (hhead.subset hfeed), List.mem_singleton] at hrow
    rw [hrow]
    exact .marker family _ hhead
  · rw [rows_append_feed, rows_of_feedFree (hmarker _), List.mem_append, List.mem_singleton] at hrow
    rcases hrow with hkept | rfl
    · obtain ⟨other, hother, hbegins⟩ := exists_row_of_isPrefix (sliceTo_isPrefix text _) hkept
      exact (htext other hother).of_isPrefix hbegins
    · exact .of_comment family _

/-! ## Governed spans -/

namespace Span

variable {span : Span} {lines : List String} {ceilings : Ceilings} {block : Block} {row : String}

theorem isRowFrom_of_mem_rows_verbatim
    (hfree : ∀ line ∈ lines, '\n' ∉ line.toList)
    (hrow : row ∈ rows (span.verbatim lines)) :
    IsRowFrom lines row := by
  have hslice : slice lines (span.first - 1) span.last ⊆ lines := slice_subset lines _ _
  exact .of_mem_rows_joinRows (fun part hpart => hfree part (hslice hpart))
    (fun part hpart => .of_mem (hslice hpart)) hrow

theorem mem_or_capped_of_mem_capRows {maxLines : Int} {shown : List WindowRow} {row : WindowRow}
    (hrow : row ∈ span.capRows maxLines shown) :
    row ∈ shown ∨ ∃ dropped, row = .capped maxLines dropped := by
  unfold capRows at hrow
  split at hrow
  · rcases List.mem_append.mp hrow with hkept | hcapped
    · exact .inl (List.mem_of_mem_take hkept)
    · exact .inr ⟨_, List.mem_singleton.mp hcapped⟩
  · exact .inl hrow

theorem isRowFrom_render_of_isWindowRow (family : Family) {row : WindowRow}
    (hrow : span.IsWindowRow lines row) :
    IsRowFrom lines (row.render family) := by
  cases row with
  | source text line => exact .of_mem hrow
  | omitted count => exact .of_comment family _
  | capped maxLines dropped => exact False.elim hrow

theorem isRowFrom_of_mem_rows_windowed {radius maxLines : Int} {family : Family}
    (hfree : ∀ line ∈ lines, '\n' ∉ line.toList)
    (hrow : row ∈ rows (span.windowed lines radius maxLines family)) :
    IsRowFrom lines row := by
  have hshown : ∀ shown ∈ span.windowRows lines radius, '\n' ∉ (shown.render family).toList :=
    fun _ hmem => feed_notMem_windowRow family hfree hmem
  refine .of_mem_rows_joinRows ?_ ?_ hrow
  · intro part hpart
    obtain ⟨shown, hmem, rfl⟩ := List.mem_map.mp hpart
    exact feed_notMem_capRows family hshown shown hmem
  · intro part hpart
    obtain ⟨shown, hmem, rfl⟩ := List.mem_map.mp hpart
    rcases mem_or_capped_of_mem_capRows hmem with hwindow | ⟨dropped, rfl⟩
    · exact isRowFrom_render_of_isWindowRow family (isWindowRow_windowRows hwindow)
    · exact .of_comment family _

theorem Governs.isRowFrom_of_mem_rows (hgoverns : span.Governs lines ceilings block)
    (hfree : ∀ line ∈ lines, '\n' ∉ line.toList)
    (hrow : row ∈ rows block.code) :
    IsRowFrom lines row := by
  cases hgoverns with
  | whole _ _ => exact isRowFrom_of_mem_rows_verbatim hfree hrow
  | windowed _ _ => exact isRowFrom_of_mem_rows_windowed hfree hrow
  | cut _ =>
    refine isRowFrom_of_mem_rows_truncateChars ?_ hrow
    exact fun other hother => isRowFrom_of_mem_rows_verbatim hfree hother

end Span

end ReviewContext
