import Mathlib.Data.List.TakeWhile
import ReviewContext.Proofs.Text.RowSplit
import ReviewContext.Text.Indent

/-!
# Rows of a dedented text

Dedenting takes spaces and tabs off the front of each row and nothing else. A row of spaces and tabs
alone loses all of them, any other row loses the margin.
-/

namespace ReviewContext.Text

theorem commonHead_isPrefix (first second : List Char) :
    commonHead first second <+: first ∧ commonHead first second <+: second := by
  induction first generalizing second with
  | nil => simp [commonHead]
  | cons a first ih =>
    cases second with
    | nil => simp [commonHead]
    | cons b second =>
      by_cases hab : a = b
      · simpa [commonHead, hab] using ih second
      · simp [commonHead, hab]

theorem foldl_commonHead_isPrefix (first : List Char) (others : List (List Char)) :
    others.foldl commonHead first <+: first ∧
      ∀ other ∈ others, others.foldl commonHead first <+: other := by
  induction others generalizing first with
  | nil => simp
  | cons second others ih =>
    obtain ⟨hboth, hothers⟩ := ih (commonHead first second)
    obtain ⟨hfirst, hsecond⟩ := commonHead_isPrefix first second
    rw [List.foldl_cons]
    constructor
    · exact hboth.trans hfirst
    · intro other hother
      rcases List.mem_cons.mp hother with heq | hother
      · subst heq
        exact hboth.trans hsecond
      · exact hothers other hother

/-- The margin is a part of the indentation of every row that is not empty. -/
theorem margin_isPrefix {rows : List (List Char)} {row : List Char}
    (hrow : row ∈ rows)
    (hne : row ≠ []) :
    margin rows <+: row.takeWhile isIndentChar := by
  have hkept : row ∈ rows.filter fun row => !row.isEmpty := by
    simp [hrow, hne]
  have hindent := List.mem_map_of_mem (f := fun row => row.takeWhile isIndentChar) hkept
  unfold margin
  split
  · simp
  · rename_i first others hindents
    rw [hindents] at hindent
    obtain ⟨hfirst, hothers⟩ := foldl_commonHead_isPrefix first others
    rcases List.mem_cons.mp hindent with hindent | hindent
    · rw [hindent]
      exact hfirst
    · exact hothers _ hindent

/-- The second row is the first one without some spaces and tabs in front. -/
def IsOutdented (row kept : List Char) : Prop :=
  ∃ indent, row = indent ++ kept ∧ ∀ c ∈ indent, isIndentChar c = true

theorem isOutdented_drop {row margin : List Char}
    (hmargin : margin <+: row.takeWhile isIndentChar) :
    IsOutdented row (row.drop margin.length) := by
  have hprefix : margin <+: row := hmargin.trans (List.takeWhile_prefix _)
  refine ⟨margin, ?_, ?_⟩
  · exact (List.prefix_iff_eq_append.mp hprefix).symm
  · intro c hc
    exact List.mem_takeWhile_imp (hmargin.subset hc)

theorem isOutdented_clearIndentOnly {row margin : List Char}
    (hmargin : clearIndentOnly row ≠ [] → margin <+: (clearIndentOnly row).takeWhile isIndentChar) :
    IsOutdented row ((clearIndentOnly row).drop margin.length) := by
  by_cases hindent : row.all isIndentChar = true
  · refine ⟨row, ?_, ?_⟩
    · simp [clearIndentOnly, hindent]
    · simpa using hindent
  · have hclear : clearIndentOnly row = row := by
      simp [clearIndentOnly, hindent]
    have hne : row ≠ [] := by
      rintro rfl
      simp at hindent
    rw [hclear] at hmargin ⊢
    exact isOutdented_drop (hmargin hne)

theorem exists_row_of_dedentRows {rows : List (List Char)} {index : Nat} {kept : List Char}
    (hkept : (dedentRows rows)[index]? = some kept) :
    ∃ row, rows[index]? = some row ∧ IsOutdented row kept := by
  simp only [dedentRows, List.getElem?_map, Option.map_map, Option.map_eq_some_iff,
    Function.comp_apply] at hkept
  obtain ⟨row, hrow, rfl⟩ := hkept
  refine ⟨row, hrow, ?_⟩
  apply isOutdented_clearIndentOnly
  intro hne
  exact margin_isPrefix (List.mem_map_of_mem (List.mem_of_getElem? hrow)) hne

theorem feed_notMem_of_mem_dedentRows {text : String} {kept : List Char}
    (hkept : kept ∈ dedentRows ((rows text).map String.toList)) :
    '\n' ∉ kept := by
  obtain ⟨index, hindex⟩ := List.mem_iff_getElem?.mp hkept
  obtain ⟨chars, hchars, indent, rfl, -⟩ := exists_row_of_dedentRows hindex
  obtain ⟨row, hrow, htoList⟩ := List.mem_map.mp (List.mem_of_getElem? hchars)
  have hfree := feed_notMem_of_mem_rows hrow
  intro hfeed
  apply hfree
  rw [htoList]
  exact List.mem_append_right indent hfeed

theorem rows_dedent (text : String) :
    rows (dedent text) = (dedentRows ((rows text).map String.toList)).map String.ofList := by
  unfold dedent
  apply rows_joinRows
  · intro part hpart
    obtain ⟨kept, hkept, rfl⟩ := List.mem_map.mp hpart
    rw [String.toList_ofList]
    exact feed_notMem_of_mem_dedentRows hkept
  · simp [dedentRows, rows_ne_nil]

theorem length_rows_dedent (text : String) : (rows (dedent text)).length = (rows text).length := by
  simp [rows_dedent, dedentRows]

/-- Each row of the dedented text is the same row of the text without some spaces and tabs in
front. -/
theorem exists_row_of_dedent {text row : String} {index : Nat}
    (hrow : (rows (dedent text))[index]? = some row) :
    ∃ indent : String,
      (rows text)[index]? = some (indent ++ row) ∧ ∀ c ∈ indent.toList, isIndentChar c = true := by
  rw [rows_dedent, List.getElem?_map, Option.map_eq_some_iff] at hrow
  obtain ⟨kept, hkept, rfl⟩ := hrow
  obtain ⟨chars, hchars, indent, rfl, hindent⟩ := exists_row_of_dedentRows hkept
  rw [List.getElem?_map, Option.map_eq_some_iff] at hchars
  obtain ⟨whole, hwhole, htoList⟩ := hchars
  refine ⟨String.ofList indent, ?_, by simpa using hindent⟩
  rw [hwhole, ← String.ofList_append, ← htoList, String.ofList_toList]

end ReviewContext.Text
