import Mathlib.Data.List.Infix
import ReviewContext.Proofs.Text.RowConcat

/-!
# Beginnings of rows

What stands behind a line feed begins a row other than the first, and every such row stands behind a
line feed. A mark that begins a later row of a text can therefore be looked for as a stretch of its
characters, and in a text that is put together from parts it is found in one of the parts, unless it
goes over a seam. The rows of the front of a text are beginnings of its rows.
-/

namespace ReviewContext.Text

/-! ## Marks and seams -/

section Seams

variable {α : Type} {x : α} {mark front back : List α}

/-- A mark without the character that stands behind a front begins there only as it begins in the
front alone. -/
theorem isPrefix_append_cons_iff (hx : x ∉ mark) :
    mark <+: front ++ x :: back ↔ mark <+: front := by
  constructor
  · intro hprefix
    -- a prefix that goes beyond the front would have the character behind it
    rcases List.prefix_or_prefix_of_prefix hprefix (List.prefix_append front (x :: back)) with
      hshort | ⟨more, rfl⟩
    · exact hshort
    · rw [List.prefix_append_right_inj] at hprefix
      cases more with
      | nil => simp
      | cons y more =>
        obtain ⟨rfl, -⟩ := List.cons_prefix_cons.mp hprefix
        simp at hx
  · intro hprefix
    exact hprefix.trans (List.prefix_append front _)

theorem infix_append_cons (hx : x ∉ mark) (hmark : mark <:+: front ++ x :: back) :
    mark <:+: front ∨ mark <:+: back := by
  induction front with
  | nil =>
    rcases List.infix_cons_iff.mp hmark with hhere | hback
    · rw [List.prefix_cons_iff] at hhere
      rcases hhere with rfl | ⟨more, rfl, -⟩
      · exact .inl (List.infix_refl [])
      · simp at hx
    · exact .inr hback
  | cons first front ih =>
    rw [List.cons_append, List.infix_cons_iff, ← List.cons_append] at hmark
    rcases hmark with hhere | hlater
    · exact .inl ((isPrefix_append_cons_iff hx).mp hhere).isInfix
    · rcases ih hlater with hfront | hback
      · exact .inl (hfront.trans (List.suffix_cons first front).isInfix)
      · exact .inr hback

/-- A mark whose first character the front lacks stands behind the front. -/
theorem infix_of_infix_append (hx : x ∉ front) (hmark : x :: mark <:+: front ++ back) :
    x :: mark <:+: back := by
  induction front with
  | nil => exact hmark
  | cons first front ih =>
    rw [List.mem_cons, not_or] at hx
    rw [List.cons_append, List.infix_cons_iff] at hmark
    rcases hmark with hhere | hlater
    · exact absurd (List.cons_prefix_cons.mp hhere).1 hx.1
    · exact ih hx.2 hlater

end Seams

/-! ## Rows behind a line feed -/

section Rows

variable {mark chars row : List Char}

theorem exists_row_behind_feed (hmark : '\n' ∉ mark) (hwithin : '\n' :: mark <:+: chars) :
    ∃ row ∈ (chars.splitOn '\n').tail, mark <+: row := by
  obtain ⟨front, behind, rfl⟩ := hwithin
  have hchars : front ++ '\n' :: mark ++ behind = front ++ '\n' :: (mark ++ behind) := by
    simp
  obtain ⟨first, others, hfront⟩ := List.exists_cons_of_ne_nil (List.splitOn_ne_nil '\n' front)
  have hhead := head?_splitOn_feed '\n' (mark ++ behind)
  rw [hchars, List.splitOn_append_cons_self, hfront, List.cons_append, List.tail_cons]
  refine ⟨firstRow '\n' (mark ++ behind), ?_, ?_⟩
  · exact List.mem_append_right _ (List.mem_of_mem_head? hhead)
  · have hkept : ∀ c ∈ mark, (c != '\n') = true := by
      intro c hc
      rw [bne_iff_ne]
      rintro rfl
      exact hmark hc
    rw [firstRow, List.takeWhile_append_of_pos hkept]
    exact List.prefix_append mark _

theorem feed_infix_of_row (hrow : row ∈ (chars.splitOn '\n').tail) : '\n' :: row <:+: chars := by
  induction chars with
  | nil => simp at hrow
  | cons c rest ih =>
    by_cases hc : c = '\n'
    · subst hc
      rw [splitOn_feed_cons, List.tail_cons] at hrow
      obtain ⟨first, others, hrest⟩ :=
        List.exists_cons_of_ne_nil (List.splitOn_ne_nil '\n' rest)
      rw [hrest, List.tail_cons] at ih
      rw [hrest] at hrow
      rcases List.mem_cons.mp hrow with rfl | hlater
      · have hfirst : row = firstRow '\n' rest := by
          have hhead := head?_splitOn_feed '\n' rest
          rw [hrest, List.head?_cons, Option.some_inj] at hhead
          exact hhead
        have hbegins : row <+: rest := by
          rw [hfirst]
          exact List.takeWhile_prefix _
        exact (List.cons_prefix_cons.mpr ⟨rfl, hbegins⟩).isInfix
      · exact (ih hlater).trans (List.suffix_cons '\n' rest).isInfix
    · rw [splitOn_cons_of_ne hc, List.tail_modifyHead] at hrow
      exact (ih hrow).trans (List.suffix_cons c rest).isInfix

end Rows

theorem exists_row_of_isPrefix {text whole row : String}
    (hbegins : text.toList <+: whole.toList)
    (hrow : row ∈ rows text) :
    ∃ other ∈ rows whole, row.toList <+: other.toList := by
  obtain ⟨behind, hwhole⟩ := hbegins
  obtain ⟨chars, hchars, rfl⟩ := List.mem_map.mp hrow
  obtain ⟨index, hindex⟩ := List.mem_iff_getElem?.mp hchars
  have hinside : index ≤ text.toList.count '\n' := by
    have hlt := (List.getElem?_eq_some_iff.mp hindex).1
    rw [length_splitOn_feed] at hlt
    omega
  have hlonger := getElem?_splitOn_append_left text.toList behind hinside
  rw [hwhole, hindex, Option.map_some] at hlonger
  refine ⟨_, List.mem_map_of_mem (List.mem_of_getElem? hlonger), ?_⟩
  rw [String.toList_ofList, String.toList_ofList]
  split
  · exact List.prefix_append chars _
  · exact List.prefix_refl chars

theorem mem_or_eq_empty_of_mem_rows_joinRows {parts : List String} {row : String}
    (hfree : ∀ part ∈ parts, '\n' ∉ part.toList)
    (hrow : row ∈ rows (joinRows parts)) :
    row ∈ parts ∨ row = "" := by
  by_cases hparts : parts = []
  · subst hparts
    have hnone : rows (joinRows []) = [""] := by decide
    rw [hnone, List.mem_singleton] at hrow
    exact .inr hrow
  · rw [rows_joinRows hfree hparts] at hrow
    exact .inl hrow

end ReviewContext.Text
