import ReviewContext.Text.Rows

/-!
# Rows split and joined

No row of a text holds a line feed, and joining rows without line feeds and splitting the result
gives the rows back. Dropping the carriage returns at the end of a row leaves everything in front
of them alone.
-/

namespace ReviewContext.Text

theorem notMem_of_mem_splitOn {α : Type} [BEq α] [LawfulBEq α]
    {separator : α} {xs piece : List α}
    (hpiece : piece ∈ xs.splitOn separator) :
    separator ∉ piece := by
  induction xs generalizing piece with
  | nil =>
    have hnil : piece = [] := by simpa using hpiece
    simp [hnil]
  | cons x xs ih =>
    rw [List.splitOn_cons_eq_if_modifyHead] at hpiece
    split at hpiece
    · rcases List.mem_cons.mp hpiece with rfl | hrest
      · simp
      · exact ih hrest
    · rename_i hx
      obtain ⟨head, tail, hsplit⟩ :=
        List.exists_cons_of_ne_nil (List.splitOn_ne_nil separator xs)
      rw [hsplit, List.modifyHead_cons] at hpiece
      rcases List.mem_cons.mp hpiece with rfl | hrest
      · have hhead : separator ∉ head := ih (by simp [hsplit])
        have hne : separator ≠ x := fun h => hx (by simp [h])
        simp [hhead, hne]
      · exact ih (by simp [hsplit, hrest])

theorem feed_notMem_append {first second : String}
    (hfirst : '\n' ∉ first.toList)
    (hsecond : '\n' ∉ second.toList) :
    '\n' ∉ (first ++ second).toList := by
  rw [String.toList_append, List.mem_append, not_or]
  exact ⟨hfirst, hsecond⟩

theorem feed_notMem_of_mem_rows {text row : String} (hrow : row ∈ rows text) :
    '\n' ∉ row.toList := by
  obtain ⟨piece, hpiece, rfl⟩ := List.mem_map.mp hrow
  rw [String.toList_ofList]
  exact notMem_of_mem_splitOn hpiece

theorem toList_joinRows (parts : List String) :
    (joinRows parts).toList = ['\n'].intercalate (parts.map String.toList) := by
  have hfeed : "\n".toList = ['\n'] := by decide
  rw [joinRows, String.toList_intercalate, hfeed]

theorem rows_joinRows {parts : List String}
    (hfree : ∀ part ∈ parts, '\n' ∉ part.toList)
    (hne : parts ≠ []) :
    rows (joinRows parts) = parts := by
  have hsplit :
      (joinRows parts).toList.splitOn '\n' = parts.map String.toList := by
    rw [toList_joinRows]
    refine List.splitOn_intercalate '\n' ?_ (by simpa using hne)
    intro chars hchars
    obtain ⟨part, hpart, rfl⟩ := List.mem_map.mp hchars
    exact hfree part hpart
  rw [rows, hsplit, List.map_map]
  simp [Function.comp_def]

theorem rows_append_feed (first second : String) :
    rows (first ++ "\n" ++ second) = rows first ++ rows second := by
  have hfeed : "\n".toList = ['\n'] := by decide
  have hchars : (first ++ "\n" ++ second).toList = first.toList ++ '\n' :: second.toList := by
    simp [hfeed]
  rw [rows, hchars, List.splitOn_append_cons_self, List.map_append]
  rfl

theorem rows_ne_nil (text : String) : rows text ≠ [] := by
  simp [rows]

/-- Rows that each end in a line feed are the rows of their joined text, and an empty one last. -/
theorem rows_flatten_terminated {parts : List String}
    (hfree : ∀ part ∈ parts, '\n' ∉ part.toList) :
    rows (String.ofList (parts.flatMap fun part => part.toList ++ ['\n'])) = parts ++ [""] := by
  simp only [rows, String.toList_ofList]
  induction parts with
  | nil => simp
  | cons part rest ih =>
    have hhead : '\n' ∉ part.toList := hfree part (by simp)
    have htail := ih fun other hother => hfree other (by simp [hother])
    rw [List.flatMap_cons, List.append_assoc, List.singleton_append,
      List.splitOn_append_cons_self_of_not_mem hhead, List.map_cons, htail]
    simp

theorem mem_intercalate_of_mem {α : Type} {separator part : List α} {parts : List (List α)} {x : α}
    (hpart : part ∈ parts)
    (hx : x ∈ part) :
    x ∈ separator.intercalate parts := by
  induction parts with
  | nil => cases hpart
  | cons first rest ih =>
    cases rest with
    | nil =>
      rw [List.mem_singleton] at hpart
      simpa [hpart] using hx
    | cons second rest =>
      rw [List.intercalate_cons_cons, List.mem_append, List.mem_append]
      rcases List.mem_cons.mp hpart with rfl | hrest
      · exact .inl (.inl hx)
      · exact .inr (ih hrest)

/-! ## Carriage returns -/

theorem toList_dropCarriageReturns_append {head : List Char}
    (hhead : head.getLast? ≠ some '\r') (tail : List Char) :
    (dropCarriageReturns (String.ofList (head ++ tail))).toList =
      head ++ (dropCarriageReturns (String.ofList tail)).toList := by
  simp only [dropCarriageReturns, String.toList_ofList, List.reverse_append]
  rw [List.dropWhile_append]
  split
  · rename_i hnone
    have htail : tail.reverse.dropWhile (fun c => c == '\r') = [] := by
      simpa using hnone
    rw [htail, List.reverse_nil, List.append_nil]
    rw [← List.head?_reverse] at hhead
    cases hreverse : head.reverse with
    | nil => simpa using hreverse.symm
    | cons last rest =>
      have hlast : last ≠ '\r' := by
        intro h
        simp [hreverse, h] at hhead
      rw [List.dropWhile_cons_of_neg (by simpa using hlast), ← hreverse, List.reverse_reverse]
  · simp

theorem dropCarriageReturns_of_getLast? {row : String}
    (hrow : row.toList.getLast? ≠ some '\r') :
    dropCarriageReturns row = row := by
  apply String.toList_injective
  have h := toList_dropCarriageReturns_append hrow []
  simpa [dropCarriageReturns] using h

theorem dropCarriageReturns_isPrefix (row : String) :
    (dropCarriageReturns row).toList <+: row.toList := by
  obtain ⟨dropped, hdropped⟩ := List.dropWhile_suffix (fun c => c == '\r') (l := row.toList.reverse)
  refine ⟨dropped.reverse, ?_⟩
  rw [dropCarriageReturns, String.toList_ofList, ← List.reverse_append, hdropped,
    List.reverse_reverse]

theorem feed_notMem_dropCarriageReturns {row : String} (hrow : '\n' ∉ row.toList) :
    '\n' ∉ (dropCarriageReturns row).toList := by
  intro hmem
  exact hrow ((dropCarriageReturns_isPrefix row).subset hmem)

end ReviewContext.Text
