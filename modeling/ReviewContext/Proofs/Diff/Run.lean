import ReviewContext.Diff.Reader
import ReviewContext.Proofs.Diff.HeaderRow
import ReviewContext.Proofs.Text.RowSplit

/-!
# Steps and runs of the cursor

A step takes a row in one of five ways: as a header, as an added, a removed or an unchanged line,
or as a row that belongs to neither file. A run over two lists of rows one after the other is a
run over the first and then one over the second, from the cursor behind the first.
-/

namespace ReviewContext.Diff

open ReviewContext.Text

namespace Cursor

/-- The five ways to take a row, with the record and the cursor that each of them gives. -/
inductive Takes (cursor : Cursor) (row : String) : Record → Cursor → Prop where
  | header (header : Header)
      (hheader : header? row = some header) :
      Takes cursor row
        ⟨row, .context, some header.oldStart, some header.newStart, header.newStart⟩
        (atHeader header)
  | added
      (hheader : header? row = none)
      (hadded : isLineOf '+' cursor.newLeft row = true) :
      Takes cursor row ⟨row, .added, none, some cursor.newLine, cursor.newLine⟩ cursor.passNew
  | removed
      (hheader : header? row = none)
      (hadded : isLineOf '+' cursor.newLeft row = false)
      (hremoved : isLineOf '-' cursor.oldLeft row = true) :
      Takes cursor row ⟨row, .removed, some cursor.oldLine, none, cursor.oldLine⟩ cursor.passOld
  | unchanged
      (hheader : header? row = none)
      (hadded : isLineOf '+' cursor.newLeft row = false)
      (hremoved : isLineOf '-' cursor.oldLeft row = false)
      (hunchanged : isUnchanged row = true) :
      Takes cursor row
        ⟨row, .context, some cursor.oldLine, some cursor.newLine, cursor.newLine⟩
        cursor.passOld.passNew
  | foreign
      (hheader : header? row = none)
      (hadded : isLineOf '+' cursor.newLeft row = false)
      (hremoved : isLineOf '-' cursor.oldLeft row = false)
      (hunchanged : isUnchanged row = false) :
      Takes cursor row
        ⟨row, .context, none, none, if cursor.newLine = 0 then 1 else cursor.newLine⟩ cursor

theorem takes_step (cursor : Cursor) (row : String) :
    cursor.Takes row (cursor.step row).1 (cursor.step row).2 := by
  unfold step
  cases hheader : header? row with
  | some header => exact .header header hheader
  | none =>
    cases hadded : isLineOf '+' cursor.newLeft row with
    | true => simpa [hadded] using Takes.added hheader hadded
    | false =>
      cases hremoved : isLineOf '-' cursor.oldLeft row with
      | true => simpa [hadded, hremoved] using Takes.removed hheader hadded hremoved
      | false =>
        cases hunchanged : isUnchanged row with
        | true =>
          simpa [hadded, hremoved, hunchanged] using
            Takes.unchanged hheader hadded hremoved hunchanged
        | false =>
          simpa [hadded, hremoved, hunchanged] using
            Takes.foreign hheader hadded hremoved hunchanged

/-- A row is taken in one way only. -/
theorem Takes.eq_step {cursor next : Cursor} {row : String} {record : Record}
    (htakes : cursor.Takes row record next) :
    cursor.step row = (record, next) := by
  cases htakes <;> simp_all [step]

theorem step_of_header? (cursor : Cursor) {row : String} {header : Header}
    (hheader : header? row = some header) :
    cursor.step row =
      (⟨row, .context, some header.oldStart, some header.newStart, header.newStart⟩,
        atHeader header) := by
  simp [step, hheader]

def passAll (cursor : Cursor) : List String → Cursor
  | [] => cursor
  | row :: rest => (cursor.step row).2.passAll rest

theorem run_append (cursor : Cursor) (first second : List String) :
    cursor.run (first ++ second) = cursor.run first ++ (cursor.passAll first).run second := by
  induction first generalizing cursor with
  | nil => rfl
  | cons row rest ih => simp only [List.cons_append, run, passAll, ih]

theorem passAll_append (cursor : Cursor) (first second : List String) :
    cursor.passAll (first ++ second) = (cursor.passAll first).passAll second := by
  induction first generalizing cursor with
  | nil => rfl
  | cons row rest ih => simp only [List.cons_append, passAll, ih]

theorem Takes.content_eq {cursor next : Cursor} {row : String} {record : Record}
    (htakes : cursor.Takes row record next) :
    record.content = row := by
  cases htakes <;> rfl

theorem Takes.isHeader_eq {cursor next : Cursor} {row : String} {record : Record}
    (htakes : cursor.Takes row record next) :
    record.isHeader = (header? row).isSome := by
  rw [Record.isHeader, htakes.content_eq, isHeader_eq_isSome]

theorem contents_run (cursor : Cursor) (rows : List String) :
    (cursor.run rows).map Record.content = rows := by
  induction rows generalizing cursor with
  | nil => rfl
  | cons row rest ih => rw [run, List.map_cons, (cursor.takes_step row).content_eq, ih]

theorem exists_takes_of_mem_run {cursor : Cursor} {rows : List String} {record : Record}
    (hrecord : record ∈ cursor.run rows) :
    ∃ (before after : Cursor) (row : String), row ∈ rows ∧ before.Takes row record after := by
  induction rows generalizing cursor with
  | nil => cases hrecord
  | cons row rest ih =>
    rcases List.mem_cons.mp hrecord with rfl | hrest
    · exact ⟨cursor, _, row, List.mem_cons_self, cursor.takes_step row⟩
    · obtain ⟨before, after, other, hother, htakes⟩ := ih hrest
      exact ⟨before, after, other, List.mem_cons_of_mem _ hother, htakes⟩

end Cursor

theorem feed_notMem_of_mem_diffRows {text row : String} (hrow : row ∈ diffRows text) :
    '\n' ∉ row.toList := by
  unfold diffRows at hrow
  obtain ⟨raw, hraw, rfl⟩ := List.mem_map.mp hrow
  apply feed_notMem_dropCarriageReturns
  split at hraw
  · exact feed_notMem_of_mem_rows (List.dropLast_subset _ hraw)
  · exact feed_notMem_of_mem_rows hraw

theorem diffRows_joinRows {parts : List String}
    (hfree : ∀ part ∈ parts, '\n' ∉ part.toList)
    (hlast : parts.getLast? ≠ some "") :
    diffRows (joinRows parts) = parts.map dropCarriageReturns := by
  by_cases hnil : parts = []
  · subst hnil
    decide
  · simp only [diffRows, rows_joinRows hfree hnil]
    rw [if_neg hlast]

theorem diffRows_terminated {parts : List String}
    (hfree : ∀ part ∈ parts, '\n' ∉ part.toList) :
    diffRows (String.ofList (parts.flatMap fun part => part.toList ++ ['\n'])) =
      parts.map dropCarriageReturns := by
  simp only [diffRows, rows_flatten_terminated hfree]
  simp

theorem FileDiff.read_eq_ok {text path : String} {oldPath : Option String}
    (hfault : ∀ row ∈ diffRows text, headerFault? row = none) :
    FileDiff.read text path oldPath =
      .ok ⟨path, oldPath, Cursor.start.run (diffRows text), (diffRows text).filterMap header?⟩ := by
  have hnone : (diffRows text).findSome? headerFault? = none :=
    List.findSome?_eq_none_iff.mpr hfault
  rw [FileDiff.read, hnone]

theorem FileDiff.eq_of_read {text path : String} {oldPath : Option String} {diff : FileDiff}
    (hread : FileDiff.read text path oldPath = .ok diff) :
    diff = ⟨path, oldPath, Cursor.start.run (diffRows text), (diffRows text).filterMap header?⟩ := by
  unfold FileDiff.read at hread
  split at hread
  · cases hread
  · cases hread
    rfl

theorem FileDiff.feed_notMem_of_read {text path : String} {oldPath : Option String}
    {diff : FileDiff} {record : Record}
    (hread : FileDiff.read text path oldPath = .ok diff)
    (hrecord : record ∈ diff.records) :
    '\n' ∉ record.content.toList := by
  rw [FileDiff.eq_of_read hread] at hrecord
  obtain ⟨before, after, row, hrow, htakes⟩ := Cursor.exists_takes_of_mem_run hrecord
  rw [htakes.content_eq]
  exact feed_notMem_of_mem_diffRows hrow

theorem FileDiff.headerFault?_of_read {text path : String} {oldPath : Option String}
    {diff : FileDiff}
    (hread : FileDiff.read text path oldPath = .ok diff) :
    ∀ row ∈ diffRows text, headerFault? row = none := by
  unfold FileDiff.read at hread
  split at hread
  · cases hread
  · rename_i hnone
    exact List.findSome?_eq_none_iff.mp hnone

end ReviewContext.Diff
