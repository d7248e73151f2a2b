import Mathlib.Data.List.Forall2
import ReviewContext.Proofs.Diff.Run

/-!
# Counts that headers declare

A header puts the cursor at its starts and lets its counts decide about rows that begin with three
signs of one side. Where a diff has no such row, its counts cannot be seen: two diffs that differ in
them alone are read into records with the same kinds and numbers. Two cursors run over the rows side
by side; they stand at the same lines throughout, whatever either of them has left.
-/

namespace ReviewContext.Diff

open ReviewContext.Text

/-- The rows are the same, or they are headers with the same starts. -/
inductive SameButCounts : String → String → Prop where
  | same (row : String) : SameButCounts row row
  | headers {row otherRow : String} {header otherHeader : Header}
      (hheader : header? row = some header)
      (hotherHeader : header? otherRow = some otherHeader)
      (holdStart : header.oldStart = otherHeader.oldStart)
      (hnewStart : header.newStart = otherHeader.newStart) :
      SameButCounts row otherRow

/-- Whether the row begins with three signs of one side. -/
def hasTripleSign (row : String) : Bool :=
  ['+', '+', '+'].isPrefixOf row.toList || ['-', '-', '-'].isPrefixOf row.toList

/-- The records have the same kind and numbers, and the same content unless they are headers. -/
structure Record.AgreesButHeaders (record other : Record) : Prop where
  kind : record.kind = other.kind
  oldNumber : record.oldNumber = other.oldNumber
  newNumber : record.newNumber = other.newNumber
  displayNumber : record.displayNumber = other.displayNumber
  isHeader : record.isHeader = other.isHeader
  content : record.isHeader = false → record.content = other.content

theorem Record.AgreesButHeaders.refl (record : Record) : record.AgreesButHeaders record :=
  ⟨rfl, rfl, rfl, rfl, rfl, fun _ => rfl⟩

namespace Cursor

/-- The cursors stand at the same lines. What they have left may differ. -/
structure StandsWith (cursor other : Cursor) : Prop where
  oldLine : cursor.oldLine = other.oldLine
  newLine : cursor.newLine = other.newLine

/-- Without three signs at its head, a row is a line of a side whatever is left there. -/
theorem isLineOf_eq {sign : Char} {row : String} (left : Nat)
    (htriple : [sign, sign, sign].isPrefixOf row.toList = false) :
    isLineOf sign left row = [sign].isPrefixOf row.toList := by
  simp [isLineOf, htriple]

/-- Apart from headers, a row is taken alike by cursors that stand at the same lines. -/
theorem StandsWith.step_of_line {cursor other : Cursor} {row : String}
    (hstands : cursor.StandsWith other)
    (hheader : header? row = none)
    (htriple : hasTripleSign row = false) :
    (cursor.step row).1 = (other.step row).1 ∧
      (cursor.step row).2.StandsWith (other.step row).2 := by
  simp only [hasTripleSign, Bool.or_eq_false_iff] at htriple
  obtain ⟨hplus, hminus⟩ := htriple
  simp only [step, hheader, isLineOf_eq _ hplus, isLineOf_eq _ hminus, hstands.oldLine,
    hstands.newLine]
  split
  · exact ⟨rfl, hstands.oldLine, congrArg (· + 1) hstands.newLine⟩
  · split
    · exact ⟨rfl, congrArg (· + 1) hstands.oldLine, hstands.newLine⟩
    · split
      · exact ⟨rfl, congrArg (· + 1) hstands.oldLine, congrArg (· + 1) hstands.newLine⟩
      · exact ⟨rfl, hstands⟩

theorem StandsWith.step_of_headers {cursor other : Cursor} {row otherRow : String}
    {header otherHeader : Header}
    (hheader : header? row = some header)
    (hotherHeader : header? otherRow = some otherHeader)
    (holdStart : header.oldStart = otherHeader.oldStart)
    (hnewStart : header.newStart = otherHeader.newStart) :
    (cursor.step row).1.AgreesButHeaders (other.step otherRow).1 ∧
      (cursor.step row).2.StandsWith (other.step otherRow).2 := by
  have hisHeader : isHeader row = true := by
    rw [isHeader_eq_isSome, hheader, Option.isSome_some]
  have hotherIsHeader : isHeader otherRow = true := by
    rw [isHeader_eq_isSome, hotherHeader, Option.isSome_some]
  rw [cursor.step_of_header? hheader, other.step_of_header? hotherHeader]
  constructor
  · constructor <;> simp [Record.isHeader, holdStart, hnewStart, hisHeader, hotherIsHeader]
  · exact ⟨holdStart, hnewStart⟩

theorem StandsWith.step {cursor other : Cursor} {row otherRow : String}
    (hstands : cursor.StandsWith other)
    (hrow : SameButCounts row otherRow)
    (htriple : hasTripleSign row = false) :
    (cursor.step row).1.AgreesButHeaders (other.step otherRow).1 ∧
      (cursor.step row).2.StandsWith (other.step otherRow).2 := by
  cases hrow with
  | headers hheader hotherHeader holdStart hnewStart =>
    exact step_of_headers hheader hotherHeader holdStart hnewStart
  | same =>
    -- a header puts both cursors at its starts; any other row moves them alike
    cases hheader : header? row with
    | some header => exact step_of_headers hheader hheader rfl rfl
    | none =>
      obtain ⟨hrecord, hnext⟩ := hstands.step_of_line hheader htriple
      exact ⟨hrecord ▸ Record.AgreesButHeaders.refl _, hnext⟩

theorem StandsWith.run {cursor other : Cursor} {rows otherRows : List String}
    (hstands : cursor.StandsWith other)
    (hrows : List.Forall₂ SameButCounts rows otherRows)
    (htriple : ∀ row ∈ rows, hasTripleSign row = false) :
    List.Forall₂ Record.AgreesButHeaders (cursor.run rows) (other.run otherRows) := by
  induction hrows generalizing cursor other with
  | nil => exact .nil
  | cons hrow _ ih =>
    obtain ⟨hrecord, hnext⟩ := hstands.step hrow (htriple _ List.mem_cons_self)
    exact .cons hrecord (ih hnext fun row hmem => htriple row (List.mem_cons_of_mem _ hmem))

end Cursor

/-- Diffs without triple signs that differ only in the counts of headers have the same records, but
for the contents of headers. -/
theorem records_agree_of_sameButCounts {text otherText path otherPath : String}
    {oldPath otherOldPath : Option String} {diff otherDiff : FileDiff}
    (hrows : List.Forall₂ SameButCounts (diffRows text) (diffRows otherText))
    (htriple : ∀ row ∈ diffRows text, hasTripleSign row = false)
    (hread : FileDiff.read text path oldPath = .ok diff)
    (hreadOther : FileDiff.read otherText otherPath otherOldPath = .ok otherDiff) :
    List.Forall₂ Record.AgreesButHeaders diff.records otherDiff.records := by
  rw [FileDiff.eq_of_read hread, FileDiff.eq_of_read hreadOther]
  have hstands : Cursor.start.StandsWith Cursor.start := ⟨rfl, rfl⟩
  exact hstands.run hrows htriple

/-- With a row of three signs, the counts can be seen. -/
example :
    (Cursor.start.run ["@@ -1 +1 @@", "--- a"]).map Record.kind = [.context, .context] ∧
      (Cursor.start.run ["@@ -1,1 +1 @@", "--- a"]).map Record.kind = [.context, .removed] := by
  decide +kernel

namespace Recounted

/-- The headers announce too much, then nothing. -/
def text : String :=
  "+x\n@@ -1,9 +1,9 @@ f\n-a\n--b\n+c\n\n\\ n\n@@ -7 +8 @@\n d\n++e\n"

def otherText : String :=
  "+x\n@@ -1 +1,0 @@\r\n-a\n--b\n+c\n\n\\ n\n@@ -7,2 +8,1 @@ g\n d\n++e"

def records (first second : String) : List Record :=
  [⟨"+x", .added, none, some 0, 0⟩, ⟨first, .context, some 1, some 1, 1⟩,
    ⟨"-a", .removed, some 1, none, 1⟩, ⟨"--b", .removed, some 2, none, 2⟩,
    ⟨"+c", .added, none, some 1, 1⟩, ⟨"", .context, some 3, some 2, 2⟩,
    ⟨"\\ n", .context, none, none, 3⟩, ⟨second, .context, some 7, some 8, 8⟩,
    ⟨" d", .context, some 7, some 8, 8⟩, ⟨"++e", .added, none, some 9, 9⟩]

theorem read_text :
    FileDiff.read text "a.c" none =
      .ok ⟨"a.c", none, records "@@ -1,9 +1,9 @@ f" "@@ -7 +8 @@", [⟨1, 9, 1, 9⟩, ⟨7, 0, 8, 0⟩]⟩ := by
  rw [FileDiff.read_eq_ok (by decide +kernel)]
  exact congrArg Except.ok (by decide +kernel)

theorem read_otherText :
    FileDiff.read otherText "a.c" none =
      .ok ⟨"a.c", none, records "@@ -1 +1,0 @@" "@@ -7,2 +8,1 @@ g",
        [⟨1, 0, 1, 0⟩, ⟨7, 2, 8, 1⟩]⟩ := by
  rw [FileDiff.read_eq_ok (by decide +kernel)]
  exact congrArg Except.ok (by decide +kernel)

theorem rows_sameButCounts : List.Forall₂ SameButCounts (diffRows text) (diffRows otherText) := by
  have hrows :
      diffRows text =
        ["+x", "@@ -1,9 +1,9 @@ f", "-a", "--b", "+c", "", "\\ n", "@@ -7 +8 @@", " d", "++e"] := by
    decide +kernel
  have hotherRows :
      diffRows otherText =
        ["+x", "@@ -1 +1,0 @@", "-a", "--b", "+c", "", "\\ n", "@@ -7,2 +8,1 @@ g", " d", "++e"] := by
    decide +kernel
  have hnine : header? "@@ -1,9 +1,9 @@ f" = some ⟨1, 9, 1, 9⟩ := by
    decide +kernel
  have hnone : header? "@@ -1 +1,0 @@" = some ⟨1, 0, 1, 0⟩ := by
    decide +kernel
  have homitted : header? "@@ -7 +8 @@" = some ⟨7, 0, 8, 0⟩ := by
    decide +kernel
  have htwo : header? "@@ -7,2 +8,1 @@ g" = some ⟨7, 2, 8, 1⟩ := by
    decide +kernel
  have hfirst := SameButCounts.headers hnine hnone rfl rfl
  have hsecond := SameButCounts.headers homitted htwo rfl rfl
  have hsame (row : String) : SameButCounts row row := .same row
  rw [hrows, hotherRows]
  simp [hfirst, hsecond, hsame]

end Recounted

theorem recounted_records_agree :
    List.Forall₂ Record.AgreesButHeaders
      (Recounted.records "@@ -1,9 +1,9 @@ f" "@@ -7 +8 @@")
      (Recounted.records "@@ -1 +1,0 @@" "@@ -7,2 +8,1 @@ g") :=
  records_agree_of_sameButCounts Recounted.rows_sameButCounts (by decide +kernel)
    Recounted.read_text Recounted.read_otherText

end ReviewContext.Diff
