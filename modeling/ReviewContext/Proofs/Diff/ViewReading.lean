import Mathlib.Data.List.Forall2
import ReviewContext.Proofs.Diff.NumberedView

/-!
# The numbered view read back

A reader of the view takes the first character of a row for the kind of a record. If a mark of
numbers in brackets comes next, the last number in it is the number of the record, and what follows
the mark is its content; without a mark everything is content. Lines of a file and headers never
begin with a bracket, so only a row of metadata that does can be mistaken for a mark.
-/

namespace ReviewContext.Diff

open ReviewContext.Text

/-! ## The reader -/

/-- What a reader makes of a row of the view. -/
structure Reading where
  kind : Kind
  /-- The number in front of an arrow. -/
  oldNumber : Option Nat
  number : Option Nat
  content : String
  deriving DecidableEq, Repr

def Kind.ofSign? : Char → Option Kind
  | '+' => some .added
  | '-' => some .removed
  | ' ' => some .context
  | _ => none

/-- The one or two numbers of a mark at the head, and what follows the mark. -/
def scanMark? : List Char → Option (Option Nat × Nat × List Char)
  | '[' :: chars =>
    match scanDigits? chars with
    | some (digits, ']' :: ' ' :: rest) => some (none, digitsValue digits, rest)
    | some (oldDigits, '-' :: '>' :: chars) =>
      match scanDigits? chars with
      | some (digits, ']' :: ' ' :: rest) =>
        some (some (digitsValue oldDigits), digitsValue digits, rest)
      | _ => none
    | _ => none
  | _ => none

def Reading.ofRow? (row : String) : Option Reading :=
  match row.toList with
  | sign :: chars =>
    (Kind.ofSign? sign).map fun kind =>
      match scanMark? chars with
      | some (oldNumber, number, rest) => ⟨kind, oldNumber, some number, String.ofList rest⟩
      | none => ⟨kind, none, none, String.ofList chars⟩
  | [] => none

theorem ofSign?_sign (kind : Kind) : Kind.ofSign? kind.sign = some kind := by
  cases kind <;> rfl

theorem scanMark?_singleMark (n : Nat) (rest : List Char) :
    scanMark? ((singleMark n).toList ++ rest) = some (none, n, rest) := by
  have hbracket : NoDigitAhead (']' :: ' ' :: rest) := noDigitAhead_cons (by decide)
  have hscan := scanDigits?_append (isDigitRun_naturalDigits n) hbracket
  have hchars :
      (singleMark n).toList ++ rest = '[' :: (naturalDigits n ++ ']' :: ' ' :: rest) := by
    simp [toList_singleMark, integerDigits_natCast]
  rw [hchars, scanMark?, hscan]
  simp only [digitsValue_naturalDigits]

theorem scanMark?_pairMark (oldNumber n : Nat) (rest : List Char) :
    scanMark? ((pairMark oldNumber n).toList ++ rest) = some (some oldNumber, n, rest) := by
  have hbracket : NoDigitAhead (']' :: ' ' :: rest) := noDigitAhead_cons (by decide)
  have hscan := scanDigits?_append (isDigitRun_naturalDigits n) hbracket
  have harrow : NoDigitAhead ('-' :: '>' :: (naturalDigits n ++ ']' :: ' ' :: rest)) :=
    noDigitAhead_cons (by decide)
  have hscanOld := scanDigits?_append (isDigitRun_naturalDigits oldNumber) harrow
  have hchars :
      (pairMark oldNumber n).toList ++ rest =
        '[' :: (naturalDigits oldNumber ++
          '-' :: '>' :: (naturalDigits n ++ ']' :: ' ' :: rest)) := by
    simp [toList_pairMark, integerDigits_natCast]
  rw [hchars, scanMark?, hscanOld]
  simp only [hscan, digitsValue_naturalDigits]

theorem scanMark?_eq_none {chars : List Char} (hhead : chars.head? ≠ some '[') :
    scanMark? chars = none := by
  unfold scanMark?
  split
  · simp at hhead
  · rfl

/-! ## Rows of the view -/

/-- The reading has the kind and the content of the record and its display number, if that is
shown. -/
structure Reading.Reports (reading : Reading) (record : Record) : Prop where
  kind : reading.kind = record.kind
  content : reading.content = record.content
  number : ∀ n, reading.number = some n → (n : Int) = record.displayNumber
  number_eq_none_iff :
    reading.number = none ↔ record.isUnlabeled = true ∨ record.displayNumber = 0
  oldNumber : ∀ n, reading.oldNumber = some n → record.oldNumber = some (n : Int)

namespace Record

theorem shownNew?_eq {record : Record} {n : Nat} (hnew : record.newNumber = some (n : Int)) :
    record.shownNew? = if n = 0 then none else some (n : Int) := by
  by_cases hn : n = 0 <;> simp [shownNew?, hnew, hn]

theorem shownOld?_eq {record : Record} {n : Nat} (hold : record.oldNumber = some (n : Int)) :
    record.shownOld? = if n = 0 then none else some (n : Int) := by
  by_cases hn : n = 0 <;> simp [shownOld?, hold, hn]

theorem ofRow?_of_scanMark? {record : Record} {oldNumber : Option Nat} {n : Nat}
    (hscan : scanMark? (record.mark.toList ++ record.content.toList) =
      some (oldNumber, n, record.content.toList)) :
    Reading.ofRow? record.numberedRow =
      some ⟨record.kind, oldNumber, some n, record.content⟩ := by
  have hrow :
      record.numberedRow.toList =
        record.kind.sign :: (record.mark.toList ++ record.content.toList) := by
    simp [numberedRow_eq]
  simp [Reading.ofRow?, hrow, ofSign?_sign, hscan]

theorem ofRow?_of_unmarked {record : Record}
    (hmark : record.mark = "")
    (hhead : record.content.toList.head? ≠ some '[') :
    Reading.ofRow? record.numberedRow = some ⟨record.kind, none, none, record.content⟩ := by
  have hrow : record.numberedRow.toList = record.kind.sign :: record.content.toList := by
    simp [numberedRow_eq, hmark]
  simp [Reading.ofRow?, hrow, ofSign?_sign, scanMark?_eq_none hhead]

/-- The row of the record in the view is read into a report of the record. -/
def IsReadBack (record : Record) : Prop :=
  ∃ reading, Reading.ofRow? record.numberedRow = some reading ∧ reading.Reports record

variable {record : Record} {oldNumber n : Nat}

theorem isReadBack_of_unmarked
    (hmark : record.mark = "")
    (hhead : record.content.toList.head? ≠ some '[')
    (habsent : record.isUnlabeled = true ∨ record.displayNumber = 0) :
    record.IsReadBack :=
  ⟨_, ofRow?_of_unmarked hmark hhead, rfl, rfl, by simp, by simpa using habsent, by simp⟩

theorem isReadBack_of_single
    (hmark : record.mark = singleMark n)
    (hlabeled : record.isUnlabeled = false)
    (hdisplay : record.displayNumber = n)
    (hn : n ≠ 0) :
    record.IsReadBack := by
  have hscan := scanMark?_singleMark n record.content.toList
  rw [← hmark] at hscan
  exact ⟨_, ofRow?_of_scanMark? hscan, rfl, rfl, by simp [hdisplay], by simp [hlabeled, hdisplay, hn],
    by simp⟩

theorem isReadBack_of_pair
    (hmark : record.mark = pairMark oldNumber n)
    (hold : record.oldNumber = some (oldNumber : Int))
    (hlabeled : record.isUnlabeled = false)
    (hdisplay : record.displayNumber = n)
    (hn : n ≠ 0) :
    record.IsReadBack := by
  have hscan := scanMark?_pairMark oldNumber n record.content.toList
  rw [← hmark] at hscan
  exact ⟨_, ofRow?_of_scanMark? hscan, rfl, rfl, by simp [hdisplay], by simp [hlabeled, hdisplay, hn],
    by simp [hold]⟩

/-- A record with one number shows it unless it is zero. -/
theorem isReadBack_of_oneNumber {shown : Option Int}
    (hmark : record.mark = (shown.map singleMark).getD "")
    (hshown : shown = if n = 0 then none else some (n : Int))
    (hlabeled : record.isUnlabeled = false)
    (hdisplay : record.displayNumber = n)
    (hhead : record.content.toList.head? ≠ some '[') :
    record.IsReadBack := by
  rw [hshown] at hmark
  by_cases hn : n = 0
  · exact isReadBack_of_unmarked (by simpa [hn] using hmark) hhead (.inr (by simp [hdisplay, hn]))
  · exact isReadBack_of_single (by simpa [hn] using hmark) hlabeled hdisplay hn

theorem isReadBack_of_context
    (hkind : record.kind = .context)
    (hold : record.oldNumber = some (oldNumber : Int))
    (hnew : record.newNumber = some (n : Int))
    (hdisplay : record.displayNumber = n)
    (hhead : record.content.toList.head? ≠ some '[') :
    record.IsReadBack := by
  have hlabeled : record.isUnlabeled = false := by simp [isUnlabeled, hnew]
  have hmark := mark_context hkind
  rw [shownNew?_eq hnew, shownOld?_eq hold] at hmark
  -- a new number of zero hides the whole mark, an old one only the number in front of the arrow
  by_cases hn : n = 0
  · exact isReadBack_of_unmarked (by simpa [hn] using hmark) hhead (.inr (by simp [hdisplay, hn]))
  · by_cases holdZero : oldNumber = 0
    · exact isReadBack_of_single (by simpa [hn, holdZero] using hmark) hlabeled hdisplay hn
    · exact isReadBack_of_pair (by simpa [hn, holdZero] using hmark) hold hlabeled hdisplay hn

theorem isReadBack_of_unlabeled
    (hunlabeled : record.isUnlabeled = true)
    (hhead : record.content.toList.head? ≠ some '[') :
    record.IsReadBack := by
  have hnumbers := hunlabeled
  simp only [isUnlabeled, Bool.and_eq_true, Option.isNone_iff_eq_none, beq_iff_eq] at hnumbers
  obtain ⟨⟨-, hnew⟩, hkind⟩ := hnumbers
  have hmark : record.mark = "" := by simp [mark_context hkind, shownNew?, hnew]
  exact isReadBack_of_unmarked hmark hhead (.inl hunlabeled)

end Record

namespace Cursor

/-- A header or a line of a file does not begin with a bracket. -/
theorem Takes.head?_ne_bracket {cursor next : Cursor} {row : String} {record : Record}
    (htakes : cursor.Takes row record next)
    (hlabeled : record.isUnlabeled = false) :
    row.toList.head? ≠ some '[' := by
  intro hhead
  obtain ⟨rest, hrow⟩ : ∃ rest, row.toList = '[' :: rest := by
    cases hchars : row.toList <;> simp_all
  have hnone : header? row = none := header?_eq_none (by simp [hrow])
  cases htakes with
  | header header hheader => simp [hnone] at hheader
  | added _ hadded => simp [isLineOf, hrow] at hadded
  | removed _ _ hremoved => simp [isLineOf, hrow] at hremoved
  | unchanged _ _ _ hunchanged =>
    have hne : row ≠ "" := by
      rintro rfl
      simp at hrow
    simp [isUnchanged, hrow, hne] at hunchanged
  | foreign => simp [Record.isUnlabeled] at hlabeled

theorem Takes.isReadBack {cursor next : Cursor} {row : String} {record : Record}
    (htakes : cursor.Takes row record next)
    (hhead : row.toList.head? ≠ some '[') :
    record.IsReadBack := by
  cases htakes with
  | header => exact Record.isReadBack_of_context rfl rfl rfl rfl hhead
  | added =>
    exact Record.isReadBack_of_oneNumber (Record.mark_added rfl) (Record.shownNew?_eq rfl) rfl rfl
      hhead
  | removed =>
    exact Record.isReadBack_of_oneNumber (Record.mark_removed rfl) (Record.shownOld?_eq rfl) rfl rfl
      hhead
  | unchanged => exact Record.isReadBack_of_context rfl rfl rfl rfl hhead
  | foreign => exact Record.isReadBack_of_unlabeled rfl hhead

end Cursor

/-- The view has a row for each record, from which its kind, content and number are read back. -/
theorem records_read_back_from_view {text path view : String} {oldPath : Option String}
    {diff : FileDiff}
    (hread : FileDiff.read text path oldPath = .ok diff)
    (hne : diff.records ≠ [])
    (hview : diff.numbered = .ok view) :
    List.Forall₂
      (fun row record =>
        record.isUnlabeled = false ∨ record.content.toList.head? ≠ some '[' →
          ∃ reading, Reading.ofRow? row = some reading ∧ reading.Reports record)
      (rows view) diff.records := by
  rw [rows_view hread hview hne, List.forall₂_map_left_iff, List.forall₂_same]
  intro record hrecord hreadable
  rw [FileDiff.eq_of_read hread] at hrecord
  obtain ⟨before, after, row, -, htakes⟩ := Cursor.exists_takes_of_mem_run hrecord
  rcases hreadable with hlabeled | hhead
  · exact htakes.isReadBack (htakes.head?_ne_bracket hlabeled)
  · rw [htakes.content_eq] at hhead
    exact htakes.isReadBack hhead

/-- A row of metadata that begins with a bracket is mistaken for one with a mark. -/
example :
    Reading.ofRow? (Record.numberedRow ⟨"[5] w", .context, none, none, 1⟩) =
      some ⟨.context, none, some 5, "w"⟩ := by
  decide +kernel

/-! A diff with marks in its lines, with lines that have the number zero, and with empty lines. -/

namespace MarkedLines

def text : String :=
  "--- a\n+[3] x\n@@ -1 +7 @@\n [1->2] y\n\n-[4] z\n@@ -0 +9 @@\n\n"

def records : List Record :=
  [⟨"--- a", .context, none, none, 1⟩, ⟨"+[3] x", .added, none, some 0, 0⟩,
    ⟨"@@ -1 +7 @@", .context, some 1, some 7, 7⟩, ⟨" [1->2] y", .context, some 1, some 7, 7⟩,
    ⟨"", .context, some 2, some 8, 8⟩, ⟨"-[4] z", .removed, some 3, none, 3⟩,
    ⟨"@@ -0 +9 @@", .context, some 0, some 9, 9⟩, ⟨"", .context, some 0, some 9, 9⟩]

def diff : FileDiff :=
  ⟨"a.c", none, records, [⟨1, 0, 7, 0⟩, ⟨0, 0, 9, 0⟩]⟩

def view : String :=
  " --- a\n++[3] x\n [1->7] @@ -1 +7 @@\n [1->7]  [1->2] y\n [2->8] \n-[3] -[4] z\n" ++
    " [9] @@ -0 +9 @@\n [9] "

end MarkedLines

theorem markedLines_read_back :
    List.Forall₂
      (fun row record =>
        record.isUnlabeled = false ∨ record.content.toList.head? ≠ some '[' →
          ∃ reading, Reading.ofRow? row = some reading ∧ reading.Reports record)
      (rows MarkedLines.view) MarkedLines.records := by
  have hread : FileDiff.read MarkedLines.text "a.c" none = .ok MarkedLines.diff := by
    decide +kernel
  have hview : MarkedLines.diff.numbered = .ok MarkedLines.view := by
    decide +kernel
  exact records_read_back_from_view hread (by decide) hview

end ReviewContext.Diff
