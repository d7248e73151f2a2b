import Mathlib.Data.List.Induction
import Mathlib.Data.List.TakeWhile
import Mathlib.Data.Nat.Digits.Defs
import ReviewContext.Proofs.Diff.HeaderRow

/-!
# The grammar of hunk headers

A row is a header just when it can be spelled as the marks of a hunk with runs of digits between
them and anything behind. There is at most one way to spell a row so, and reading it gives the
numbers that the runs denote by the places of their digits, zero for a count that is left out. So a
header that is written in decimal is read back, whatever heading follows it.
-/

namespace ReviewContext.Diff

open ReviewContext.Text

/-! ## What the scanners accept -/

theorem scanDigits?_eq_some_iff {chars run rest : List Char} :
    scanDigits? chars = some (run, rest) ↔
      chars = run ++ rest ∧ IsDigitRun run ∧ NoDigitAhead rest := by
  constructor
  · intro hscan
    simp only [scanDigits?] at hscan
    split at hscan
    · cases hscan
    · rename_i hsome
      cases hscan
      refine ⟨List.takeWhile_append_dropWhile.symm, ⟨by simpa using hsome, ?_⟩, ?_⟩
      · intro c hc
        exact List.mem_takeWhile_imp hc
      · intro c tail hrest
        have hhead := List.head?_dropWhile_not isDigit chars
        rw [hrest] at hhead
        exact hhead
  · rintro ⟨rfl, hrun, hrest⟩
    exact scanDigits?_append hrun hrest

theorem of_scanCount {chars rest : List Char} {count : Option (List Char)}
    (hscan : scanCount chars = (count, rest)) :
    (count = none ∧ chars = rest) ∨
      ∃ run, count = some run ∧ IsDigitRun run ∧ chars = ',' :: (run ++ rest) := by
  unfold scanCount at hscan
  split at hscan
  · split at hscan
    · rename_i hrun
      obtain ⟨rfl, hdigits, -⟩ := scanDigits?_eq_some_iff.mp hrun
      cases hscan
      exact .inr ⟨_, rfl, hdigits, rfl⟩
    · cases hscan
      exact .inl ⟨rfl, rfl⟩
  · cases hscan
    exact .inl ⟨rfl, rfl⟩

theorem of_scanSide? {chars rest : List Char} {side : SideDigits}
    (hscan : scanSide? chars = some (side, rest)) :
    side.IsWellFormed ∧ chars = side.chars ++ rest := by
  obtain ⟨⟨start, behind⟩, hstart, hside⟩ := Option.map_eq_some_iff.mp hscan
  obtain ⟨rfl, hrun, -⟩ := scanDigits?_eq_some_iff.mp hstart
  cases hcount : scanCount behind with
  | mk count tail =>
    simp only [hcount, Prod.mk.injEq] at hside
    obtain ⟨rfl, rfl⟩ := hside
    rcases of_scanCount hcount with ⟨rfl, rfl⟩ | ⟨run, rfl, hdigits, rfl⟩
    · exact ⟨⟨hrun, by simp⟩, by simp [SideDigits.chars]⟩
    · exact ⟨⟨hrun, by simpa using hdigits⟩, by simp [SideDigits.chars]⟩

/-- A row as the marks and digits of a header with a heading behind them. -/
structure IsSpelledAs (row : String) (digits : HeaderDigits) (heading : List Char) : Prop where
  old : digits.old.IsWellFormed
  new : digits.new.IsWellFormed
  row_eq : row.toList = digits.chars ++ heading

theorem IsSpelledAs.scan?_eq {row : String} {digits : HeaderDigits} {heading : List Char}
    (hrow : IsSpelledAs row digits heading) :
    HeaderDigits.scan? row.toList = some digits := by
  rw [hrow.row_eq]
  exact HeaderDigits.scan?_chars_append hrow.old hrow.new heading

theorem scan?_eq_some_iff {row : String} {digits : HeaderDigits} :
    HeaderDigits.scan? row.toList = some digits ↔ ∃ heading, IsSpelledAs row digits heading := by
  constructor
  · intro hscan
    simp only [HeaderDigits.scan?, Option.bind_eq_bind, Option.bind_eq_some_iff, Prod.exists,
      List.isPrefixOf?_eq_some_iff_append_eq] at hscan
    obtain ⟨_, hrow, old, _, hold, _, rfl, new, _, hnew, heading, rfl, hdigits⟩ := hscan
    cases hdigits
    obtain ⟨holdFormed, rfl⟩ := of_scanSide? hold
    obtain ⟨hnewFormed, rfl⟩ := of_scanSide? hnew
    exact ⟨heading, holdFormed, hnewFormed, by simp [HeaderDigits.chars, ← hrow]⟩
  · rintro ⟨heading, hrow⟩
    exact hrow.scan?_eq

/-- A row is spelled as a header in one way only. -/
theorem IsSpelledAs.unique {row : String} {digits others : HeaderDigits}
    {heading otherHeading : List Char}
    (hrow : IsSpelledAs row digits heading)
    (hother : IsSpelledAs row others otherHeading) :
    others = digits ∧ otherHeading = heading := by
  have hdigits : others = digits :=
    Option.some.inj (hother.scan?_eq.symm.trans hrow.scan?_eq)
  subst hdigits
  exact ⟨rfl, List.append_cancel_left (hother.row_eq.symm.trans hrow.row_eq)⟩

/-! ## Numbers -/

/-- The number that a run of digits denotes by their places. -/
def placeValue (run : List Char) : Nat :=
  Nat.ofDigits 10 (run.reverse.map fun c => (digitValue? c).getD 0)

theorem digitsValue_eq_placeValue (run : List Char) : digitsValue run = placeValue run := by
  induction run using List.reverseRecOn with
  | nil => rfl
  | append_singleton run c ih =>
    have hlast : digitsValue (run ++ [c]) = digitsValue run * 10 + (digitValue? c).getD 0 := by
      rw [digitsValue, List.foldl_append]
      rfl
    rw [hlast, ih, placeValue, placeValue, List.reverse_append, List.reverse_singleton,
      List.singleton_append, List.map_cons, Nat.ofDigits_cons, Nat.mul_comm, Nat.add_comm]

namespace HeaderDigits

/-- The runs of digits that are there. -/
def numbers (digits : HeaderDigits) : List (List Char) :=
  digits.old.start :: digits.old.count.toList ++ digits.new.start :: digits.new.count.toList

/-- The numbers that the runs denote, zero for a count that is left out. -/
def value (digits : HeaderDigits) : Header where
  oldStart := placeValue digits.old.start
  oldCount := digits.old.count.elim 0 placeValue
  newStart := placeValue digits.new.start
  newCount := digits.new.count.elim 0 placeValue

theorem header_eq_value (digits : HeaderDigits) : digits.header = digits.value := by
  have hcount (count : Option (List Char)) :
      digitsValue (count.getD []) = count.elim 0 placeValue := by
    cases count with
    | none => rfl
    | some run => exact digitsValue_eq_placeValue run
  simp only [header, value, digitsValue_eq_placeValue, ← hcount]

/-- A count that is left out is read as a run of no digits. -/
theorem mem_runs_iff {digits : HeaderDigits} {run : List Char} (hrun : run ≠ []) :
    run ∈ digits.runs ↔ run ∈ digits.numbers := by
  obtain ⟨⟨oldStart, oldCount⟩, ⟨newStart, newCount⟩⟩ := digits
  cases oldCount <;> cases newCount <;> simp [runs, numbers, hrun]

theorem exists_numbers_of_fault? {digits : HeaderDigits} {fault : NumeralFault}
    (hfault : digits.fault? = some fault) :
    ∃ run ∈ digits.numbers, digitLimit < run.length ∧ fault = .tooLongToRead run.length := by
  obtain ⟨run, hmem, hrun⟩ := List.exists_of_findSome?_eq_some hfault
  by_cases hshort : run.length ≤ digitLimit
  · simp [readDigits, hshort] at hrun
  · have hsome : run ≠ [] := by
      rintro rfl
      exact hshort (Nat.zero_le _)
    have hcause : fault = .tooLongToRead run.length := by
      simpa [readDigits, hshort, eq_comm] using hrun
    exact ⟨run, (mem_runs_iff hsome).mp hmem, Nat.not_le.mp hshort, hcause⟩

theorem fault?_eq_none {digits : HeaderDigits}
    (hshort : ∀ run ∈ digits.numbers, run.length ≤ digitLimit) :
    digits.fault? = none := by
  cases hfault : digits.fault? with
  | none => rfl
  | some fault =>
    obtain ⟨run, hrun, hlong, -⟩ := exists_numbers_of_fault? hfault
    exact absurd (hshort run hrun) (Nat.not_le.mpr hlong)

theorem fault?_ne_none {digits : HeaderDigits} {run : List Char}
    (hrun : run ∈ digits.numbers) (hlong : digitLimit < run.length) :
    digits.fault? ≠ none := by
  intro hnone
  have hsome : run ≠ [] := by
    rintro rfl
    exact Nat.not_lt_zero _ hlong
  have hread := List.findSome?_eq_none_iff.mp hnone run ((mem_runs_iff hsome).mpr hrun)
  simp [readDigits, Nat.not_le.mpr hlong] at hread

end HeaderDigits

/-! ## Reading headers -/

theorem headerFault?_of_isSpelledAs {row : String} {digits : HeaderDigits} {heading : List Char}
    (hrow : IsSpelledAs row digits heading) :
    headerFault? row = digits.fault? := by
  rw [headerFault?, hrow.scan?_eq, Option.bind_some]

theorem header?_of_isSpelledAs {row : String} {digits : HeaderDigits} {heading : List Char}
    (hrow : IsSpelledAs row digits heading) :
    header? row = some digits.value := by
  rw [header?, hrow.scan?_eq, Option.map_some, HeaderDigits.header_eq_value]

theorem exists_isSpelledAs_of_header? {row : String} {header : Header}
    (hheader : header? row = some header) :
    ∃ digits heading, IsSpelledAs row digits heading := by
  obtain ⟨digits, hscan, -⟩ := Option.map_eq_some_iff.mp hheader
  exact ⟨digits, scan?_eq_some_iff.mp hscan⟩

/-- No run of digits within the row is longer than a numeral may be. -/
def HasReadableRuns (row : String) : Prop :=
  ∀ run, run <:+: row.toList → (∀ c ∈ run, isDigit c = true) → run.length ≤ digitLimit

theorem SideDigits.infix_of_mem {side : SideDigits} {run : List Char}
    (hside : side.IsWellFormed)
    (hrun : run ∈ side.start :: side.count.toList) :
    IsDigitRun run ∧ run <:+: side.chars := by
  obtain ⟨start, count⟩ := side
  rcases List.mem_cons.mp hrun with rfl | hcount
  · refine ⟨hside.start, ?_⟩
    cases count with
    | none => exact List.infix_rfl
    | some count => exact ⟨[], ',' :: count, rfl⟩
  · obtain rfl := Option.mem_toList.mp hcount
    exact ⟨hside.count run rfl, start ++ [','], [], by simp [SideDigits.chars]⟩

theorem IsSpelledAs.infix_of_mem_numbers {row : String} {digits : HeaderDigits}
    {heading run : List Char}
    (hrow : IsSpelledAs row digits heading)
    (hrun : run ∈ digits.numbers) :
    IsDigitRun run ∧ run <:+: row.toList := by
  have hold : digits.old.chars <:+: row.toList :=
    ⟨['@', '@', ' ', '-'], [' ', '+'] ++ digits.new.chars ++ [' ', '@', '@'] ++ heading, by
      simp [hrow.row_eq, HeaderDigits.chars]⟩
  have hnew : digits.new.chars <:+: row.toList :=
    ⟨['@', '@', ' ', '-'] ++ digits.old.chars ++ [' ', '+'], [' ', '@', '@'] ++ heading, by
      simp [hrow.row_eq, HeaderDigits.chars]⟩
  rcases List.mem_append.mp hrun with hmem | hmem
  · obtain ⟨hdigits, hinfix⟩ := SideDigits.infix_of_mem hrow.old hmem
    exact ⟨hdigits, hinfix.trans hold⟩
  · obtain ⟨hdigits, hinfix⟩ := SideDigits.infix_of_mem hrow.new hmem
    exact ⟨hdigits, hinfix.trans hnew⟩

theorem headerFault?_of_hasReadableRuns {row : String} (hruns : HasReadableRuns row) :
    headerFault? row = none := by
  cases hscan : HeaderDigits.scan? row.toList with
  | none => rw [headerFault?, hscan, Option.bind_none]
  | some digits =>
    obtain ⟨heading, hrow⟩ := scan?_eq_some_iff.mp hscan
    rw [headerFault?_of_isSpelledAs hrow]
    refine HeaderDigits.fault?_eq_none fun run hrun => ?_
    obtain ⟨hdigits, hinfix⟩ := hrow.infix_of_mem_numbers hrun
    exact hruns run hinfix hdigits.2

theorem length_toString (n : Nat) : (toString n).length = (naturalDigits n).length := by
  rw [← String.length_toList, naturalDigits]
  simp

theorem row_eq_text (oldStart oldCount newStart newCount : Nat) (heading : String) :
    Header.row ⟨oldStart, oldCount, newStart, newCount⟩ heading =
      s!"@@ -{oldStart},{oldCount} +{newStart},{newCount} @@{heading}" := by
  apply String.toList_injective
  have hpiece (piece : String) : toString piece = piece := rfl
  simp [Header.row, HeaderDigits.chars, Header.digits, SideDigits.chars, naturalDigits, hpiece]

theorem readHeader_row {header : Header} (hheader : header.isWritable = true) (heading : String) :
    readHeader (header.row heading) = .ok (some header) := by
  rw [readHeader, Header.headerFault?_row hheader, Header.header?_row]

/-- A row without overlong runs of digits is read as a header just when it is spelled as one, in the
one way in which it can be; and a header that is written in decimal is read back. -/
theorem readHeader_recognises_spelling :
    (∀ row, HasReadableRuns row →
      ∃ found, readHeader row = .ok found ∧
        (found.isSome ↔ ∃ digits heading, IsSpelledAs row digits heading) ∧
        ∀ digits heading, IsSpelledAs row digits heading →
          found = some digits.value ∧
            ∀ others otherHeading, IsSpelledAs row others otherHeading →
              others = digits ∧ otherHeading = heading) ∧
    ∀ (oldStart oldCount newStart newCount : Nat) (heading : String),
      (∀ n ∈ [oldStart, oldCount, newStart, newCount], (toString n).length ≤ digitLimit) →
        readHeader s!"@@ -{oldStart},{oldCount} +{newStart},{newCount} @@{heading}" =
          .ok (some ⟨oldStart, oldCount, newStart, newCount⟩) := by
  constructor
  · intro row hruns
    have hread : readHeader row = .ok (header? row) := by
      rw [readHeader, headerFault?_of_hasReadableRuns hruns]
    refine ⟨header? row, hread, ⟨?_, ?_⟩, ?_⟩
    · intro hsome
      obtain ⟨header, hheader⟩ := Option.isSome_iff_exists.mp hsome
      exact exists_isSpelledAs_of_header? hheader
    · rintro ⟨digits, heading, hrow⟩
      rw [header?_of_isSpelledAs hrow, Option.isSome_some]
    · intro digits heading hrow
      exact ⟨header?_of_isSpelledAs hrow, fun _ _ => hrow.unique⟩
  · intro oldStart oldCount newStart newCount heading hlimit
    simp only [length_toString] at hlimit
    have hwritable : Header.isWritable ⟨oldStart, oldCount, newStart, newCount⟩ = true := by
      simpa [Header.isWritable, isWritable, and_assoc] using hlimit
    rw [← row_eq_text, readHeader_row hwritable]

theorem hasReadableRuns_of_length {row : String} (hrow : row.length ≤ digitLimit) :
    HasReadableRuns row := by
  intro run hinfix _
  have hlength : run.length ≤ row.length := hinfix.length_le
  exact hlength.trans hrow

/-- A row with digits of two scripts, without an old count, and with marks in the heading. -/
def mixedRow : String :=
  "@@ -1٢ +٣,04 @@ -5,6 +7 @@"

def mixedDigits : HeaderDigits :=
  ⟨⟨['1', '٢'], none⟩, ⟨['٣'], some ['0', '4']⟩⟩

theorem isSpelledAs_mixedRow : IsSpelledAs mixedRow mixedDigits " -5,6 +7 @@".toList where
  old := ⟨⟨by decide, List.all_eq_true.mp (by decide)⟩, by simp [mixedDigits]⟩
  new := by
    refine ⟨⟨by decide, List.all_eq_true.mp (by decide)⟩, ?_⟩
    rintro _ ⟨rfl⟩
    exact ⟨by decide, List.all_eq_true.mp (by decide)⟩
  row_eq := by decide

theorem mixedRow_recognised :
    HasReadableRuns mixedRow ∧
      IsSpelledAs mixedRow mixedDigits " -5,6 +7 @@".toList ∧
      readHeader mixedRow = .ok (some ⟨12, 0, 3, 4⟩) ∧
      readHeader "@@ -12,0 +3,4 @@ -5,6 +7 @@" = .ok (some ⟨12, 0, 3, 4⟩) := by
  have hruns : HasReadableRuns mixedRow := hasReadableRuns_of_length (by decide)
  obtain ⟨hspelled, hdecimal⟩ := readHeader_recognises_spelling
  obtain ⟨found, hread, -, hfound⟩ := hspelled mixedRow hruns
  have hvalue : mixedDigits.value = ⟨12, 0, 3, 4⟩ := by decide +kernel
  rw [(hfound _ _ isSpelledAs_mixedRow).1, hvalue] at hread
  exact ⟨hruns, isSpelledAs_mixedRow, hread, hdecimal 12 0 3 4 " -5,6 +7 @@" (by decide)⟩

end ReviewContext.Diff
