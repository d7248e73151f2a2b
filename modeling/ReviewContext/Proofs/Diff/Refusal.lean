import ReviewContext.Proofs.Diff.HeaderGrammar
import ReviewContext.Proofs.Diff.Run

/-!
# What reading a diff refuses

Reading refuses a diff for one reason only: a row that is spelled as a header has a number of more
digits than a numeral may have. Whatever else the rows are, each of them gives one record.
-/

namespace ReviewContext.Diff

open ReviewContext.Text

/-- Whether a row of the diff is spelled as a header with a number of so many digits, and these are
too many. -/
def HoldsOverlongNumber (text : String) (count : Nat) : Prop :=
  ∃ row ∈ diffRows text, ∃ digits heading, IsSpelledAs row digits heading ∧
    ∃ run ∈ digits.numbers, run.length = count ∧ digitLimit < count

theorem exists_spelling_of_headerFault? {row : String} {fault : NumeralFault}
    (hfault : headerFault? row = some fault) :
    ∃ digits heading, IsSpelledAs row digits heading ∧
      ∃ run ∈ digits.numbers, digitLimit < run.length ∧ fault = .tooLongToRead run.length := by
  obtain ⟨digits, hscan, hdigits⟩ := Option.bind_eq_some_iff.mp hfault
  obtain ⟨heading, hrow⟩ := scan?_eq_some_iff.mp hscan
  exact ⟨digits, heading, hrow, HeaderDigits.exists_numbers_of_fault? hdigits⟩

namespace FileDiff

variable {text path : String} {oldPath : Option String}

theorem holdsOverlongNumber_of_read {fault : NumeralFault}
    (hread : read text path oldPath = .error fault) :
    ∃ count, HoldsOverlongNumber text count ∧ fault = .tooLongToRead count := by
  unfold read at hread
  split at hread
  · rename_i hfirst
    cases hread
    obtain ⟨row, hmem, hfault⟩ := List.exists_of_findSome?_eq_some hfirst
    obtain ⟨digits, heading, hrow, run, hrun, hlong, hcause⟩ :=
      exists_spelling_of_headerFault? hfault
    exact ⟨run.length, ⟨row, hmem, digits, heading, hrow, run, hrun, rfl, hlong⟩, hcause⟩
  · cases hread

/-- A diff that is read holds no overlong number, for such a number stops the reading. -/
theorem not_holdsOverlongNumber_of_read {diff : FileDiff} {count : Nat}
    (hread : read text path oldPath = .ok diff) :
    ¬ HoldsOverlongNumber text count := by
  rintro ⟨row, hmem, digits, heading, hrow, run, hrun, rfl, hlong⟩
  have hnone := headerFault?_of_read hread row hmem
  rw [headerFault?_of_isSpelledAs hrow] at hnone
  exact HeaderDigits.fault?_ne_none hrun hlong hnone

theorem contents_of_read {diff : FileDiff} (hread : read text path oldPath = .ok diff) :
    diff.records.map Record.content = diffRows text := by
  rw [eq_of_read hread]
  exact Cursor.contents_run Cursor.start (diffRows text)

/-- Reading a diff fails just when a header in it has an overlong number, which the failure then
counts. Otherwise it gives a diff with one record for each row. -/
theorem read_refuses_iff_overlong (text path : String) (oldPath : Option String) :
    ((∃ fault, read text path oldPath = .error fault) ↔
        ∃ count, HoldsOverlongNumber text count) ∧
      (∀ fault, read text path oldPath = .error fault →
        ∃ count, HoldsOverlongNumber text count ∧ fault = .tooLongToRead count) ∧
      ((∃ diff, read text path oldPath = .ok diff ∧
          diff.records.map Record.content = diffRows text) ↔
        ¬ ∃ count, HoldsOverlongNumber text count) := by
  cases hread : read text path oldPath with
  | error fault =>
    obtain ⟨count, hholds, rfl⟩ := holdsOverlongNumber_of_read hread
    refine ⟨by simpa using ⟨count, hholds⟩, ?_, by simpa using ⟨count, hholds⟩⟩
    rintro _ ⟨rfl⟩
    exact ⟨count, hholds, rfl⟩
  | ok diff =>
    have hnone : ¬ ∃ count, HoldsOverlongNumber text count := fun ⟨_, hholds⟩ =>
      not_holdsOverlongNumber_of_read hread hholds
    refine ⟨by simpa using hnone, by simp, ?_⟩
    simpa [hnone] using contents_of_read hread

end FileDiff

end ReviewContext.Diff
