import ReviewContext.Proofs.Diff.Run
import ReviewContext.Source.Rebuilt

/-!
# Ascending diffs

In an ascending diff every line follows a header, and every header starts at a line of the new
file, counted from one, that no row before it has passed. The records that are lines of the new
file then have strictly increasing numbers, across the hunks as well as inside of them.
-/

namespace ReviewContext.Diff

open ReviewContext.Text
open ReviewContext.Source (fileNumber isSourceLine)

namespace Cursor

/-- Whether the rows ascend from a cursor on, behind a header or not. -/
def ascends (cursor : Cursor) (headed : Bool) : List String → Bool
  | [] => true
  | row :: rest =>
    (match header? row with
      | some header => 1 ≤ header.newStart && cursor.newLine ≤ header.newStart
      | none => headed || (cursor.step row).1.isUnlabeled) &&
    (cursor.step row).2.ascends (headed || isHeader row) rest

end Cursor

def isAscending (text : String) : Bool :=
  Cursor.start.ascends false (diffRows text)

namespace Record

def isNewLine (record : Record) : Bool :=
  !record.isHeader && record.newNumber.isSome

theorem fileNumber_of_newNumber {record : Record} {number : Int}
    (hnumber : record.newNumber = some number) :
    fileNumber record = number := by
  rw [fileNumber, hnumber, Option.getD_some]

theorem newNumber_of_isNewLine {record : Record} (hnew : record.isNewLine = true) :
    record.newNumber = some (fileNumber record) := by
  simp only [isNewLine, Bool.and_eq_true, Option.isSome_iff_exists] at hnew
  obtain ⟨-, number, hnumber⟩ := hnew
  rw [fileNumber_of_newNumber hnumber, hnumber]

end Record

/-- The numbers of some records increase strictly, and none lies below a bound. -/
structure RisesFrom (bound : Int) (records : List Record) : Prop where
  bounded : ∀ record ∈ records, bound ≤ fileNumber record
  increasing : records.Pairwise fun first second => fileNumber first < fileNumber second

namespace RisesFrom

theorem nil (bound : Int) : RisesFrom bound [] :=
  ⟨by simp, List.Pairwise.nil⟩

theorem lower {bound smaller : Int} {records : List Record}
    (hrises : RisesFrom bound records)
    (hle : smaller ≤ bound) :
    RisesFrom smaller records := by
  constructor
  · intro record hrecord
    have hbound := hrises.bounded record hrecord
    omega
  · exact hrises.increasing

theorem sublist {bound : Int} {records kept : List Record}
    (hrises : RisesFrom bound records)
    (hkept : kept.Sublist records) :
    RisesFrom bound kept :=
  ⟨fun record hrecord => hrises.bounded record (hkept.subset hrecord),
    hrises.increasing.sublist hkept⟩

theorem cons {record : Record} {records : List Record}
    (hrises : RisesFrom (fileNumber record + 1) records) :
    RisesFrom (fileNumber record) (record :: records) := by
  constructor
  · intro other hother
    rcases List.mem_cons.mp hother with rfl | hrest
    · omega
    · have hbound := hrises.bounded other hrest
      omega
  · refine List.pairwise_cons.mpr ⟨?_, hrises.increasing⟩
    intro other hother
    have hbound := hrises.bounded other hother
    omega

end RisesFrom

namespace Cursor

theorem ascends_header {cursor : Cursor} {headed : Bool} {row : String} {rest : List String}
    {header : Header}
    (hheader : header? row = some header)
    (hascends : cursor.ascends headed (row :: rest) = true) :
    1 ≤ header.newStart ∧ cursor.newLine ≤ header.newStart ∧
      (atHeader header).ascends true rest = true := by
  have hyes : isHeader row = true := by
    rw [isHeader_eq_isSome, hheader, Option.isSome_some]
  have hstep := cursor.step_of_header? hheader
  simp only [ascends, hheader, hyes, hstep, Bool.and_eq_true, decide_eq_true_eq, Bool.or_true,
    and_assoc] at hascends
  exact hascends

theorem ascends_line {cursor next : Cursor} {headed : Bool} {row : String} {rest : List String}
    {record : Record}
    (htakes : cursor.Takes row record next)
    (hheader : header? row = none)
    (hascends : cursor.ascends headed (row :: rest) = true) :
    (headed = true ∨ record.isUnlabeled = true) ∧ next.ascends headed rest = true := by
  have hno : isHeader row = false := by
    rw [isHeader_eq_isSome, hheader, Option.isSome_none]
  simpa [ascends, hheader, hno, htakes.eq_step] using hascends

/-- A row that is no header is the current line of the new file or does not touch it. -/
theorem Takes.newLine_cases {cursor next : Cursor} {row : String} {record : Record}
    (htakes : cursor.Takes row record next)
    (hheader : header? row = none) :
    (record.isNewLine = true ∧ record.newNumber = some (cursor.newLine : Int) ∧
        next.newLine = cursor.newLine + 1) ∨
      (record.newNumber = none ∧ next.newLine = cursor.newLine) := by
  have hisHeader := htakes.isHeader_eq
  rw [hheader, Option.isSome_none] at hisHeader
  cases htakes with
  | header header hsome => simp [hheader] at hsome
  | added => exact .inl ⟨by simp [Record.isNewLine, hisHeader], rfl, rfl⟩
  | removed => exact .inr ⟨rfl, rfl⟩
  | unchanged => exact .inl ⟨by simp [Record.isNewLine, hisHeader], rfl, rfl⟩
  | foreign => exact .inr ⟨rfl, rfl⟩

theorem rises_run {cursor : Cursor} {headed : Bool} {rows : List String}
    (hascends : cursor.ascends headed rows = true)
    (hheaded : headed = true → 1 ≤ cursor.newLine) :
    RisesFrom (max 1 cursor.newLine) ((cursor.run rows).filter Record.isNewLine) := by
  induction rows generalizing cursor headed with
  | nil => exact .nil _
  | cons row rest ih =>
    have htakes := cursor.takes_step row
    have hisHeader := htakes.isHeader_eq
    rw [run]
    cases hheader : header? row with
    | some header =>
      -- Only a header can move the line of the new file back; this one does not.
      obtain ⟨hpos, hle, hnext⟩ := ascends_header hheader hascends
      have hstep := cursor.step_of_header? hheader
      rw [hheader, Option.isSome_some] at hisHeader
      rw [List.filter_cons_of_neg (by simp [Record.isNewLine, hisHeader]), hstep]
      refine (ih hnext fun _ => hpos).lower ?_
      simp only [atHeader]
      omega
    | none =>
      obtain ⟨hplace, hnext⟩ := ascends_line htakes hheader hascends
      rcases htakes.newLine_cases hheader with ⟨hnew, hnumber, hline⟩ | ⟨hnumber, hline⟩
      · -- A numbered row needs a header in front of it, which started at one or later.
        have hpos : 1 ≤ cursor.newLine :=
          hheaded (by simpa [Record.isUnlabeled, hnumber] using hplace)
        have hfile : fileNumber (cursor.step row).1 = cursor.newLine :=
          Record.fileNumber_of_newNumber hnumber
        rw [List.filter_cons_of_pos hnew]
        refine (RisesFrom.cons ((ih hnext fun _ => ?_).lower ?_)).lower ?_
        · omega
        · omega
        · omega
      · rw [List.filter_cons_of_neg (by simp [Record.isNewLine, hnumber])]
        rw [← hline] at hheaded ⊢
        exact ih hnext hheaded

end Cursor

theorem rises_of_isAscending {text path : String} {oldPath : Option String} {diff : FileDiff}
    (hread : FileDiff.read text path oldPath = .ok diff)
    (hascending : isAscending text = true) :
    RisesFrom 1 (diff.records.filter Record.isNewLine) := by
  have hrises := Cursor.rises_run hascending (by simp)
  rw [FileDiff.eq_of_read hread]
  exact hrises.lower (by omega)

end ReviewContext.Diff
