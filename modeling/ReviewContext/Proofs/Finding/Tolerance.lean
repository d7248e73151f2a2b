import ReviewContext.Proofs.Finding.Anchoring

/-!
# Odd findings among others

A finding is answered as if it stood alone, and a line that is no integer counts as zero. Two kinds
of value break the rule: an infinite line is refused, and so is a value that is asked for as text
and has none. The first finding that holds such a value ends the whole list of findings.
-/

namespace ReviewContext

open ReviewContext.Text
open ReviewContext.Diff (FileDiff)
open ReviewContext.Number (Binary)

/-- Values that can be read as integers: a fraction loses its decimals, a text is a numeral. -/
inductive Value.ReadsAs : Value → Int → Prop
  | bool (value : Bool) : ReadsAs (.bool value) (if value then 1 else 0)
  | int (n : Int) : ReadsAs (.int n) n
  | float (negative : Bool) (mantissa : Nat) (exponent : Int) :
      ReadsAs (.float (.finite negative mantissa exponent))
        (Binary.truncate negative mantissa exponent)
  | text {text : String} {n : Int}
      (hnumeral : readInteger? text = some n) :
      ReadsAs (.text text) n

theorem Value.ReadsAs.eq_zero {value : Value} {n : Int}
    (hreads : value.ReadsAs n)
    (habsent : value.isPresent = false) :
    n = 0 := by
  cases hreads with
  | bool flag => simpa [isPresent] using habsent
  | int => simpa [isPresent] using habsent
  | float negative mantissa exponent =>
    have hzero : mantissa = 0 := by simpa [isPresent, Binary.isZero] using habsent
    simp [Binary.truncate, hzero]
  | @text text _ hnumeral =>
    have hempty : text = "" := by simpa [isPresent] using habsent
    rw [hempty] at hnumeral
    cases hnumeral

namespace Issue

/-! ## Lines of findings -/

theorem readLine_eq_of_readsAs {value : Value} {n : Int} (hreads : value.ReadsAs n) :
    readLine value = .ok n := by
  cases hreads with
  | bool flag => rfl
  | int => rfl
  | float negative mantissa exponent => rfl
  | text hnumeral => simp [readLine, hnumeral]

theorem readLine_eq_zero {value : Value}
    (hunread : ∀ n, ¬ value.ReadsAs n)
    (hfinite : ∀ negative, value ≠ .float (.infinite negative)) :
    readLine value = .ok 0 := by
  cases value with
  | null => rfl
  | bool flag => exact absurd (.bool flag) (hunread _)
  | int n => exact absurd (.int n) (hunread n)
  | float number =>
    cases number with
    | nan => rfl
    | infinite negative => exact absurd rfl (hfinite negative)
    | finite negative mantissa exponent =>
      exact absurd (.float negative mantissa exponent) (hunread _)
  | text text =>
    cases hnumeral : readInteger? text with
    | none => simp [readLine, hnumeral]
    | some n => exact absurd (.text hnumeral) (hunread n)
  | list items => rfl
  | mapping members => rfl

variable {finding : Finding}

theorem lineOf_eq_of_readsAs {value : Value} {n : Int}
    (hlookup : finding.lookup "line" = some value)
    (hreads : value.ReadsAs n) :
    lineOf finding = .ok n := by
  rw [lineOf, present?, hlookup]
  cases hpresent : value.isPresent with
  | true => simp only [Option.filter_some_pos hpresent, readLine_eq_of_readsAs hreads]
  | false => simp only [Option.filter_some_neg hpresent, hreads.eq_zero hpresent]

theorem lineOf_eq_zero
    (hunread : ∀ value n, finding.lookup "line" = some value → ¬ value.ReadsAs n)
    (hfinite : ∀ negative, finding.lookup "line" ≠ some (.float (.infinite negative))) :
    lineOf finding = .ok 0 := by
  rw [lineOf, present?]
  cases hlookup : finding.lookup "line" with
  | none => rfl
  | some value =>
    cases hpresent : value.isPresent with
    | true =>
      simp only [Option.filter_some_pos hpresent]
      apply readLine_eq_zero (fun n => hunread value n hlookup)
      rintro negative rfl
      exact hfinite negative hlookup
    | false => simp only [Option.filter_some_neg hpresent]

theorem lineOf_eq_infiniteLine {negative : Bool}
    (hlookup : finding.lookup "line" = some (.float (.infinite negative))) :
    lineOf finding = .error .infiniteLine := by
  rw [lineOf, present?, hlookup]
  rfl

end Issue

namespace RawIssue

/-- The line of the issue can be read as an integer. -/
def LineReadsAs : RawIssue → Int → Prop
  | decoded finding, n => ∃ value, finding.lookup "line" = some value ∧ value.ReadsAs n
  | normal issue, n => issue.line = n

/-- The line of the issue is refused. -/
def HasInfiniteLine : RawIssue → Prop
  | decoded finding => ∃ negative, finding.lookup "line" = some (.float (.infinite negative))
  | normal _ => False

/-- The line that an issue is kept with, zero if its own cannot be read as an integer. -/
structure IsKeptAt (raw : RawIssue) (line : Int) : Prop where
  readable : ∀ n, raw.LineReadsAs n → line = n
  unreadable : (∀ n, ¬ raw.LineReadsAs n) → line = 0

structure IsReadable (room : Nat) (raw : RawIssue) : Prop where
  finite : ¬ raw.HasInfiniteLine
  texts : ∀ value ∈ raw.texts, value.HasText room

/-- What an issue is refused for. -/
inductive IsRefused (room : Nat) (raw : RawIssue) : Failure → Prop
  | infinite
      (hline : raw.HasInfiniteLine) :
      IsRefused room raw .infiniteLine
  | text {value : Value} {failure : Failure}
      (hmem : value ∈ raw.texts)
      (hlacks : value.LacksText room failure) :
      IsRefused room raw failure

variable {room : Nat} {raw : RawIssue}

theorem exists_lineOf_of_finite {finding : Issue.Finding}
    (hfinite : ¬ (decoded finding).HasInfiniteLine) :
    ∃ n, Issue.lineOf finding = .ok n ∧ (decoded finding).IsKeptAt n := by
  simp only [HasInfiniteLine, not_exists] at hfinite
  by_cases hreadable : ∃ n, (decoded finding).LineReadsAs n
  · obtain ⟨n, value, hlookup, hreads⟩ := hreadable
    have hline := Issue.lineOf_eq_of_readsAs hlookup hreads
    refine ⟨n, hline, ?_, ?_⟩
    · rintro m ⟨other, hother, hreadsOther⟩
      have hm := Issue.lineOf_eq_of_readsAs hother hreadsOther
      exact Except.ok.inj (hline.symm.trans hm)
    · intro hunread
      exact absurd ⟨value, hlookup, hreads⟩ (hunread n)
  · rw [not_exists] at hreadable
    have hline : Issue.lineOf finding = .ok 0 :=
      Issue.lineOf_eq_zero (fun value n hlookup hreads => hreadable n ⟨value, hlookup, hreads⟩)
        hfinite
    refine ⟨0, hline, ?_, fun _ => rfl⟩
    intro n hn
    exact absurd hn (hreadable n)

theorem exists_read_iff : (∃ issue, raw.read room = .ok issue) ↔ raw.IsReadable room := by
  cases raw with
  | normal issue =>
    refine ⟨fun _ => ⟨id, ?_⟩, fun _ => ⟨issue, rfl⟩⟩
    intro value hvalue
    cases hvalue
  | decoded finding =>
    rw [read, Issue.exists_ofFinding_iff]
    constructor
    · rintro ⟨⟨n, hline⟩, htexts⟩
      refine ⟨?_, htexts⟩
      rintro ⟨negative, hlookup⟩
      rw [Issue.lineOf_eq_infiniteLine hlookup] at hline
      cases hline
    · rintro ⟨hfinite, htexts⟩
      obtain ⟨n, hline, -⟩ := exists_lineOf_of_finite hfinite
      exact ⟨⟨n, hline⟩, htexts⟩

theorem isKeptAt_of_read {issue : Issue} (hread : raw.read room = .ok issue) :
    raw.IsKeptAt issue.line := by
  cases raw with
  | normal other =>
    cases hread
    exact ⟨fun n hn => hn, fun hunread => absurd rfl (hunread issue.line)⟩
  | decoded finding =>
    have hfinite := (exists_read_iff.mp ⟨issue, hread⟩).finite
    obtain ⟨n, hline, hkept⟩ := exists_lineOf_of_finite hfinite
    rw [(Issue.ofFinding_eq_ok_iff.mp hread).2.1] at hline
    rwa [Except.ok.inj hline]

theorem isRefused_of_read {failure : Failure} (hread : raw.read room = .error failure) :
    raw.IsRefused room failure := by
  cases raw with
  | normal issue => cases hread
  | decoded finding =>
    rcases Issue.failure_ofFinding hread with hline | ⟨value, hmem, hlacks⟩
    · by_cases hinfinite : (decoded finding).HasInfiniteLine
      · obtain ⟨negative, hlookup⟩ := hinfinite
        rw [Issue.lineOf_eq_infiniteLine hlookup] at hline
        rw [← Except.error.inj hline]
        exact .infinite ⟨negative, hlookup⟩
      · obtain ⟨n, hn, -⟩ := exists_lineOf_of_finite hinfinite
        rw [hn] at hline
        cases hline
    · exact .text hmem hlacks

end RawIssue

/-! ## Lists of findings -/

/-- The result of a finding among others: the one that it has alone, with the line that it is kept
with. -/
structure AnchoredIssue.Answers (result : AnchoredIssue) (room : Nat) (raw : RawIssue)
    (diff : FileDiff) : Prop where
  alone : Issue.anchorAll room diff [raw] = .ok [result]
  line : raw.IsKeptAt result.issue.line

namespace Issue

variable {room : Nat} {diff : FileDiff} {findings : List RawIssue}

theorem line_withFile (issue : Issue) (path : String) :
    (issue.withFile path).line = issue.line := by
  unfold withFile
  split <;> rfl

theorem answers_of_anchorAll {results : List AnchoredIssue}
    (hanchored : anchorAll room diff findings = .ok results) :
    List.Forall₂ (fun raw result => result.Answers room raw diff) findings results := by
  apply (forall₂_of_anchorAll hanchored).imp
  rintro raw result ⟨issue, hread, rfl⟩
  refine ⟨anchorAll_cons_eq_ok.mpr ⟨issue, [], hread, rfl, rfl⟩, ?_⟩
  rw [anchored, line_withFile]
  exact RawIssue.isKeptAt_of_read hread

theorem anchorAll_cons_eq_error {raw : RawIssue} {rest : List RawIssue} {failure : Failure} :
    anchorAll room diff (raw :: rest) = .error failure ↔
      raw.read room = .error failure ∨
        raw.IsReadable room ∧ anchorAll room diff rest = .error failure := by
  simp only [anchorAll, bind_eq_error, pure_ne_error, and_false, exists_false, or_false,
    ← RawIssue.exists_read_iff, exists_and_right]

/-- The first finding that cannot be read ends the list. -/
theorem anchorAll_eq_error_iff {failure : Failure} :
    anchorAll room diff findings = .error failure ↔
      ∃ front raw rest, findings = front ++ raw :: rest ∧
        (∀ other ∈ front, other.IsReadable room) ∧ raw.read room = .error failure := by
  induction findings with
  | nil => simp [anchorAll]
  | cons raw rest ih =>
    rw [anchorAll_cons_eq_error, ih]
    constructor
    · rintro (hread | ⟨hreadable, front, other, behind, rfl, hfront, hother⟩)
      · exact ⟨[], raw, rest, rfl, by simp, hread⟩
      · exact ⟨raw :: front, other, behind, rfl, List.forall_mem_cons.mpr ⟨hreadable, hfront⟩,
          hother⟩
    · rintro ⟨front, other, behind, hsplit, hfront, hother⟩
      cases front with
      | nil =>
        cases hsplit
        exact .inl hother
      | cons first front =>
        cases hsplit
        rw [List.forall_mem_cons] at hfront
        exact .inr ⟨hfront.1, front, other, behind, rfl, hfront.2, hother⟩

/-- Each finding of a list is answered for itself exactly if all of them can be read. The first one
that cannot leaves all of them without an answer, for an infinite line or for a value without a
text. -/
theorem findings_answered_iff (room : Nat) (diff : FileDiff) (findings : List RawIssue) :
    ((∃ results, anchorAll room diff findings = .ok results ∧
        List.Forall₂ (fun raw result => result.Answers room raw diff) findings results) ↔
      ∀ raw ∈ findings, raw.IsReadable room) ∧
    ∀ failure, anchorAll room diff findings = .error failure ↔
      ∃ front raw rest, findings = front ++ raw :: rest ∧
        (∀ other ∈ front, other.IsReadable room) ∧
        raw.read room = .error failure ∧ raw.IsRefused room failure := by
  have hreadable :
      (∃ results, anchorAll room diff findings = .ok results) ↔
        ∀ raw ∈ findings, raw.IsReadable room := by
    simp only [exists_anchorAll_iff, RawIssue.exists_read_iff]
  refine ⟨⟨?_, ?_⟩, fun failure => ⟨?_, ?_⟩⟩
  · rintro ⟨results, hresults, -⟩
    exact hreadable.mp ⟨results, hresults⟩
  · intro hall
    obtain ⟨results, hresults⟩ := hreadable.mpr hall
    exact ⟨results, hresults, answers_of_anchorAll hresults⟩
  · intro hfails
    obtain ⟨front, raw, rest, hsplit, hfront, hread⟩ := anchorAll_eq_error_iff.mp hfails
    exact ⟨front, raw, rest, hsplit, hfront, hread, RawIssue.isRefused_of_read hread⟩
  · rintro ⟨front, raw, rest, hsplit, hfront, hread, -⟩
    exact anchorAll_eq_error_iff.mpr ⟨front, raw, rest, hsplit, hfront, hread⟩

end Issue

/-! Findings whose lines are a list, no number, a fraction and a numeral in another script. -/

namespace OddLines

def findings : List RawIssue :=
  [.decoded [("line", .list [.int 2])], .decoded [("line", .float .nan)],
    .decoded [("line", .float (.finite false 5 (-1)))], .decoded [("line", .text " ٤ ")]]

end OddLines

theorem oddLines_answered :
    ∃ results, Issue.anchorAll 0 InsertedLine.diff OddLines.findings = .ok results ∧
      results.map (fun result => (result.issue.line, result.anchor)) =
        [(0, .file), (0, .file), (2, .added), (4, .added)] ∧
      List.Forall₂ (fun raw result => result.Answers 0 raw InsertedLine.diff)
        OddLines.findings results := by
  have htexts : ∀ raw ∈ OddLines.findings, ∀ value ∈ raw.texts, value.HasText 0 := by
    decide +kernel
  have hfinite : ∀ raw ∈ OddLines.findings, ¬ raw.HasInfiniteLine := by
    simp [OddLines.findings, RawIssue.HasInfiniteLine]
  obtain ⟨results, hresults, hanswers⟩ :=
    (Issue.findings_answered_iff 0 InsertedLine.diff OddLines.findings).1.mpr
      fun raw hraw => ⟨hfinite raw hraw, htexts raw hraw⟩
  refine ⟨results, hresults, ?_, hanswers⟩
  have hlines :
      (Issue.anchorAll 0 InsertedLine.diff OddLines.findings).map
          (fun results => results.map fun result => (result.issue.line, result.anchor)) =
        .ok [(0, .file), (0, .file), (2, .added), (4, .added)] := by
    decide +kernel
  rw [hresults] at hlines
  exact Except.ok.inj hlines

/-! A finding on an added line, and one whose line is infinite. -/

namespace InfiniteLine

def finding : RawIssue :=
  .decoded [("line", .int 2)]

def odd : RawIssue :=
  .decoded [("line", .float (.infinite false))]

end InfiniteLine

/-- The finding has an answer alone and none beside the odd one. -/
theorem infiniteLine_costs_other_finding :
    (∃ result, Issue.anchorAll 0 InsertedLine.diff [InfiniteLine.finding] = .ok [result]) ∧
      ¬ ∃ results,
        Issue.anchorAll 0 InsertedLine.diff [InfiniteLine.finding, InfiniteLine.odd] =
            .ok results ∧
          results.length = 2 := by
  constructor
  · exact ⟨_, rfl⟩
  · rintro ⟨results, hresults, -⟩
    cases hresults

end ReviewContext
