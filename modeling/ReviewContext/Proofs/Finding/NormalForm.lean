import ReviewContext.Proofs.Finding.Anchoring

/-!
# Findings in normal form

An issue that was read from a finding never has a blank optional text, and that is all that the
normal form asks for: written as a mapping, such an issue reads back as itself. Anchoring leaves
the normal form alone, and an anchored issue names its file, so the mapping of an anchored issue is
anchored as before.
-/

namespace ReviewContext

open ReviewContext.Text
open ReviewContext.Diff (FileDiff)

theorem Severity.ofName_lower_name (severity : Severity) :
    Severity.ofName (lower severity.name) = severity := by
  cases severity <;> decide +kernel

namespace Issue

/-! ## Reading single fields -/

section Fields

variable {room : Nat} {finding : Finding} {field text : String}

theorem present?_eq_of_text (hlookup : finding.lookup field = some (.text text)) :
    present? finding field = if text.isEmpty then none else some (.text text) := by
  rw [present?, hlookup]
  by_cases hempty : text.isEmpty = true <;> simp [Value.isPresent, hempty, Option.filter]

theorem textOf_eq_of_text (hlookup : finding.lookup field = some (.text text)) :
    textOf room finding field = .ok text := by
  rw [textOf, present?_eq_of_text hlookup]
  by_cases hempty : text.isEmpty = true
  · simpa [hempty] using (String.isEmpty_iff.mp hempty).symm
  · simp [hempty, Value.toText]

theorem optionalTextOf_eq_of_optionalValue {text? : Option String}
    (hlookup : finding.lookup field = some (optionalValue text?))
    (hvisible : ∀ text ∈ text?, isBlank text = false) :
    optionalTextOf room finding field = .ok text? := by
  cases text? with
  | none => simp [optionalTextOf, hlookup, optionalValue]
  | some text =>
    have hblank : isBlank text = false := hvisible text rfl
    simp [optionalTextOf, hlookup, optionalValue, Value.toText, Except.map, hblank]

theorem isBlank_of_optionalTextOf (hread : optionalTextOf room finding field = .ok (some text)) :
    isBlank text = false := by
  unfold optionalTextOf at hread
  split at hread
  · cases hread
  · cases hread
  · obtain ⟨written, -, htext⟩ := map_eq_ok.mp hread
    split at htext
    · cases htext
    · rename_i hvisible
      cases htext
      simpa using hvisible

theorem severityOf_eq_of_text {severity : Severity}
    (htype : finding.lookup "type" = none)
    (hlookup : finding.lookup "severity" = some (.text severity.name)) :
    severityOf room finding = .ok severity := by
  have habsent : present? finding "type" = none := by
    rw [present?, htype]
    rfl
  have hname : severity.name.isEmpty = false := by
    cases severity <;> rfl
  rw [severityOf, severityValue?, habsent, present?_eq_of_text hlookup, hname]
  exact congrArg Except.ok severity.ofName_lower_name

end Fields

/-! ## The normal form -/

/-- An issue whose optional texts are not blank; a blank one would count as absent. -/
structure IsNormal (issue : Issue) : Prop where
  code : ∀ text ∈ issue.code, isBlank text = false
  suggestion : ∀ text ∈ issue.suggestion, isBlank text = false

variable {room : Nat}

theorem isNormal_of_ofFinding {finding : Finding} {issue : Issue}
    (hread : ofFinding room finding = .ok issue) :
    issue.IsNormal := by
  obtain ⟨-, -, -, -, -, hcode, hsuggestion⟩ := ofFinding_eq_ok_iff.mp hread
  constructor
  · intro text htext
    exact isBlank_of_optionalTextOf (htext ▸ hcode)
  · intro text htext
    exact isBlank_of_optionalTextOf (htext ▸ hsuggestion)

/-- The mapping of an issue reads back as the issue, whatever else it holds but a type, which would
be taken for the severity. -/
theorem ofFinding_toFinding_append {issue : Issue} {others : Finding}
    (hnormal : issue.IsNormal)
    (htype : others.lookup "type" = none) :
    ofFinding room (issue.toFinding ++ others) = .ok issue := by
  have hline : lineOf (issue.toFinding ++ others) = .ok issue.line :=
    lineOf_eq_of_int (by simp [toFinding, List.lookup_cons])
  have hseverity : severityOf room (issue.toFinding ++ others) = .ok issue.severity :=
    severityOf_eq_of_text (by simp [toFinding, List.lookup_cons, htype]) (by simp [toFinding])
  have hfile : textOf room (issue.toFinding ++ others) "file" = .ok issue.file :=
    textOf_eq_of_text (by simp [toFinding, List.lookup_cons])
  have htitle : textOf room (issue.toFinding ++ others) "title" = .ok issue.title :=
    textOf_eq_of_text (by simp [toFinding, List.lookup_cons])
  have hdescription :
      textOf room (issue.toFinding ++ others) "description" = .ok issue.description :=
    textOf_eq_of_text (by simp [toFinding, List.lookup_cons])
  have hcode : optionalTextOf room (issue.toFinding ++ others) "code" = .ok issue.code :=
    optionalTextOf_eq_of_optionalValue (by simp [toFinding, List.lookup_cons]) hnormal.code
  have hsuggestion :
      optionalTextOf room (issue.toFinding ++ others) "suggestion" = .ok issue.suggestion :=
    optionalTextOf_eq_of_optionalValue (by simp [toFinding, List.lookup_cons]) hnormal.suggestion
  exact ofFinding_eq_ok_iff.mpr
    ⟨hseverity, hline, hfile, htitle, hdescription, hcode, hsuggestion⟩

theorem ofFinding_toFinding {issue : Issue} (hnormal : issue.IsNormal) :
    ofFinding room issue.toFinding = .ok issue := by
  have hread : ofFinding room (issue.toFinding ++ []) = .ok issue :=
    ofFinding_toFinding_append hnormal rfl
  rwa [List.append_nil] at hread

/-- The issues in normal form are the ones that findings are read as. -/
theorem isNormal_iff_exists_ofFinding {issue : Issue} :
    issue.IsNormal ↔ ∃ finding, ofFinding room finding = .ok issue := by
  constructor
  · intro hnormal
    exact ⟨issue.toFinding, ofFinding_toFinding hnormal⟩
  · rintro ⟨finding, hread⟩
    exact isNormal_of_ofFinding hread

/-! ## Anchored issues -/

theorem withFile_withFile (issue : Issue) (path : String) :
    (issue.withFile path).withFile path = issue.withFile path := by
  unfold withFile
  by_cases hfile : issue.file.isEmpty = true
  · by_cases hpath : path.isEmpty = true <;> simp [hfile, hpath]
  · simp [hfile]

theorem anchored_withFile (issue : Issue) (diff : FileDiff) :
    (issue.withFile diff.path).anchored diff = issue.anchored diff := by
  simp only [anchored, withFile_withFile]

theorem IsNormal.withFile {issue : Issue} (hnormal : issue.IsNormal) (path : String) :
    (issue.withFile path).IsNormal := by
  unfold Issue.withFile
  split
  · exact ⟨hnormal.code, hnormal.suggestion⟩
  · exact hnormal

theorem anchorAll_singleton {diff : FileDiff} {raw : RawIssue} {issue : Issue}
    (hread : raw.read room = .ok issue) :
    anchorAll room diff [raw] = .ok [issue.anchored diff] :=
  anchorAll_cons_eq_ok.mpr ⟨issue, [], hread, rfl, rfl⟩

theorem anchorAll_toFinding_append {issue : Issue} {others : Finding}
    (hnormal : issue.IsNormal)
    (diff : FileDiff)
    (htype : others.lookup "type" = none) :
    anchorAll room diff [.decoded ((issue.anchored diff).issue.toFinding ++ others)] =
      .ok [issue.anchored diff] := by
  have hread :
      (RawIssue.decoded ((issue.anchored diff).issue.toFinding ++ others)).read room =
        .ok (issue.withFile diff.path) :=
    ofFinding_toFinding_append (hnormal.withFile diff.path) htype
  rw [anchorAll_singleton hread, anchored_withFile]

/-- Reading an issue that was read from a finding, or anchoring it again, changes nothing. The
mapping of an anchored issue may hold its anchor or not. -/
theorem normal_findings_are_stable (room : Nat) :
    (∀ finding issue, ofFinding room finding = .ok issue →
        ofFinding room issue.toFinding = .ok issue) ∧
      ∀ diff findings results, anchorAll room diff findings = .ok results →
        List.Forall₂
          (fun raw result => ∀ finding, raw = .decoded finding →
            anchorAll room diff [.decoded result.toFinding] = .ok [result] ∧
              anchorAll room diff [.decoded result.issue.toFinding] = .ok [result])
          findings results := by
  constructor
  · intro finding issue hread
    exact ofFinding_toFinding (isNormal_of_ofFinding hread)
  · intro diff findings results hanchored
    apply (forall₂_of_anchorAll hanchored).imp
    rintro raw result ⟨issue, hread, rfl⟩ finding rfl
    have hnormal := isNormal_of_ofFinding hread
    have hplain :
        anchorAll room diff [.decoded ((issue.anchored diff).issue.toFinding ++ [])] =
          .ok [issue.anchored diff] :=
      anchorAll_toFinding_append hnormal diff rfl
    rw [List.append_nil] at hplain
    exact ⟨anchorAll_toFinding_append hnormal diff rfl, hplain⟩

end Issue

/-! A finding whose values are of other types than asked for, without a file. -/

namespace LooseFinding

def finding : Issue.Finding :=
  [("type", .text "CRITICAL"), ("severity", .text "info"), ("line", .text " +2 "),
    ("title", .list [.text "a", .float (.finite false 1 0)]), ("code", .text " \t"),
    ("suggestion", .bool false)]

def issue : Issue :=
  ⟨.critical, "", 2, "['a', 1.0]", "", none, some "False"⟩

def anchored : AnchoredIssue :=
  ⟨{ issue with file := "src/test.ts" }, .added⟩

end LooseFinding

theorem looseFinding_is_stable :
    Issue.ofFinding 1 LooseFinding.finding = .ok LooseFinding.issue ∧
      Issue.ofFinding 1 LooseFinding.issue.toFinding = .ok LooseFinding.issue ∧
      Issue.anchorAll 1 InsertedLine.diff [.decoded LooseFinding.finding] =
        .ok [LooseFinding.anchored] ∧
      Issue.anchorAll 1 InsertedLine.diff [.decoded LooseFinding.anchored.toFinding] =
        .ok [LooseFinding.anchored] := by
  have hread : Issue.ofFinding 1 LooseFinding.finding = .ok LooseFinding.issue := by
    decide +kernel
  have hanchored :
      Issue.anchorAll 1 InsertedLine.diff [.decoded LooseFinding.finding] =
        .ok [LooseFinding.anchored] := by
    decide +kernel
  obtain ⟨hreads, hanchors⟩ := Issue.normal_findings_are_stable 1
  have hstable := hanchors _ _ _ hanchored
  rw [List.forall₂_cons] at hstable
  exact ⟨hread, hreads _ _ hread, hanchored, (hstable.1 _ rfl).1⟩

end ReviewContext
