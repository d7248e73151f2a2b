import Mathlib.Data.List.Forall2
import ReviewContext.Proofs.Parsing.Alignment

/-!
# Escalation over profiles and sections

The sections of a component file have their turns in order, and in each of them the profiles of the
language of the section. A profile without a usable tree is passed over for the next one, and a
section whose profiles are all passed over does not keep the sections behind it from being read. An
attempt that does not answer in time decides the outcome of the whole file, whatever was read before
it.
-/

namespace ReviewContext

open ReviewContext.Text

/-- The profile gave no usable tree for the code, for a reason, and the next one has its turn. -/
inductive Profile.PassedOver (kit : Kit) (code : String) (budget : Int) (profile : Profile) :
    String → Prop where
  | unavailable
      (hattempt : profile.attempt? kit code budget = none) :
      PassedOver kit code budget profile (profile.reason "grammar unavailable")
  | raised {message : String}
      (hattempt : profile.attempt? kit code budget = some (.raised message)) :
      PassedOver kit code budget profile (profile.reason message)
  | treeless
      (hattempt : profile.attempt? kit code budget = some .noTree) :
      PassedOver kit code budget profile (profile.reason "unusable tree")
  | unusable {root : Node}
      (hattempt : profile.attempt? kit code budget = some (.tree root))
      (hroot : root.isUsable = false) :
      PassedOver kit code budget profile (profile.reason "unusable tree")

/-- What becomes of a script section. -/
inductive SectionResult where
  | skipped
  | read (unit : ParsedUnit)
  | refused (reasons : List String)
  | late (reason : String)

namespace SectionResult

def unit? : SectionResult → Option ParsedUnit
  | read unit => some unit
  | _ => none

def reasons? : SectionResult → Option (List String)
  | refused reasons => some reasons
  | _ => none

def lateReason? : SectionResult → Option String
  | late reason => some reason
  | _ => none

/-- The first section that is late decides the outcome; without one the units of the sections that
were read count, and without any of these the last refusal. -/
def outcomeOf (results : List SectionResult) : ParseOutcome :=
  match results.findSome? lateReason? with
  | some reason => .failed .timeout reason
  | none =>
    match results.filterMap unit?, (results.filterMap reasons?).getLast? with
    | unit :: units, _ => .parsed (unit :: units)
    | [], some reasons => .failed .parse ("; ".intercalate reasons)
    | [], none => .failed .parse "no parseable script section"

end SectionResult

namespace Turn

/-- The section gets as far as the profile: all profiles in front of it are passed over. -/
def Reaches (turn : Turn) (budget : Int) (profile : Profile) : Prop :=
  0 < budget ∧ ∃ front rest reasons,
    Profile.ofScriptLanguage? turn.part.language = some (front ++ profile :: rest) ∧
      List.Forall₂ (Profile.PassedOver turn.kit turn.part.content budget) front reasons

/-- What becomes of a section in its turn. -/
inductive ComesTo (budget : Int) (turn : Turn) : SectionResult → Prop where
  | skipped
      (hlanguage : Profile.ofScriptLanguage? turn.part.language = none) :
      ComesTo budget turn .skipped
  | read {profile : Profile} {root : Node} {offset : Nat}
      (hreaches : turn.Reaches budget profile)
      (hattempt : profile.attempt? turn.kit turn.part.content budget = some (.tree root))
      (hroot : root.isUsable = true)
      (hoffset : offset + 1 = turn.part.startLine) :
      ComesTo budget turn
        (.read ⟨root, profile.sourceFor turn.part.content, profile, offset⟩)
  | timedOut {profile : Profile}
      (hreaches : turn.Reaches budget profile)
      (hattempt : profile.attempt? turn.kit turn.part.content budget = some .silent) :
      ComesTo budget turn (.late (profile.reason "timed out"))
  | refused {profiles : List Profile} {reasons : List String}
      (hbudget : 0 < budget)
      (hprofiles : Profile.ofScriptLanguage? turn.part.language = some profiles)
      (hpassed : List.Forall₂ (Profile.PassedOver turn.kit turn.part.content budget)
        profiles reasons) :
      ComesTo budget turn (.refused reasons)
  | exhausted {profiles : List Profile}
      (hbudget : budget ≤ 0)
      (hprofiles : Profile.ofScriptLanguage? turn.part.language = some profiles) :
      ComesTo budget turn (.late "parse budget exhausted")

end Turn

/-! ## Profiles in order -/

section Profiles

variable {profile : Profile} {profiles front rest : List Profile} {kit : Kit} {code : String}
  {budget : Int} {reasons : List String}

namespace Profile

theorem PassedOver.trial_eq {reason : String}
    (hpassed : profile.PassedOver kit code budget reason)
    (offset : Nat) :
    profile.trial kit code budget offset = .refused reason := by
  cases hpassed with
  | unavailable hattempt => simp [trial, hattempt]
  | raised hattempt => simp [trial, hattempt]
  | treeless hattempt => simp [trial, hattempt]
  | unusable hattempt hroot => simp [trial, hattempt, hroot]

theorem passedOver_or_stops (profile : Profile) (kit : Kit) (code : String) (budget : Int) :
    (∃ reason, profile.PassedOver kit code budget reason) ∨
      (∃ root, profile.attempt? kit code budget = some (.tree root) ∧ root.isUsable = true) ∨
        profile.attempt? kit code budget = some .silent := by
  cases hattempt : profile.attempt? kit code budget with
  | none => exact .inl ⟨_, .unavailable hattempt⟩
  | some attempt =>
    cases attempt with
    | raised message => exact .inl ⟨_, .raised hattempt⟩
    | noTree => exact .inl ⟨_, .treeless hattempt⟩
    | silent => exact .inr (.inr rfl)
    | tree root =>
      by_cases hroot : root.isUsable = true
      · exact .inr (.inl ⟨root, rfl, hroot⟩)
      · rw [Bool.not_eq_true] at hroot
        exact .inl ⟨_, .unusable hattempt hroot⟩

/-- Either all profiles are passed over or there is a first one that is not. -/
theorem exists_passedOver (profiles : List Profile) (kit : Kit) (code : String) (budget : Int) :
    (∃ reasons, List.Forall₂ (PassedOver kit code budget) profiles reasons) ∨
    ∃ front profile rest reasons, profiles = front ++ profile :: rest ∧
      List.Forall₂ (PassedOver kit code budget) front reasons ∧
      ((∃ root, profile.attempt? kit code budget = some (.tree root) ∧ root.isUsable = true) ∨
        profile.attempt? kit code budget = some .silent) := by
  induction profiles with
  | nil => exact .inl ⟨[], .nil⟩
  | cons profile others ih =>
    rcases profile.passedOver_or_stops kit code budget with ⟨reason, hpassed⟩ | hstops
    · rcases ih with ⟨reasons, hall⟩ | ⟨front, last, rest, reasons, rfl, hfront, hlast⟩
      · exact .inl ⟨reason :: reasons, .cons hpassed hall⟩
      · exact .inr
          ⟨profile :: front, last, rest, reason :: reasons, rfl, .cons hpassed hfront, hlast⟩
    · exact .inr ⟨[], profile, others, [], rfl, .nil, hstops⟩

theorem ne_nil_of_ofScriptLanguage? {language : String}
    (hprofiles : ofScriptLanguage? language = some profiles) :
    profiles ≠ [] := by
  rintro rfl
  unfold ofScriptLanguage? at hprofiles
  split at hprofiles <;> cases hprofiles

end Profile

namespace Parser

/-- The search goes on behind profiles that are passed over, and keeps their reasons. -/
theorem escalate_append
    (hfront : List.Forall₂ (Profile.PassedOver kit code budget) front reasons)
    (offset : Nat) (earlier : List String) (rest : List Profile) :
    escalate kit code budget offset earlier (front ++ rest) =
      escalate kit code budget offset (earlier ++ reasons) rest := by
  induction hfront generalizing earlier with
  | nil => simp
  | cons hpassed _ ih =>
    rw [List.cons_append, escalate, hpassed.trial_eq offset]
    simp only [ih, List.append_assoc, List.singleton_append]

end Parser

end Profiles

/-! ## One section -/

/-- The outcome of a section that is not skipped. -/
def SectionResult.outcome? : SectionResult → Option ParseOutcome
  | skipped => none
  | read unit => some (.parsed [unit])
  | refused reasons => some (.failed .parse ("; ".intercalate reasons))
  | late reason => some (.failed .timeout reason)

namespace Turn

variable {turn : Turn} {budget : Int} {profile : Profile} {result : SectionResult}

theorem Reaches.parseWith_eq
    (hreaches : turn.Reaches budget profile)
    (offset : Nat) :
    ∃ profiles rest reasons,
      Profile.ofScriptLanguage? turn.part.language = some profiles ∧
        Parser.parseWith turn.kit turn.part.content offset budget profiles =
          Parser.escalate turn.kit turn.part.content budget offset reasons (profile :: rest) := by
  obtain ⟨hbudget, front, rest, reasons, hprofiles, hfront⟩ := hreaches
  refine ⟨front ++ profile :: rest, rest, reasons, hprofiles, ?_⟩
  rw [Parser.parseWith, if_neg (Int.not_le.mpr hbudget), Parser.escalate_append hfront,
    List.nil_append]

theorem ComesTo.outcome?_eq (hresult : turn.ComesTo budget result) :
    (Profile.ofScriptLanguage? turn.part.language).map
        (Parser.parseWith turn.kit turn.part.content (turn.part.startLine - 1) budget) =
      result.outcome? := by
  cases hresult with
  | skipped hlanguage => rw [hlanguage, Option.map_none, SectionResult.outcome?]
  | @read profile root offset hreaches hattempt hroot hoffset =>
    have hstart : turn.part.startLine - 1 = offset := by
      omega
    obtain ⟨profiles, rest, reasons, hprofiles, hparse⟩ := hreaches.parseWith_eq offset
    rw [hprofiles, Option.map_some, hstart, hparse]
    simp [Parser.escalate, Profile.trial, hattempt, hroot, SectionResult.outcome?]
  | timedOut hreaches hattempt =>
    obtain ⟨profiles, rest, reasons, hprofiles, hparse⟩ :=
      hreaches.parseWith_eq (turn.part.startLine - 1)
    rw [hprofiles, Option.map_some, hparse]
    simp [Parser.escalate, Profile.trial, hattempt, SectionResult.outcome?]
  | @refused profiles reasons hbudget hprofiles hpassed =>
    -- without any reason the text of the failure would be another one
    have hreasons : reasons ≠ [] := by
      rintro rfl
      exact Profile.ne_nil_of_ofScriptLanguage? hprofiles (List.forall₂_nil_right_iff.mp hpassed)
    have hescalate := Parser.escalate_append hpassed (turn.part.startLine - 1) [] []
    rw [List.append_nil, List.nil_append] at hescalate
    rw [hprofiles, Option.map_some, Parser.parseWith, if_neg (Int.not_le.mpr hbudget), hescalate]
    simp [Parser.escalate, hreasons, SectionResult.outcome?]
  | exhausted hbudget hprofiles =>
    rw [hprofiles, Option.map_some, Parser.parseWith, if_pos hbudget, SectionResult.outcome?]

theorem exists_comesTo (hstart : 0 < turn.part.startLine) (budget : Int) :
    ∃ result, turn.ComesTo budget result := by
  cases hprofiles : Profile.ofScriptLanguage? turn.part.language with
  | none => exact ⟨.skipped, .skipped hprofiles⟩
  | some profiles =>
    by_cases hbudget : 0 < budget
    · rcases Profile.exists_passedOver profiles turn.kit turn.part.content budget with
        ⟨reasons, hpassed⟩ | ⟨front, profile, rest, reasons, rfl, hfront, hstops⟩
      · exact ⟨.refused reasons, .refused hbudget hprofiles hpassed⟩
      · have hreaches : turn.Reaches budget profile :=
          ⟨hbudget, front, rest, reasons, hprofiles, hfront⟩
        rcases hstops with ⟨root, hattempt, hroot⟩ | hattempt
        · have hoffset : turn.part.startLine - 1 + 1 = turn.part.startLine := by
            omega
          exact ⟨_, .read hreaches hattempt hroot hoffset⟩
        · exact ⟨_, .timedOut hreaches hattempt⟩
    · exact ⟨_, .exhausted (Int.not_lt.mp hbudget) hprofiles⟩

end Turn

/-! ## All sections -/

namespace Parser

variable {turn : Turn} {turns : List Turn} {result : SectionResult} {results : List SectionResult}
  {budget : Int}

/-- The failure that is remembered behind some sections. -/
def failureBehind (failure : Option (Code × String)) (results : List SectionResult) :
    Option (Code × String) :=
  ((results.filterMap SectionResult.reasons?).getLast?.map fun reasons =>
    (Code.parse, "; ".intercalate reasons)).or failure

theorem failureBehind_cons (failure : Option (Code × String)) (result : SectionResult)
    (results : List SectionResult) :
    failureBehind failure (result :: results) =
      failureBehind (failureBehind failure [result]) results := by
  cases result with
  | refused reasons =>
    simp only [failureBehind, List.filterMap_cons, SectionResult.reasons?, List.getLast?_cons]
    cases (results.filterMap SectionResult.reasons?).getLast? <;> simp
  | _ => simp [failureBehind, SectionResult.reasons?]

theorem parseSections_cons_of_late {reason : String}
    (hresult : turn.ComesTo budget result)
    (hlate : result.lateReason? = some reason)
    (units : List ParsedUnit) (failure : Option (Code × String)) (turns : List Turn) :
    parseSections budget units failure (turn :: turns) = .failed .timeout reason := by
  have houtcome := hresult.outcome?_eq
  cases result with
  | late other =>
    obtain rfl : other = reason := Option.some.inj hlate
    obtain ⟨profiles, hprofiles, hparse⟩ := Option.map_eq_some_iff.mp houtcome
    simp only [parseSections, hprofiles, hparse]
  | _ => cases hlate

theorem parseSections_cons_of_inTime
    (hresult : turn.ComesTo budget result)
    (hlate : result.lateReason? = none)
    (units : List ParsedUnit) (failure : Option (Code × String)) (turns : List Turn) :
    parseSections budget units failure (turn :: turns) =
      parseSections budget (units ++ result.unit?.toList) (failureBehind failure [result])
        turns := by
  have houtcome := hresult.outcome?_eq
  cases result with
  | skipped =>
    have hprofiles := Option.map_eq_none_iff.mp houtcome
    simp [parseSections, hprofiles, failureBehind, SectionResult.unit?, SectionResult.reasons?]
  | read unit =>
    obtain ⟨profiles, hprofiles, hparse⟩ := Option.map_eq_some_iff.mp houtcome
    simp [parseSections, hprofiles, hparse, failureBehind, SectionResult.unit?,
      SectionResult.reasons?]
  | refused reasons =>
    obtain ⟨profiles, hprofiles, hparse⟩ := Option.map_eq_some_iff.mp houtcome
    simp [parseSections, hprofiles, hparse, failureBehind, SectionResult.unit?,
      SectionResult.reasons?]
  | late reason => cases hlate

theorem parseSections_of_late {reason : String}
    (hresults : List.Forall₂ (Turn.ComesTo budget) turns results)
    (hlate : results.findSome? SectionResult.lateReason? = some reason)
    (units : List ParsedUnit) (failure : Option (Code × String)) :
    parseSections budget units failure turns = .failed .timeout reason := by
  induction hresults generalizing units failure with
  | nil => cases hlate
  | @cons turn result turns results hresult _ ih =>
    rw [List.findSome?_cons] at hlate
    cases hfirst : result.lateReason? with
    | some other =>
      simp only [hfirst, Option.some.injEq] at hlate
      rw [parseSections_cons_of_late hresult hfirst, hlate]
    | none =>
      simp only [hfirst] at hlate
      rw [parseSections_cons_of_inTime hresult hfirst]
      exact ih hlate _ _

theorem parseSections_of_inTime
    (hresults : List.Forall₂ (Turn.ComesTo budget) turns results)
    (hlate : results.findSome? SectionResult.lateReason? = none)
    (units : List ParsedUnit) (failure : Option (Code × String)) :
    parseSections budget units failure turns =
      parseSections budget (units ++ results.filterMap SectionResult.unit?)
        (failureBehind failure results) [] := by
  induction hresults generalizing units failure with
  | nil => simp [failureBehind]
  | @cons turn result turns results hresult _ ih =>
    rw [List.findSome?_cons] at hlate
    cases hfirst : result.lateReason? with
    | some other => simp [hfirst] at hlate
    | none =>
      simp only [hfirst] at hlate
      -- the unit of the first section goes behind the earlier ones and in front of the later ones
      have hunits :
          units ++ (result :: results).filterMap SectionResult.unit? =
            units ++ result.unit?.toList ++ results.filterMap SectionResult.unit? := by
        cases hunit : result.unit? <;> simp [hunit]
      rw [parseSections_cons_of_inTime hresult hfirst, ih hlate, hunits,
        ← failureBehind_cons failure]

theorem parseSections_eq
    (hresults : List.Forall₂ (Turn.ComesTo budget) turns results) :
    parseSections budget [] none turns = SectionResult.outcomeOf results := by
  cases hlate : results.findSome? SectionResult.lateReason? with
  | some reason =>
    rw [parseSections_of_late hresults hlate, SectionResult.outcomeOf, hlate]
  | none =>
    rw [parseSections_of_inTime hresults hlate, SectionResult.outcomeOf, hlate, List.nil_append,
      failureBehind, Option.or_none]
    cases results.filterMap SectionResult.unit? <;>
      cases (results.filterMap SectionResult.reasons?).getLast? <;> rfl

/-! ## Component files -/

theorem isBlank_eq_false_of_mem_sections {code : String} {part : Script.Section}
    (hpart : part ∈ Script.sections code) :
    isBlank code = false := by
  obtain ⟨before, body, after, hcode, hstands⟩ :=
    Script.exists_standsBetween_of_mem_sections hpart
  have hclosed := hstands.encloses.closed
  have hbracket : '<' ∈ code.toList := by
    unfold Script.closeTag? at hclosed
    split at hclosed
    · simp [hcode]
    · cases hclosed
  rw [isBlank, List.all_eq_false]
  exact ⟨'<', hbracket, by decide⟩

theorem startLine_pos_of_mem_turns {parser : Parser} {code : String}
    (hturn : turn ∈ parser.turns code) :
    0 < turn.part.startLine := by
  obtain ⟨before, body, after, -, hstands⟩ :=
    Script.exists_standsBetween_of_mem_sections (part_mem_sections hturn)
  rw [hstands.startLine]
  exact Nat.succ_pos _

theorem exists_comesTo_of_startLine_pos
    (hstart : ∀ turn ∈ turns, 0 < turn.part.startLine)
    (budget : Int) :
    ∃ results, List.Forall₂ (Turn.ComesTo budget) turns results := by
  induction turns with
  | nil => exact ⟨[], .nil⟩
  | cons turn turns ih =>
    obtain ⟨result, hresult⟩ := Turn.exists_comesTo (hstart turn List.mem_cons_self) budget
    obtain ⟨results, hresults⟩ := ih fun other hother => hstart other (List.mem_cons_of_mem _ hother)
    exact ⟨result :: results, .cons hresult hresults⟩

/-- The outcome of a component file with sections is what its sections come to, one by one. -/
theorem sections_decide_outcome {parser : Parser} {code extension : String} {budget : Int}
    (hcountable : TimeBudget.isCountable budget = true)
    (hcomponent : isComponentExtension (plainExtension extension) = true)
    (hreads : parser.readsSections = true)
    (hsections : Script.sections code ≠ []) :
    (∃ results, List.Forall₂ (Turn.ComesTo budget) (parser.turns code) results) ∧
    ∀ results, List.Forall₂ (Turn.ComesTo budget) (parser.turns code) results →
        (parser.tryParse code extension budget).result = .ok (SectionResult.outcomeOf results) := by
  constructor
  · exact exists_comesTo_of_startLine_pos (fun turn hturn => startLine_pos_of_mem_turns hturn) budget
  · intro results hresults
    obtain ⟨part, hpart⟩ := List.exists_mem_of_ne_nil _ hsections
    have hvisible : isBlank code = false := isBlank_eq_false_of_mem_sections hpart
    have hfound : (Script.sections code).isEmpty = false := by
      simpa using hsections
    have hparse : parser.parse code extension budget = SectionResult.outcomeOf results := by
      rw [← parseSections_eq hresults]
      simp [parse, parseComponent, hvisible, hcomponent, hreads, hfound]
    rw [tryParse, if_pos hcountable, hparse]
    rfl

end Parser

/-! A section that is skipped, one that is read by its second profile, and one that is late. The
grammars answer otherwise for the last section than for the one before it. -/

namespace LateSection

def text : String :=
  "<script lang='coffee'>a</script>\n<script>b</script>\n<script lang='ts'>b</script>"

def root : Node :=
  .node ⟨"program", none, true, 0, 0, 0, 1⟩
    [.node ⟨"expression_statement", none, true, 0, 0, 0, 1⟩ []]

def answeringKit : Kit where
  grammar?
    | .javascript => some fun _ => .raised "no answer"
    | _ => some fun _ => .tree root

def silentKit : Kit where
  grammar? _ := some fun _ => .silent

def parser : Parser where
  kit := silentKit
  readsSections := true
  sectionKit turn := if turn = 1 then answeringKit else silentKit

def unit : ParsedUnit :=
  ⟨root, "b", .lenientTsx, 1⟩

end LateSection

theorem lateSection_decides_outcome :
    List.Forall₂ (Turn.ComesTo 1000) (LateSection.parser.turns LateSection.text)
        [.skipped, .read LateSection.unit, .late "typescript: timed out"] ∧
      (LateSection.parser.tryParse LateSection.text "vue" 1000).result =
        .ok (.failed .timeout "typescript: timed out") := by
  have hsections :
      Script.sections LateSection.text =
        [⟨"a", 1, "coffee", false⟩, ⟨"b", 2, "", false⟩, ⟨"b", 3, "ts", false⟩] := by
    decide +kernel
  have hcomponent : isComponentExtension (Parser.plainExtension "vue") = true := by
    decide +kernel
  have hcountable : TimeBudget.isCountable 1000 = true := by
    decide +kernel
  have hfound : Script.sections LateSection.text ≠ [] := by
    simp [hsections]
  have hbudget : (0 : Int) < 1000 := by
    decide
  have hraised :
      Profile.PassedOver LateSection.answeringKit "b" 1000 .javascript
        (Profile.javascript.reason "no answer") :=
    .raised rfl
  have hreaches :
      Turn.Reaches ⟨⟨"b", 2, "", false⟩, LateSection.answeringKit⟩ 1000 .lenientTsx :=
    ⟨hbudget, [.javascript], [], _, rfl, .cons hraised .nil⟩
  have hattempt :
      Profile.lenientTsx.attempt? LateSection.answeringKit "b" 1000 =
        some (.tree LateSection.root) :=
    rfl
  have hread :
      Turn.ComesTo 1000 ⟨⟨"b", 2, "", false⟩, LateSection.answeringKit⟩
        (.read LateSection.unit) :=
    Turn.ComesTo.read hreaches hattempt rfl rfl
  have hlate :
      Turn.ComesTo 1000 ⟨⟨"b", 3, "ts", false⟩, LateSection.silentKit⟩
        (.late (Profile.typescript.reason "timed out")) :=
    .timedOut ⟨hbudget, [], [.lenientTsx], [], rfl, .nil⟩ rfl
  have hreason : Profile.typescript.reason "timed out" = "typescript: timed out" := by
    decide
  rw [hreason] at hlate
  have hresults :
      List.Forall₂ (Turn.ComesTo 1000) (LateSection.parser.turns LateSection.text)
        [.skipped, .read LateSection.unit, .late "typescript: timed out"] := by
    rw [Parser.turns, hsections]
    exact .cons (.skipped rfl) (.cons hread (.cons hlate .nil))
  have hreads : LateSection.parser.readsSections = true := rfl
  obtain ⟨-, hdecides⟩ := Parser.sections_decide_outcome hcountable hcomponent hreads hfound
  exact ⟨hresults, hdecides _ hresults⟩

end ReviewContext
