import ReviewContext.Parsing.Parser
import ReviewContext.Proofs.Text.RowSplit

/-!
# Verdicts of parsing

Whatever the grammars do with a text, parsing it comes to a verdict: units, a budget that ran out,
or a refusal that names its reasons. A text that is not blank, in a file with structure, is never
turned away as empty or as having no grammar. The one other failure is that of a component file
when sections cannot be read.
-/

namespace ReviewContext

open ReviewContext.Text

namespace ParseOutcome

def isOk : ParseOutcome → Bool
  | parsed units => !units.isEmpty
  | failed _ _ => false

/-- What trying profiles can come to. -/
def IsVerdict : ParseOutcome → Prop
  | parsed units => units ≠ []
  | failed .timeout _ => True
  | failed .parse reason => reason ≠ "" ∧ reason ≠ "empty source"
  | failed _ _ => False

theorem IsVerdict.exists_failed {outcome : ParseOutcome}
    (hverdict : outcome.IsVerdict)
    (hfailed : outcome.isOk = false) :
    ∃ code reason, outcome = .failed code reason ∧
      (code = .timeout ∨ code = .parse ∧ reason ≠ "" ∧ reason ≠ "empty source") := by
  cases outcome with
  | parsed units => simp_all [IsVerdict, isOk]
  | failed code reason =>
    refine ⟨code, reason, rfl, ?_⟩
    cases code <;> simp_all [IsVerdict]

end ParseOutcome

/-! ## Reasons -/

theorem ne_of_colon_mem {text other : String}
    (htext : ':' ∈ text.toList)
    (hother : ':' ∉ other.toList) :
    text ≠ other := by
  rintro rfl
  exact hother htext

namespace Profile

theorem colon_mem_reason (profile : Profile) (text : String) :
    ':' ∈ (profile.reason text).toList := by
  simp [reason]

/-- Every refusal stands under the name of its profile. -/
theorem colon_mem_of_refused {profile : Profile} {kit : Kit} {code reason : String} {budget : Int}
    {offset : Nat}
    (htrial : profile.trial kit code budget offset = .refused reason) :
    ':' ∈ reason.toList := by
  unfold trial at htrial
  split at htrial
  · cases htrial
    exact profile.colon_mem_reason _
  · cases htrial
    exact profile.colon_mem_reason _
  · cases htrial
    exact profile.colon_mem_reason _
  · split at htrial
    · cases htrial
    · cases htrial
      exact profile.colon_mem_reason _
  · cases htrial

end Profile

/-! ## Profiles and sections -/

namespace Parser

variable {kit : Kit} {code : String} {budget : Int} {offset : Nat}

theorem isVerdict_escalate {reasons : List String}
    (hreasons : ∀ reason ∈ reasons, ':' ∈ reason.toList)
    (profiles : List Profile) :
    (escalate kit code budget offset reasons profiles).IsVerdict := by
  induction profiles generalizing reasons with
  | nil =>
    cases reasons with
    | nil => simp [escalate, ParseOutcome.IsVerdict]
    | cons first rest =>
      have hcolon : ':' ∈ ("; ".intercalate (first :: rest)).toList := by
        rw [String.toList_intercalate]
        have hfirst := hreasons first List.mem_cons_self
        exact mem_intercalate_of_mem (List.mem_map_of_mem List.mem_cons_self) hfirst
      constructor
      · exact ne_of_colon_mem hcolon (by decide)
      · exact ne_of_colon_mem hcolon (by decide)
  | cons profile rest ih =>
    rw [escalate]
    cases htrial : profile.trial kit code budget offset with
    | usable unit => simp [ParseOutcome.IsVerdict]
    | late => simp [ParseOutcome.IsVerdict]
    | refused reason =>
      apply ih
      intro other hother
      rcases List.mem_append.mp hother with hother | hother
      · exact hreasons other hother
      · rw [List.mem_singleton.mp hother]
        exact Profile.colon_mem_of_refused htrial

theorem isVerdict_parseWith (profiles : List Profile) :
    (parseWith kit code offset budget profiles).IsVerdict := by
  unfold parseWith
  split
  · simp [ParseOutcome.IsVerdict]
  · exact isVerdict_escalate (by simp) profiles

theorem isVerdict_parseSections {units : List ParsedUnit} {failure : Option (Code × String)}
    (hfailure : ∀ last ∈ failure, (ParseOutcome.failed last.1 last.2).IsVerdict)
    (turns : List Turn) :
    (parseSections budget units failure turns).IsVerdict := by
  induction turns generalizing units failure with
  | nil =>
    cases units with
    | cons unit rest => simp [parseSections, ParseOutcome.IsVerdict]
    | nil =>
      cases failure with
      | none => simp [parseSections, ParseOutcome.IsVerdict]
      | some last => exact hfailure last rfl
  | cons turn rest ih =>
    obtain ⟨part, kit⟩ := turn
    rw [parseSections]
    cases hprofiles : Profile.ofScriptLanguage? part.language with
    | none => exact ih hfailure
    | some profiles =>
      have hverdict :
          (parseWith kit part.content (part.startLine - 1) budget profiles).IsVerdict :=
        isVerdict_parseWith profiles
      dsimp only
      split
      · exact ih hfailure
      · simp [ParseOutcome.IsVerdict]
      · rename_i failed reason _ houtcome
        apply ih
        intro last hlast
        rw [houtcome] at hverdict
        obtain rfl := Option.mem_some.mp hlast
        exact hverdict

theorem isVerdict_parseComponent {parser : Parser} (hreads : parser.readsSections = true) :
    (parser.parseComponent code budget).IsVerdict := by
  unfold parseComponent
  simp only [hreads, Bool.not_true, Bool.false_eq_true, if_false]
  split
  · simp [ParseOutcome.IsVerdict]
  · exact isVerdict_parseSections (by simp) (parser.turns code)

end Parser

/-! ## Extensions -/

def structuralExtensions : List String :=
  ["js", "mjs", "cjs", "jsx", "ts", "mts", "cts", "tsx", "py", "go", "vue"]

theorem lower_mem_of_hasStructure {extension : String} (hstructure : hasStructure extension = true) :
    lower extension ∈ structuralExtensions := by
  simp only [hasStructure, Bool.or_eq_true] at hstructure
  rcases hstructure with hprofiles | hcomponent
  · unfold Profile.ofExtension Profile.ofLowerExtension at hprofiles
    split at hprofiles <;> simp_all [structuralExtensions]
  · simp_all [isComponentExtension, structuralExtensions]

/-- Extensions with structure are in their plain form once they are in lower case. -/
theorem plain_of_mem_structuralExtensions :
    ∀ extension ∈ structuralExtensions,
      extension.toList.dropWhile (fun c => c == '.') = extension.toList ∧
        (isComponentExtension extension = false →
          (Profile.ofExtension extension).isEmpty = false) := by
  decide +kernel

namespace Parser

theorem plainExtension_eq_lower {extension : String} (hstructure : hasStructure extension = true) :
    plainExtension extension = lower extension := by
  have hplain := (plain_of_mem_structuralExtensions _ (lower_mem_of_hasStructure hstructure)).1
  rw [lower, String.toList_ofList] at hplain
  rw [plainExtension, hplain, lower]

/-- A text that is not blank, in a file with structure, gets a verdict unless it is a component
that cannot be taken apart. -/
theorem parse_cases (parser : Parser) {code extension : String} (budget : Int)
    (hstructure : hasStructure extension = true)
    (hblank : isBlank code = false) :
    (parser.parse code extension budget).IsVerdict ∨
      isComponentExtension (lower extension) = true ∧ parser.readsSections = false ∧
        ∃ reason, parser.parse code extension budget = .failed .capability reason := by
  have hprofiles := (plain_of_mem_structuralExtensions _ (lower_mem_of_hasStructure hstructure)).2
  unfold parse
  simp only [plainExtension_eq_lower hstructure, hblank, Bool.false_eq_true, if_false]
  by_cases hcomponent : isComponentExtension (lower extension) = true
  · rw [if_pos hcomponent]
    by_cases hreads : parser.readsSections = true
    · exact .inl (isVerdict_parseComponent hreads)
    · rw [Bool.not_eq_true] at hreads
      right
      refine ⟨hcomponent, hreads, "single-file component parser not configured", ?_⟩
      simp [parseComponent, hreads]
  · rw [if_neg hcomponent]
    rw [Bool.not_eq_true] at hcomponent
    simp only [hprofiles hcomponent, Bool.false_eq_true, if_false]
    exact .inl (isVerdict_parseWith _)

theorem exists_failed_of_parse {parser : Parser} {code extension : String} {budget : Int}
    (hstructure : hasStructure extension = true)
    (hblank : isBlank code = false)
    (hfailed : (parser.parse code extension budget).isOk = false) :
    ∃ failure reason, parser.parse code extension budget = .failed failure reason ∧
      (failure = .timeout ∨ failure = .parse ∧ reason ≠ "" ∧ reason ≠ "empty source" ∨
        failure = .capability ∧ isComponentExtension (lower extension) = true ∧
          parser.readsSections = false) := by
  rcases parse_cases parser budget hstructure hblank with
    hverdict | ⟨hcomponent, hreads, reason, hparse⟩
  · obtain ⟨failure, reason, hparse, htime | hrefused⟩ := hverdict.exists_failed hfailed
    · exact ⟨failure, reason, hparse, .inl htime⟩
    · exact ⟨failure, reason, hparse, .inr (.inl hrefused)⟩
  · exact ⟨.capability, reason, hparse, .inr (.inr ⟨rfl, hcomponent, hreads⟩)⟩

theorem result_tryParse {parser : Parser} {code extension : String} {budget : Int}
    {outcome : ParseOutcome}
    (hresult : (parser.tryParse code extension budget).result = .ok outcome) :
    TimeBudget.isCountable budget = true ∧ parser.parse code extension budget = outcome := by
  unfold tryParse at hresult
  split at hresult
  · rename_i hcountable
    exact ⟨hcountable, Except.ok.inj hresult⟩
  · cases hresult

end Parser

end ReviewContext
