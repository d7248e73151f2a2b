import ReviewContext.Proofs.Extraction.Structural
import ReviewContext.Proofs.Parsing.Verdict

/-!
# Extraction behind a failed parse

A parse that fails is an outcome like any other. The extraction then holds the textual block of the
diff, if that keeps to the ceilings, and one warning with the code and the reason of the failure.
Since a rebuilt source is never blank and its file has structure, the failure is a spent budget, a
refusal with reasons, or the lack of a way to take a component file apart.
-/

namespace ReviewContext

open ReviewContext.Text
open ReviewContext.Diff (FileDiff)
open ReviewContext.Source (Rebuilt rebuild?)

/-! ## Rebuilt sources are not blank -/

theorem isBlank_joinRows_eq_false {parts : List String} {part : String}
    (hpart : part ∈ parts)
    (hblank : isBlank part = false) :
    isBlank (joinRows parts) = false := by
  simp only [isBlank, List.all_eq_false] at hblank ⊢
  obtain ⟨c, hc, hvisible⟩ := hblank
  refine ⟨c, ?_, hvisible⟩
  rw [toList_joinRows]
  exact mem_intercalate_of_mem (List.mem_map_of_mem hpart) hc

theorem Source.isBlank_text_eq_false {diff : FileDiff} {source : Rebuilt}
    (hsource : rebuild? diff.records = some source) :
    isBlank source.text = false := by
  obtain ⟨hne, htext, -⟩ := rebuild?_eq_some hsource
  obtain ⟨record, hrecord⟩ := List.exists_mem_of_ne_nil _ hne
  obtain ⟨-, -, -, hvisible⟩ := isSourceLine_eq_true.mp (List.mem_filter.mp hrecord).2
  rw [htext]
  exact isBlank_joinRows_eq_false (List.mem_map_of_mem hrecord) hvisible

/-! ## The textual extraction -/

/-- The textual block of a diff, none if it exceeds a ceiling. -/
def textualBlock? (diff : FileDiff) (settings : Settings) : Option Block :=
  (textualBlock diff.records settings.maxBlockChars settings.maxBlockLines).toOption.join

namespace Extraction

theorem blocks_textual (diff : FileDiff) (settings : Settings) (warnings : List Report) :
    (textual diff settings warnings).blocks = (textualBlock? diff settings).toList := by
  unfold textual textualBlock?
  split
  · rename_i block hblock
    simp [hblock, Except.toOption]
  · rename_i oversize hblock
    simp [hblock, Except.toOption]

theorem warnings_textual (diff : FileDiff) (settings : Settings) (warnings : List Report) :
    (textual diff settings warnings).warnings = warnings := by
  unfold textual
  split <;> rfl

end Extraction

/-! ## A failed parse -/

section FailedParse

variable {diff : FileDiff} {settings : Settings} {parser : Parser} {source : Rebuilt}

theorem parsedSource?_eq_some
    (hadded : diff.added ≠ [])
    (hsupported : settings.supports diff.path = true)
    (hstructure : hasStructure (Extension.ofPath diff.path) = true)
    (hsource : rebuild? diff.records = some source) :
    parsedSource? diff settings = some source := by
  simp [parsedSource?, hadded, hsupported, hstructure, hsource]

theorem extractBlocks_eq_extractFromSource
    (hadded : diff.added ≠ [])
    (hsupported : settings.supports diff.path = true)
    (hstructure : hasStructure (Extension.ofPath diff.path) = true)
    (hsource : rebuild? diff.records = some source) :
    extractBlocks diff settings parser = extractFromSource diff settings parser source := by
  simp [extractBlocks, hadded, hsupported, hstructure, hsource]

/-- A failed parse gives the textual extraction with the failure as its warning. -/
theorem extraction_of_failed_parse {outcome : ParseOutcome}
    (hadded : diff.added ≠ [])
    (hsupported : settings.supports diff.path = true)
    (hstructure : hasStructure (Extension.ofPath diff.path) = true)
    (hsource : rebuild? diff.records = some source)
    (houtcome : (parser.tryParse source.text (Extension.ofPath diff.path)
      settings.parseTimeout).result = .ok outcome)
    (hfailed : outcome.isOk = false) :
    ∃ code reason extraction,
      outcome = .failed code reason ∧
        (tryExtractBlocks diff settings parser).result = .ok extraction ∧
        extraction.strategy = .fallback ∧
        extraction.blocks = (textualBlock? diff settings).toList ∧
        extraction.warnings = [fileWarning diff.path code reason] ∧
        (code = .timeout ∨ code = .parse ∧ reason ≠ "" ∧ reason ≠ "empty source" ∨
          code = .capability ∧ isComponentExtension (lower (Extension.ofPath diff.path)) = true ∧
            parser.readsSections = false) := by
  obtain ⟨hcountable, rfl⟩ := Parser.result_tryParse houtcome
  have hvisible := Source.isBlank_text_eq_false hsource
  obtain ⟨code, reason, hparse, hcauses⟩ :=
    Parser.exists_failed_of_parse hstructure hvisible hfailed
  have hgap : hasUnwritableGap diff settings parser source = false := by
    simp only [hasUnwritableGap, hparse]
  have hresult :
      (tryExtractBlocks diff settings parser).result = .ok (extractBlocks diff settings parser) := by
    apply Extraction.result_tryExtractBlocks_eq hcountable
    simp [parsedSource?_eq_some hadded hsupported hstructure hsource, hgap]
  have hextract :
      extractBlocks diff settings parser = extractFromSource diff settings parser source :=
    extractBlocks_eq_extractFromSource hadded hsupported hstructure hsource
  simp only [extractFromSource, hparse] at hextract
  refine ⟨code, reason, _, hparse, hresult, ?_, ?_, ?_, hcauses⟩
  · rw [hextract, Extraction.strategy_noting, Extraction.strategy_textual]
  · rw [hextract]
    exact Extraction.blocks_textual diff settings _
  · rw [hextract]
    exact Extraction.warnings_textual diff settings _

end FailedParse

/-- A grammar whose error has the wording of the refusal that a blank text would get. -/
def refusingParser : Parser :=
  { kit := ⟨fun _ => some fun _ => .raised "empty source"⟩, readsSections := false }

theorem signEdit_refused :
    ∃ extraction,
      (tryExtractBlocks SignEdit.diff .initial refusingParser).result = .ok extraction ∧
        extraction.strategy = .fallback ∧
        extraction.blocks = [⟨"\n    new()\nsign()", 2, 4, "unknown", none, .none⟩] ∧
        extraction.warnings =
          [fileWarning "sign.py" .parse "python: empty source; python-dedent: empty source"] := by
  have hsource :
      rebuild? SignEdit.diff.records = some ⟨"def sign():\n    new()\nsign()", [1, 3, 4]⟩ := by
    decide +kernel
  have hblocks :
      (textualBlock? SignEdit.diff .initial).toList =
        [⟨"\n    new()\nsign()", 2, 4, "unknown", none, .none⟩] := by
    decide +kernel
  have houtcome :
      (refusingParser.tryParse "def sign():\n    new()\nsign()"
        (Extension.ofPath SignEdit.diff.path) Settings.initial.parseTimeout).result =
        .ok (.failed .parse "python: empty source; python-dedent: empty source") := by
    rfl
  obtain ⟨code, reason, extraction, hcode, hresult, hstrategy, htextual, hwarnings, -⟩ :=
    extraction_of_failed_parse (by decide +kernel) (by decide +kernel) (by decide +kernel)
      hsource houtcome rfl
  cases hcode
  rw [hblocks] at htextual
  exact ⟨extraction, hresult, hstrategy, htextual, hwarnings⟩

end ReviewContext
