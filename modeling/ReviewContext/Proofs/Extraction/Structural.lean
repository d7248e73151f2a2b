import ReviewContext.Proofs.Block.Ceilings
import ReviewContext.Proofs.Source.LineMap
import ReviewContext.Proofs.Span.Selection

/-!
# Structural extractions

A structural extraction comes from a rebuilt source with collected spans, and its blocks are those
of the selected ones. In an ascending diff each selected span starts inside the source and covers
the line of an added record.
-/

namespace ReviewContext

open ReviewContext.Diff (Record FileDiff)
open ReviewContext.Source (Rebuilt rebuild? keptRecords HasRisingLines)

/-- The spans around the changed lines of a diff, in lines of its source. -/
def collectedSpans (diff : FileDiff) (settings : Settings) (parser : Parser) : List Span :=
  match rebuild? diff.records with
  | none => []
  | some source =>
    match parser.parse source.text (Extension.ofPath diff.path) settings.parseTimeout with
    | .failed _ _ => []
    | .parsed units =>
      (Walk.overUnits settings (source.sourceLinesFor diff.changedNumbers) 0 units).flatMap
        Walk.spans

/-- The stages behind a structural extraction. -/
structure Extraction.IsStructural (extraction : Extraction) (diff : FileDiff)
    (settings : Settings) (parser : Parser) (source : Rebuilt) (family : Family) : Prop where
  rebuilt : rebuild? diff.records = some source
  collected : collectedSpans diff settings parser ≠ []
  blocks : extraction.blocks =
    structuralBlocks settings source family (collectedSpans diff settings parser)

namespace Extraction

theorem strategy_textual (diff : FileDiff) (settings : Settings) (warnings : List Report) :
    (textual diff settings warnings).strategy = .fallback := by
  unfold textual
  split <;> rfl

theorem strategy_noting (events : List Event) (extraction : Extraction) :
    (extraction.noting events).strategy = extraction.strategy := by
  rfl

variable {diff : FileDiff} {settings : Settings} {parser : Parser}

/-- The three ways in which an extraction comes about. -/
inductive Arises (extraction : Extraction) (diff : FileDiff) (settings : Settings)
    (parser : Parser) : Prop where
  | nothing
      (hstrategy : extraction.strategy ≠ .structural)
      (hblocks : extraction.blocks = []) :
      Arises extraction diff settings parser
  | textual (warnings : List Report)
      (hstrategy : extraction.strategy = .fallback)
      (hblocks : extraction.blocks = (Extraction.textual diff settings warnings).blocks) :
      Arises extraction diff settings parser
  | structural {source : Rebuilt} {family : Family}
      (hstages : extraction.IsStructural diff settings parser source family) :
      Arises extraction diff settings parser

theorem Arises.noting {extraction : Extraction}
    (harises : extraction.Arises diff settings parser)
    (events : List Event) :
    (extraction.noting events).Arises diff settings parser := by
  cases harises with
  | nothing hstrategy hblocks => exact .nothing hstrategy hblocks
  | textual warnings hstrategy hblocks => exact .textual warnings hstrategy hblocks
  | structural hstages =>
    exact .structural ⟨hstages.rebuilt, hstages.collected, hstages.blocks⟩

theorem arises_nothing {strategy : Strategy} (hstrategy : strategy ≠ .structural) :
    (nothing strategy).Arises diff settings parser :=
  .nothing hstrategy rfl

theorem arises_textual (warnings : List Report) :
    (textual diff settings warnings).Arises diff settings parser :=
  .textual warnings (strategy_textual diff settings warnings) rfl

theorem arises_extractFromUnits {source : Rebuilt} {units : List ParsedUnit}
    (hsource : rebuild? diff.records = some source)
    (hparse : parser.parse source.text (Extension.ofPath diff.path) settings.parseTimeout =
      .parsed units) :
    (extractFromUnits diff settings source units).Arises diff settings parser := by
  have hspans : collectedSpans diff settings parser =
      (Walk.overUnits settings (source.sourceLinesFor diff.changedNumbers) 0 units).flatMap
        Walk.spans := by
    simp only [collectedSpans, hsource, hparse]
  unfold extractFromUnits
  dsimp only
  rw [← hspans]
  split
  · exact (arises_textual _).noting _
  · rename_i hne
    exact .structural ⟨hsource, by simpa using hne, rfl⟩

theorem arises_extractFromSource {source : Rebuilt}
    (hsource : rebuild? diff.records = some source) :
    (extractFromSource diff settings parser source).Arises diff settings parser := by
  unfold extractFromSource
  dsimp only
  cases hparse : parser.parse source.text (Extension.ofPath diff.path) settings.parseTimeout with
  | failed code reason => exact (arises_textual _).noting _
  | parsed units => exact (arises_extractFromUnits hsource hparse).noting _

theorem arises_extractBlocks : (extractBlocks diff settings parser).Arises diff settings parser := by
  unfold extractBlocks
  dsimp only
  split
  · exact arises_nothing (by decide)
  split
  · exact (arises_nothing (by decide)).noting _
  split
  · exact arises_textual _
  cases hsource : rebuild? diff.records with
  | none => exact arises_textual []
  | some source => exact arises_extractFromSource hsource

theorem result_tryExtractBlocks {extraction : Extraction}
    (hresult : (tryExtractBlocks diff settings parser).result = .ok extraction) :
    extraction = extractBlocks diff settings parser := by
  unfold tryExtractBlocks at hresult
  dsimp only at hresult
  split at hresult
  · cases hresult
    rfl
  · split at hresult
    · cases hresult
    · split at hresult
      · cases hresult
      · cases hresult
        rfl

/-- Within a time budget that can be counted, with gaps that can be written, there is a result. -/
theorem result_tryExtractBlocks_eq
    (hcountable : TimeBudget.isCountable settings.parseTimeout = true)
    (hgaps : (parsedSource? diff settings).all
      (fun source => !hasUnwritableGap diff settings parser source) = true) :
    (tryExtractBlocks diff settings parser).result = .ok (extractBlocks diff settings parser) := by
  unfold tryExtractBlocks
  dsimp only
  cases hsource : parsedSource? diff settings with
  | none => rfl
  | some source =>
    have hgap : hasUnwritableGap diff settings parser source = false := by
      simpa [hsource] using hgaps
    simp [hcountable, hgap, Traced.success]

theorem arises_of_result {extraction : Extraction}
    (hresult : (tryExtractBlocks diff settings parser).result = .ok extraction) :
    extraction.Arises diff settings parser := by
  rw [result_tryExtractBlocks hresult]
  exact arises_extractBlocks

theorem exists_isStructural {extraction : Extraction}
    (hresult : (tryExtractBlocks diff settings parser).result = .ok extraction)
    (hstructural : extraction.strategy = .structural) :
    ∃ (source : Rebuilt) (family : Family),
      extraction.IsStructural diff settings parser source family := by
  cases arises_of_result hresult with
  | nothing hstrategy hblocks => exact absurd hstructural hstrategy
  | textual warnings hstrategy hblocks =>
    rw [hstructural] at hstrategy
    cases hstrategy
  | structural hstages => exact ⟨_, _, hstages⟩

end Extraction

/-! ## Governed spans -/

namespace Span

variable (span : Span) (lines : List String) (ceilings : Ceilings)

theorem first_govern : (span.govern lines ceilings).first = span.first := by
  simp only [govern, block, apply_ite Block.first, ite_self]

theorem last_govern : (span.govern lines ceilings).last = span.last := by
  simp only [govern, block, apply_ite Block.last, ite_self]

theorem kind_govern : (span.govern lines ceilings).kind = span.kind := by
  simp only [govern, block, apply_ite Block.kind, ite_self]

theorem name_govern : (span.govern lines ceilings).name = span.name := by
  simp only [govern, block, apply_ite Block.name, ite_self]

variable {span lines ceilings}

theorem code_govern
    (htruncation : (span.govern lines ceilings).truncation = .none) :
    (span.govern lines ceilings).code = span.verbatim lines := by
  exact (governs_govern span lines ceilings).code_eq htruncation

end Span

/-! ## Blocks and spans -/

section Blocks

variable {diff : FileDiff} {settings : Settings} {parser : Parser} {source : Rebuilt}

theorem isSound_collectedSpans (hsource : rebuild? diff.records = some source) :
    Walk.IsSound (collectedSpans diff settings parser)
      (source.sourceLinesFor diff.changedNumbers) 0 0 := by
  simp only [collectedSpans, hsource]
  split
  · exact .nil
  · exact isSound_overUnits settings _ 0 _

theorem Source.HasRisingLines.exists_added {span : Span}
    (hrising : HasRisingLines diff)
    (hsource : rebuild? diff.records = some source)
    (hcut : span.IsCutFrom (source.sourceLinesFor diff.changedNumbers)) :
    ∃ (index : Nat) (record : Record),
      (keptRecords diff)[index]? = some record ∧ record.kind = .added ∧
        span.first ≤ index + 1 ∧ (index + 1 : Int) ≤ span.last := by
  obtain ⟨line, hline⟩ := hcut.covers
  obtain ⟨hchanged, hfirst, hlast⟩ := hcut.mem_covered.mp hline
  obtain ⟨index, record, hindex, hadded, rfl⟩ := (hrising.mem_changedLines hsource).mp hchanged
  exact ⟨index, record, hindex, hadded, hfirst, hlast⟩

end Blocks

namespace Extraction.IsStructural

variable {extraction : Extraction} {diff : FileDiff} {settings : Settings} {parser : Parser}
  {source : Rebuilt} {family : Family}

theorem mem_blocks
    (hstages : extraction.IsStructural diff settings parser source family) {block : Block} :
    block ∈ extraction.blocks ↔
      ∃ span ∈ Span.selectMinimal (collectedSpans diff settings parser),
        (span.govern source.lines (settings.ceilings family)).inFile source = block := by
  rw [hstages.blocks, structuralBlocks, List.mem_map]

theorem isSound
    (hstages : extraction.IsStructural diff settings parser source family) :
    Walk.IsSound (collectedSpans diff settings parser)
      (source.sourceLinesFor diff.changedNumbers) 0 0 := by
  exact isSound_collectedSpans hstages.rebuilt

theorem mem_of_selected
    (hstages : extraction.IsStructural diff settings parser source family) {span : Span}
    (hselected : span ∈ Span.selectMinimal (collectedSpans diff settings parser)) :
    span ∈ collectedSpans diff settings parser := by
  have hsound := hstages.isSound
  exact ((Span.mem_selectMinimal hsound.cut hsound.nodup_orders).mp hselected).smallest.mem

theorem exists_selected_covers
    (hstages : extraction.IsStructural diff settings parser source family) {span : Span}
    {line : Int}
    (hspan : span ∈ collectedSpans diff settings parser)
    (hline : line ∈ span.covered) :
    ∃ other ∈ Span.selectMinimal (collectedSpans diff settings parser), line ∈ other.covered := by
  have hsound := hstages.isSound
  exact Span.exists_selected_covers hsound.cut hsound.nodup_orders hspan hline

end Extraction.IsStructural

/-! ## An edited function -/

namespace SignEdit

def text : String :=
  "@@ -1,2 +1,4 @@\n def sign():\n-    old()\n+\n+    new()\n+sign()\n"

def diff : FileDiff :=
  ⟨"sign.py", none, Diff.Cursor.start.run (Diff.diffRows text), [⟨1, 2, 1, 4⟩]⟩

/-- The tree of the source, in which the function has the first two of three rows. -/
def tree : Node :=
  .node ⟨"module", none, true, 0, 2, 0, 28⟩
    [.node ⟨"function_definition", none, true, 0, 1, 0, 21⟩
        [.node ⟨"identifier", some "name", true, 0, 0, 4, 8⟩ []],
      .node ⟨"expression_statement", none, true, 2, 2, 22, 28⟩ []]

def parser : Parser :=
  { kit := ⟨fun _ => some fun _ => .tree tree⟩, readsSections := false }

def extraction : Extraction :=
  extractBlocks diff .initial parser

/-- The block of the function, from the first to the third line of the file. -/
def block : Block :=
  ⟨"def sign():\n    new()", 1, 3, "function", some "sign", .none⟩

theorem read_text : FileDiff.read text "sign.py" none = .ok diff := by
  decide +kernel

theorem result_eq : (tryExtractBlocks diff .initial parser).result = .ok extraction :=
  Extraction.result_tryExtractBlocks_eq (by decide +kernel) (by decide +kernel)

theorem blocks_eq : extraction.blocks = [block] := by
  decide +kernel

end SignEdit

end ReviewContext
