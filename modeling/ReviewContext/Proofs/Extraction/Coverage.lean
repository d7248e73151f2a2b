import ReviewContext.Proofs.Extraction.Structural

/-!
# Coverage of the changed lines

In a structural extraction from an ascending diff, each block holds the line of an added record
that is not blank, and each such record inside of a collected span has its line in a block. A
changed line that no block reaches is therefore blank or outside of all collected spans.
-/

namespace ReviewContext

open ReviewContext.Text
open ReviewContext.Diff (Record FileDiff)
open ReviewContext.Source (Rebuilt rebuild? keptRecords isSourceLine stripSign fileNumber
  HasRisingLines)

/-- The line of the source that a record contributes, counted from one; a line behind the source
for a record that contributes none. -/
def sourceLine (diff : FileDiff) (record : Record) : Int :=
  (keptRecords diff).idxOf record + 1

/-- Whether a range of lines holds a record's line in the new file. -/
def Block.Reaches (block : Block) (record : Record) : Prop :=
  ∃ number, record.newNumber = some number ∧ block.first ≤ number ∧ number ≤ block.last

theorem mem_uncoveredLines {diff : FileDiff} {blocks : List Block} {line : Int} :
    line ∈ uncoveredLines diff blocks ↔
      line ∈ diff.changedNumbers ∧ ∀ block ∈ blocks, ¬ (block.first ≤ line ∧ line ≤ block.last) := by
  simp [uncoveredLines, LineSet.mem_filter]

namespace Source.HasRisingLines

variable {diff : FileDiff} {source : Rebuilt}

theorem mem_keptRecords_of_added (hrising : HasRisingLines diff) {record : Record}
    (hrecord : record ∈ diff.added)
    (hblank : isBlank (stripSign record.content) = false) :
    record ∈ keptRecords diff := by
  obtain ⟨hmem, hadded⟩ := Source.mem_added.mp hrecord
  exact List.mem_filter.mpr ⟨hmem, hrising.isSourceLine_of_added hmem hadded hblank⟩

/-- Where a span reaches the line of a source record, its block reaches the record. -/
theorem reaches_inFile (hrising : HasRisingLines diff)
    (hsource : rebuild? diff.records = some source)
    {span : Span} {ceilings : Ceilings} {index : Nat} {record : Record}
    (hindex : (keptRecords diff)[index]? = some record)
    (hreaches : span.Reaches (index + 1)) :
    ((span.govern source.lines ceilings).inFile source).Reaches record := by
  obtain ⟨hlength, hrecord⟩ := List.getElem?_eq_some_iff.mp hindex
  obtain ⟨hfirst, hlast⟩ := hreaches
  have hline : source.fileLine (index + 1) = fileNumber record := by
    rw [← hrecord]
    exact Source.fileLine_eq hsource hlength (by omega)
  refine ⟨fileNumber record, hrising.newNumber_eq (List.mem_of_getElem? hindex), ?_, ?_⟩
  · simp only [Block.inFile, Span.first_govern]
    rw [← hline]
    exact hrising.fileLine_mono hsource hfirst
  · simp only [Block.inFile, Span.last_govern]
    rw [← hline]
    exact hrising.fileLine_mono hsource hlast

end Source.HasRisingLines

namespace Extraction.IsStructural

variable {extraction : Extraction} {diff : FileDiff} {settings : Settings} {parser : Parser}
  {source : Rebuilt} {family : Family}

theorem blocks_ne_nil
    (hstages : extraction.IsStructural diff settings parser source family) :
    extraction.blocks ≠ [] := by
  obtain ⟨span, hspan⟩ := List.exists_mem_of_ne_nil _ hstages.collected
  obtain ⟨line, hline⟩ := (hstages.isSound.cut span hspan).covers
  obtain ⟨other, hother, -⟩ := hstages.exists_selected_covers hspan hline
  exact List.ne_nil_of_mem (hstages.mem_blocks.mpr ⟨other, hother, rfl⟩)

theorem exists_added_of_mem_blocks
    (hstages : extraction.IsStructural diff settings parser source family)
    (hrising : HasRisingLines diff)
    {block : Block}
    (hblock : block ∈ extraction.blocks) :
    ∃ record ∈ diff.added, isBlank (stripSign record.content) = false ∧ block.Reaches record := by
  have hsource := hstages.rebuilt
  obtain ⟨span, hselected, rfl⟩ := hstages.mem_blocks.mp hblock
  have hcut := hstages.isSound.cut span (hstages.mem_of_selected hselected)
  obtain ⟨index, record, hindex, hadded, hreaches⟩ := hrising.exists_added hsource hcut
  obtain ⟨hrecord, hkept⟩ := List.mem_filter.mp (List.mem_of_getElem? hindex)
  obtain ⟨-, -, -, hblank⟩ := Source.isSourceLine_eq_true.mp hkept
  exact ⟨record, Source.mem_added.mpr ⟨hrecord, hadded⟩, hblank,
    hrising.reaches_inFile hsource hindex hreaches⟩

theorem exists_block_of_reaches
    (hstages : extraction.IsStructural diff settings parser source family)
    (hrising : HasRisingLines diff)
    {record : Record}
    (hrecord : record ∈ diff.added)
    (hblank : isBlank (stripSign record.content) = false)
    {span : Span}
    (hspan : span ∈ collectedSpans diff settings parser)
    (hreaches : span.Reaches (sourceLine diff record)) :
    ∃ block ∈ extraction.blocks, block.Reaches record := by
  have hsource := hstages.rebuilt
  have hsound := hstages.isSound
  have hindex : (keptRecords diff)[(keptRecords diff).idxOf record]? = some record :=
    List.getElem?_idxOf (hrising.mem_keptRecords_of_added hrecord hblank)
  have hchanged : sourceLine diff record ∈ source.sourceLinesFor diff.changedNumbers :=
    (hrising.mem_changedLines hsource).mpr
      ⟨_, record, hindex, (Source.mem_added.mp hrecord).2, rfl⟩
  have hcovered : sourceLine diff record ∈ span.covered :=
    (hsound.cut span hspan).mem_covered.mpr ⟨hchanged, hreaches⟩
  -- The span itself need not be selected, but the line stays covered.
  obtain ⟨other, hother, hline⟩ := hstages.exists_selected_covers hspan hcovered
  have hmem := hstages.mem_of_selected hother
  obtain ⟨-, hotherReaches⟩ := (hsound.cut other hmem).mem_covered.mp hline
  exact ⟨_, hstages.mem_blocks.mpr ⟨other, hother, rfl⟩,
    hrising.reaches_inFile hsource hindex hotherReaches⟩

end Extraction.IsStructural

/-- Blocks hold changed lines, and changed lines inside of spans are held by blocks. -/
theorem blocks_cover_both_ways {text path : String} {oldPath : Option String} {diff : FileDiff}
    {settings : Settings} {parser : Parser} {extraction : Extraction}
    (hread : FileDiff.read text path oldPath = .ok diff)
    (hascending : Diff.isAscending text = true)
    (hresult : (tryExtractBlocks diff settings parser).result = .ok extraction)
    (hstructural : extraction.strategy = .structural) :
    extraction.blocks ≠ [] ∧
      (∀ block ∈ extraction.blocks,
        ∃ record ∈ diff.added,
          isBlank (stripSign record.content) = false ∧ block.Reaches record) ∧
      (∀ record ∈ diff.added,
        isBlank (stripSign record.content) = false →
          (∃ span ∈ collectedSpans diff settings parser, span.Reaches (sourceLine diff record)) →
            ∃ block ∈ extraction.blocks, block.Reaches record) ∧
      ∀ line ∈ uncoveredLines diff extraction.blocks,
        ∃ record ∈ diff.added, record.newNumber = some line ∧
          (isBlank (stripSign record.content) = true ∨
            ∀ span ∈ collectedSpans diff settings parser,
              ¬ span.Reaches (sourceLine diff record)) := by
  have hrising := Source.hasRisingLines_of_read hread hascending
  obtain ⟨source, family, hstages⟩ := Extraction.exists_isStructural hresult hstructural
  refine ⟨hstages.blocks_ne_nil, ?_, ?_, ?_⟩
  · intro block hblock
    exact hstages.exists_added_of_mem_blocks hrising hblock
  · rintro record hrecord hblank ⟨span, hspan, hreaches⟩
    exact hstages.exists_block_of_reaches hrising hrecord hblank hspan hreaches
  · intro line hline
    obtain ⟨hchanged, hunreached⟩ := mem_uncoveredLines.mp hline
    obtain ⟨record, hrecord, hnumber, -⟩ := Source.mem_changedNumbers.mp hchanged
    refine ⟨record, hrecord, hnumber, ?_⟩
    by_cases hblank : isBlank (stripSign record.content) = true
    · exact .inl hblank
    · right
      intro span hspan hreaches
      rw [Bool.not_eq_true] at hblank
      obtain ⟨block, hblock, number, hsome, hbounds⟩ :=
        hstages.exists_block_of_reaches hrising hrecord hblank hspan hreaches
      rw [hnumber, Option.some.injEq] at hsome
      subst hsome
      exact hunreached block hblock hbounds

/-- The call below the edited function is in no block, because no span holds it. -/
theorem signEdit_uncovered :
    (4 : Int) ∈ uncoveredLines SignEdit.diff SignEdit.extraction.blocks ∧
      ∃ record ∈ SignEdit.diff.added, record.newNumber = some 4 ∧
        (isBlank (stripSign record.content) = true ∨
          ∀ span ∈ collectedSpans SignEdit.diff .initial SignEdit.parser,
            ¬ span.Reaches (sourceLine SignEdit.diff record)) := by
  have huncovered : (4 : Int) ∈ uncoveredLines SignEdit.diff SignEdit.extraction.blocks :=
    LineSet.contains_iff.mp (by decide +kernel)
  obtain ⟨-, -, -, hlines⟩ :=
    blocks_cover_both_ways SignEdit.read_text (by decide +kernel) SignEdit.result_eq
      (by decide +kernel)
  exact ⟨huncovered, hlines 4 huncovered⟩

end ReviewContext
