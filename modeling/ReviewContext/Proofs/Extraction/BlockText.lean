import ReviewContext.Proofs.Extraction.Structural

/-!
# Text and range of a block

An untruncated block of a structural extraction holds, in the order of the diff, the lines of the
new file that are not blank and whose numbers lie in its range, and nothing else. The span is found
and cut in lines of the source and its range reported in lines of the file; the line map being
strictly increasing, both name the same records.
-/

namespace ReviewContext

open ReviewContext.Text
open ReviewContext.Diff (Record FileDiff)
open ReviewContext.Source (Rebuilt rebuild? keptRecords isSourceLine stripSign fileNumber isBetween
  HasRisingLines)

namespace Diff.Record

/-- Whether a record shows a line of the new file, not blank, with a number in a range. -/
def showsLineWithin (first last : Int) (record : Record) : Bool :=
  (record.kind == .added || record.kind == .context && !record.isUnlabeled) &&
    !record.isHeader && !isBlank (stripSign record.content) &&
      record.newNumber.any fun number => first ≤ number && number ≤ last

end Diff.Record

theorem isSourceLine_eq_kinds (record : Record) :
    isSourceLine record =
      ((record.kind == .added || record.kind == .context && !record.isUnlabeled) &&
        !record.isHeader && !isBlank (stripSign record.content)) := by
  obtain ⟨content, kind, oldNumber, newNumber, displayNumber⟩ := record
  cases kind <;> cases oldNumber <;> cases newNumber <;> rfl

/-- The lines of the new file in a range are the source lines with numbers in it. -/
theorem filter_showsLineWithin {diff : FileDiff} {first last : Int}
    (hrising : HasRisingLines diff) :
    diff.records.filter (Record.showsLineWithin first last) =
      (keptRecords diff).filter (isBetween fileNumber first last) := by
  rw [keptRecords, List.filter_filter]
  refine List.filter_congr fun record hrecord => ?_
  rw [Record.showsLineWithin, ← isSourceLine_eq_kinds]
  cases hsource : isSourceLine record with
  | false => simp
  | true =>
    have hkept : record ∈ keptRecords diff := List.mem_filter.mpr ⟨hrecord, hsource⟩
    rw [hrising.newNumber_eq hkept]
    simp [isBetween]

theorem verbatim_eq {diff : FileDiff} {source : Rebuilt} {span : Span}
    (hrising : HasRisingLines diff)
    (hsource : rebuild? diff.records = some source)
    (hpos : 1 ≤ span.first)
    (hcut : span.IsCutFrom (source.sourceLinesFor diff.changedNumbers)) :
    span.verbatim source.lines =
      joinRows
        ((diff.records.filter
          (Record.showsLineWithin (source.fileLine span.first) (source.fileLine span.last))).map
            fun record => stripSign record.content) := by
  obtain ⟨index, record, hindex, -, hfirst, hlast⟩ := hrising.exists_added hsource hcut
  obtain ⟨hlength, -⟩ := List.getElem?_eq_some_iff.mp hindex
  rw [Span.verbatim, hrising.lines_eq hsource, Source.slice_map,
    hrising.slice_keptRecords hsource hpos (by omega) hcut.first_le_last,
    filter_showsLineWithin hrising]

/-- The text and the range of an untruncated block agree. -/
theorem code_eq_of_untruncated {text path : String} {oldPath : Option String} {diff : FileDiff}
    {settings : Settings} {parser : Parser} {extraction : Extraction} {block : Block}
    (hread : FileDiff.read text path oldPath = .ok diff)
    (hascending : Diff.isAscending text = true)
    (hresult : (tryExtractBlocks diff settings parser).result = .ok extraction)
    (hstructural : extraction.strategy = .structural)
    (hblock : block ∈ extraction.blocks)
    (htruncation : block.truncation = .none) :
    block.first ≤ block.last ∧
      block.code =
        joinRows
          ((diff.records.filter (Record.showsLineWithin block.first block.last)).map
            fun record => stripSign record.content) := by
  have hrising := Source.hasRisingLines_of_read hread hascending
  obtain ⟨source, family, hstages⟩ := Extraction.exists_isStructural hresult hstructural
  obtain ⟨span, hselected, rfl⟩ := hstages.mem_blocks.mp hblock
  have hsource := hstages.rebuilt
  have hmem := hstages.mem_of_selected hselected
  have hcut := hstages.isSound.cut span hmem
  have hpos : 1 ≤ span.first := hstages.isSound.above span hmem
  have hcode := Span.code_govern htruncation
  simp only [Block.inFile, Span.first_govern, Span.last_govern]
  constructor
  · exact hrising.fileLine_mono hsource hcut.first_le_last
  · rw [hcode]
    exact verbatim_eq hrising hsource hpos hcut

theorem signEdit_code :
    SignEdit.block.first ≤ SignEdit.block.last ∧
      SignEdit.block.code =
        joinRows
          ((SignEdit.diff.records.filter (Record.showsLineWithin 1 3)).map
            fun record => stripSign record.content) :=
  code_eq_of_untruncated SignEdit.read_text (by decide +kernel) SignEdit.result_eq
    (by decide +kernel) (by simp [SignEdit.blocks_eq]) rfl

end ReviewContext
