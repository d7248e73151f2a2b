import ReviewContext.Proofs.Block.RowOrigin
import ReviewContext.Proofs.Block.TextualRange
import ReviewContext.Proofs.Extraction.ParseFailure
import ReviewContext.Proofs.Span.NameRows

/-!
# Lines of the new file in blocks

A diff shows lines of the new file by its added and its unchanged rows. Whatever block is returned,
structural or textual, each row of its code is the beginning of such a line or of a marker, and what
begins a later row of its name begins such a line, indented or not.
-/

namespace ReviewContext

open ReviewContext.Text
open ReviewContext.Diff (Record FileDiff)
open ReviewContext.Source (Rebuilt rebuild? stripSign)

namespace Source

/-- The lines of the new file that a diff shows. -/
def newLines (diff : FileDiff) : List String :=
  (diff.records.filter Record.isNewLine).map fun record => stripSign record.content

section Read

variable {text path : String} {oldPath : Option String} {diff : FileDiff}

theorem mem_newLines_of_mem_lines {source : Rebuilt} {line : String}
    (hread : FileDiff.read text path oldPath = .ok diff)
    (hsource : rebuild? diff.records = some source)
    (hline : line ∈ source.lines) :
    line ∈ newLines diff := by
  rw [lines_eq_of_feedFree (fun _ hrecord => FileDiff.feed_notMem_of_read hread hrecord)
    hsource] at hline
  obtain ⟨record, hrecord, rfl⟩ := List.mem_map.mp hline
  obtain ⟨hmem, hkept⟩ := List.mem_filter.mp hrecord
  exact List.mem_map_of_mem
    (List.mem_filter.mpr ⟨hmem, isNewLine_of_isSourceLine hread hmem hkept⟩)

theorem addedText_eq_stripSign {record : Record}
    (hread : FileDiff.read text path oldPath = .ok diff)
    (hrecord : record ∈ diff.records)
    (hadded : record.kind = .added) :
    addedText record = stripSign record.content := by
  rw [FileDiff.eq_of_read hread] at hrecord
  obtain ⟨before, after, row, -, htakes⟩ := Diff.Cursor.exists_takes_of_mem_run hrecord
  cases htakes with
  | added _ hsign =>
    obtain ⟨hplus, -⟩ := Bool.and_eq_true_iff.mp hsign
    obtain ⟨rest, hrest⟩ := List.isPrefixOf_iff_prefix.mp hplus
    have hchars : row.toList = '+' :: rest := hrest.symm
    simp [addedText, stripSign, hchars]
  | header | removed | unchanged | foreign => cases hadded

theorem addedText_mem_newLines {record : Record}
    (hread : FileDiff.read text path oldPath = .ok diff)
    (hrecord : record ∈ diff.added) :
    addedText record ∈ newLines diff := by
  obtain ⟨hmem, hadded⟩ := mem_added.mp hrecord
  rw [addedText_eq_stripSign hread hmem hadded]
  exact List.mem_map_of_mem (List.mem_filter.mpr ⟨hmem, isNewLine_of_added hread hmem hadded⟩)

end Read

end Source

/-! ## Kinds of blocks -/

namespace Extraction

variable {diff : FileDiff} {settings : Settings} {parser : Parser} {block : Block}

/-- A returned block belongs to a selected span, or it is the textual block. -/
theorem isStructural_or_textual {extraction : Extraction}
    (hresult : (tryExtractBlocks diff settings parser).result = .ok extraction)
    (hblock : block ∈ extraction.blocks) :
    (∃ source family, extraction.IsStructural diff settings parser source family) ∨
      textualBlock? diff settings = some block := by
  cases arises_of_result hresult with
  | nothing hstrategy hblocks =>
    rw [hblocks] at hblock
    cases hblock
  | textual warnings hstrategy hblocks =>
    rw [hblocks, blocks_textual] at hblock
    exact .inr (Option.mem_toList.mp hblock)
  | structural hstages => exact .inl ⟨_, _, hstages⟩

theorem eq_wholeTextualBlock (hblock : textualBlock? diff settings = some block) :
    wholeTextualBlock diff.added = block := by
  unfold textualBlock? at hblock
  cases htextual : textualBlock diff.records settings.maxBlockChars settings.maxBlockLines with
  | error oversize => simp [htextual, Except.toOption] at hblock
  | ok found =>
    have hfound : found = some block := by
      simpa [htextual, Except.toOption] using hblock
    rw [hfound] at htextual
    exact (textualBlock_eq_some_iff.mp htextual).2.1

end Extraction

/-! ## Rows and names of returned blocks -/

section Blocks

variable {text path : String} {oldPath : Option String} {diff : FileDiff} {settings : Settings}
  {parser : Parser} {extraction : Extraction} {block : Block}

/-- Each row of the code of a returned block is the beginning of a line of the new file or of a
marker. -/
theorem isRowFrom_newLines {row : String}
    (hread : FileDiff.read text path oldPath = .ok diff)
    (hresult : (tryExtractBlocks diff settings parser).result = .ok extraction)
    (hblock : block ∈ extraction.blocks)
    (hrow : row ∈ rows block.code) :
    IsRowFrom (Source.newLines diff) row := by
  rcases Extraction.isStructural_or_textual hresult hblock with
    ⟨source, family, hstages⟩ | htextual
  · obtain ⟨span, -, rfl⟩ := hstages.mem_blocks.mp hblock
    have hfree : ∀ line ∈ source.lines, '\n' ∉ line.toList :=
      fun _ hline => feed_notMem_of_mem_rows hline
    have hrow := (span.governs_govern source.lines (settings.ceilings family)).isRowFrom_of_mem_rows
      hfree hrow
    exact hrow.mono fun _ hline => Source.mem_newLines_of_mem_lines hread hstages.rebuilt hline
  · obtain rfl := Extraction.eq_wholeTextualBlock htextual
    refine .of_mem_rows_joinRows ?_ ?_ hrow
    · intro part hpart
      obtain ⟨record, hrecord, rfl⟩ := List.mem_map.mp hpart
      exact feed_notMem_addedText
        (FileDiff.feed_notMem_of_read hread (Source.mem_added.mp hrecord).1)
    · intro part hpart
      obtain ⟨record, hrecord, rfl⟩ := List.mem_map.mp hpart
      exact .of_mem (Source.addedText_mem_newLines hread hrecord)

theorem exists_unit_of_mem_overUnits {changed : LineSet} {start : Nat} {units : List ParsedUnit}
    {span : Span}
    (hspan : span ∈ (Walk.overUnits settings changed start units).flatMap Walk.spans) :
    ∃ unit ∈ units, ∃ first, span ∈ (unit.walk settings changed first).spans := by
  induction units generalizing start with
  | nil => cases hspan
  | cons unit rest ih =>
    rw [Walk.overUnits, List.flatMap_cons, List.mem_append] at hspan
    rcases hspan with hwalk | hrest
    · exact ⟨unit, List.mem_cons_self, start, hwalk⟩
    · obtain ⟨other, hother, hwalk⟩ := ih hrest
      exact ⟨other, List.mem_cons_of_mem unit hother, hwalk⟩

/-- A collected span has the kind and the name that a place in a tree of the source has. -/
theorem exists_declaration_of_mem_collectedSpans {source : Rebuilt} {span : Span}
    (hsource : rebuild? diff.records = some source)
    (hspan : span ∈ collectedSpans diff settings parser) :
    ∃ units unit, ∃ place : Place, ∃ declaration : Declaration,
      parser.parse source.text (Extension.ofPath diff.path) settings.parseTimeout =
          .parsed units ∧
        unit ∈ units ∧ span.kind = declaration.name ∧
        span.name = some (place.name (Utf8.encode unit.source)) := by
  simp only [collectedSpans, hsource] at hspan
  split at hspan
  · cases hspan
  · rename_i units hparse
    obtain ⟨unit, hunit, first, hwalk⟩ := exists_unit_of_mem_overUnits hspan
    obtain ⟨place, -, hfound⟩ := exists_stemsFrom_of_mem_collectSpans hwalk
    obtain ⟨declaration, -, hvalue, -⟩ := WalkTarget.exists_of_spanAt? hfound
    refine ⟨units, unit, place, declaration, hparse, hunit, ?_, ?_⟩
    · rw [hvalue]
    · rw [hvalue]
      rfl

end Blocks

end ReviewContext
