import ReviewContext.Proofs.Extraction.NewLines
import ReviewContext.Proofs.Prompt.Section

/-!
# Fences around blocks

A block is put between its fences as it is. Nothing that is added on the way begins with a fence,
neither the heading nor a marker nor the end of a cut. Apart from the two around the code, a row of
the section does so only where a line of the new file does, behind its indentation at most. If no
line does, the code is what stands between the first fence and the next one, and nothing follows.
-/

namespace ReviewContext

open ReviewContext.Text
open ReviewContext.Diff (FileDiff)
open ReviewContext.Source (Rebuilt rebuild?)

namespace Prompt

/-- The fence in front of a code and behind it. -/
def codeFence : String :=
  "```"

/-- Whether a row begins with a fence. -/
def opensFence (row : String) : Bool :=
  codeFence.toList.isPrefixOf row.toList

/-- Whether a line begins with a fence behind its indentation. -/
def opensIndentedFence (line : String) : Bool :=
  codeFence.toList.isPrefixOf (line.toList.dropWhile isIndentChar)

/-- What a reader finds between the first fence and the next one, and what is left behind that. -/
def readFenced (shown : List String) : List String × List String :=
  let behind := (shown.dropWhile fun row => !opensFence row).tail
  (behind.takeWhile fun row => !opensFence row,
    (behind.dropWhile fun row => !opensFence row).tail)

theorem opensFence_iff {row : String} :
    opensFence row = true ↔ codeFence.toList <+: row.toList :=
  List.isPrefixOf_iff_prefix

theorem opensFence_codeFence : opensFence codeFence = true := by
  decide

theorem isPlain_of_mem_codeFence {c : Char} (hc : c ∈ codeFence.toList) : Utf8.IsPlain c := by
  have hfence : codeFence.toList = List.replicate 3 (Char.ofNat 0x60) := by decide
  rw [hfence] at hc
  rw [List.eq_of_mem_replicate hc]
  decide

theorem exists_rows_of_formatBlock {block : Block} {text : String}
    (htext : formatBlock block = .ok text) :
    ∃ front, heading block = .ok front ∧
      rows text = rows front ++ [codeFence] ++ rows block.code ++ [codeFence] := by
  have hfence : rows codeFence = [codeFence] := rows_of_feedFree (by decide)
  have hopening : "\n```\n" = "\n" ++ codeFence ++ "\n" := by decide
  have hclosing : "\n```" = "\n" ++ codeFence := by decide
  obtain ⟨front, hfront, rfl⟩ := map_eq_ok.mp htext
  refine ⟨front, hfront, ?_⟩
  have hsection : front ++ "\n```\n" ++ block.code ++ "\n```" =
      front ++ "\n" ++ codeFence ++ "\n" ++ block.code ++ "\n" ++ codeFence := by
    rw [hopening, hclosing]
    simp only [String.append_assoc]
  rw [hsection, rows_append_feed, rows_append_feed, rows_append_feed, hfence]

/-! ## Rows of the code -/

theorem head?_eq_of_opensFence {chars : List Char} (hfence : codeFence.toList <+: chars) :
    chars.head? = codeFence.toList.head? := by
  obtain ⟨behind, rfl⟩ := hfence
  rfl

theorem not_isPrefix_comment (family : Family) (text : String) :
    ¬ codeFence.toList <+: (Marker.comment family text).toList := by
  intro hfence
  have hhead := head?_eq_of_opensFence hfence
  unfold Marker.comment at hhead
  split at hhead
  · have hsign : ("# " ++ text).toList.head? = some '#' := by simp
    rw [hsign] at hhead
    exact absurd hhead (by decide)
  · have hsign : ("/* " ++ text ++ " */").toList.head? = some '/' := by simp
    rw [hsign] at hhead
    exact absurd hhead (by decide)

/-- A row that begins with a fence is the beginning of a line, not of a marker. -/
theorem exists_line_of_opensFence {lines : List String} {row : String}
    (hrow : IsRowFrom lines row)
    (hfence : opensFence row = true) :
    ∃ line ∈ lines, row.toList <+: line.toList := by
  cases hrow with
  | line hline hbegins => exact ⟨_, hline, hbegins⟩
  | marker family text hbegins =>
    exact absurd ((opensFence_iff.mp hfence).trans hbegins) (not_isPrefix_comment family text)

/-! ## Rows of the heading -/

theorem opensIndentedFence_of_beginsIndented {line : String}
    (hline : BeginsIndented codeFence.toList line) :
    opensIndentedFence line = true := by
  obtain ⟨indent, hindent, behind, hchars⟩ := hline
  have hdrop : line.toList.dropWhile isIndentChar = codeFence.toList ++ behind := by
    rw [← hchars, List.append_assoc, List.dropWhile_append_of_pos hindent]
    rfl
  rw [opensIndentedFence, hdrop, List.isPrefixOf_iff_prefix]
  exact List.prefix_append _ _

theorem opensIndentedFence_of_isPrefix {line row : String}
    (hrow : opensFence row = true)
    (hbegins : row.toList <+: line.toList) :
    opensIndentedFence line = true :=
  opensIndentedFence_of_beginsIndented ⟨[], by simp, (opensFence_iff.mp hrow).trans hbegins⟩

theorem blockLabel_eq (block : Block) :
    blockLabel block = block.kind ∨
      ∃ name, block.name = some name ∧ blockLabel block = block.kind ++ " " ++ name := by
  unfold blockLabel
  split
  · rename_i name hname
    split
    · exact .inl rfl
    · exact .inr ⟨name, hname, rfl⟩
  · exact .inl rfl

theorem feed_notMem_range (first last : Int) :
    '\n' ∉ ("(lines " ++ numeral first ++ "-" ++ numeral last ++ ")").toList := by
  refine feed_notMem_append (feed_notMem_append ?_ (feed_notMem_numeral last)) (by decide)
  exact feed_notMem_append (feed_notMem_append (by decide) (feed_notMem_numeral first)) (by decide)

theorem exists_name_of_feed_infix_heading {block : Block} {front : String}
    (hfront : heading block = .ok front)
    (hkind : '\n' ∉ block.kind.toList)
    (hwithin : '\n' :: codeFence.toList <:+: front.toList) :
    ∃ name, block.name = some name ∧ '\n' :: codeFence.toList <:+: name.toList := by
  have hheading : front.toList =
      "### ".toList ++ (blockLabel block).toList ++
        ' ' :: ("(lines " ++ numeral block.first ++ "-" ++ numeral block.last ++ ")").toList := by
    have hblank : " (lines ".toList = ' ' :: "(lines ".toList := by decide
    simp [← (heading_eq_ok_iff.mp hfront).2, hblank]
  rw [hheading] at hwithin
  have hlabel : '\n' :: codeFence.toList <:+: (blockLabel block).toList := by
    rcases infix_append_cons (by decide) hwithin with hinside | hrange
    · exact infix_of_infix_append (by decide) hinside
    · exact absurd (hrange.subset List.mem_cons_self) (feed_notMem_range _ _)
  rcases blockLabel_eq block with heq | ⟨name, hname, heq⟩
  · rw [heq] at hlabel
    exact absurd (hlabel.subset List.mem_cons_self) hkind
  · rw [heq, String.toList_append] at hlabel
    have hfree : '\n' ∉ (block.kind ++ " ").toList := feed_notMem_append hkind (by decide)
    exact ⟨name, hname, infix_of_infix_append hfree hlabel⟩

/-- A row of the heading that begins with a fence is a later row of the name. -/
theorem exists_name_of_opensFence {block : Block} {front row : String}
    (hfront : heading block = .ok front)
    (hkind : '\n' ∉ block.kind.toList)
    (hrow : row ∈ rows front)
    (hfence : opensFence row = true) :
    ∃ name, block.name = some name ∧ '\n' :: codeFence.toList <:+: name.toList := by
  obtain ⟨chars, hchars, rfl⟩ := List.mem_map.mp hrow
  rw [opensFence_iff, String.toList_ofList] at hfence
  have hlater : chars ∈ (front.toList.splitOn '\n').tail := by
    obtain ⟨first, others, hrows⟩ :=
      List.exists_cons_of_ne_nil (List.splitOn_ne_nil '\n' front.toList)
    have hhead := head?_splitOn_feed '\n' front.toList
    rw [hrows] at hchars hhead ⊢
    rcases List.mem_cons.mp hchars with rfl | hlater
    · rw [List.head?_cons, Option.some_inj] at hhead
      have hsign : (firstRow '\n' front.toList).head? = some '#' := by
        simp [← (heading_eq_ok_iff.mp hfront).2, firstRow]
      have hmark := head?_eq_of_opensFence hfence
      rw [hhead, hsign] at hmark
      exact absurd hmark (by decide)
    · exact hlater
  have hwithin : '\n' :: codeFence.toList <:+: front.toList :=
    (List.cons_prefix_cons.mpr ⟨rfl, hfence⟩).isInfix.trans (feed_infix_of_row hlater)
  exact exists_name_of_feed_infix_heading hfront hkind hwithin

/-! ## Read sections -/

section Reading

variable {front code : List String}

theorem filter_opensFence
    (hfront : ∀ row ∈ front, opensFence row = false)
    (hcode : ∀ row ∈ code, opensFence row = false) :
    (front ++ [codeFence] ++ code ++ [codeFence]).filter opensFence = [codeFence, codeFence] := by
  have hnone {rows : List String} (hrows : ∀ row ∈ rows, opensFence row = false) :
      rows.filter opensFence = [] := by
    simpa [List.filter_eq_nil_iff] using hrows
  simp [hnone hfront, hnone hcode, opensFence_codeFence]

theorem readFenced_eq
    (hfront : ∀ row ∈ front, opensFence row = false)
    (hcode : ∀ row ∈ code, opensFence row = false) :
    readFenced (front ++ [codeFence] ++ code ++ [codeFence]) = (code, []) := by
  have hskip {rows : List String} (hrows : ∀ row ∈ rows, opensFence row = false) :
      ∀ row ∈ rows, (!opensFence row) = true := by
    simpa using hrows
  have hbehind :
      ((front ++ [codeFence] ++ code ++ [codeFence]).dropWhile fun row => !opensFence row).tail =
        code ++ [codeFence] := by
    rw [List.append_assoc, List.append_assoc, List.dropWhile_append_of_pos (hskip hfront)]
    simp [opensFence_codeFence]
  unfold readFenced
  dsimp only
  rw [hbehind, List.takeWhile_append_of_pos (hskip hcode),
    List.dropWhile_append_of_pos (hskip hcode)]
  simp [opensFence_codeFence]

end Reading

/-! ## Sections of returned blocks -/

section Blocks

variable {text path : String} {oldPath : Option String} {diff : FileDiff} {settings : Settings}
  {parser : Parser} {extraction : Extraction} {block : Block}

theorem exists_line_of_fence_in_heading {front row : String}
    (hread : FileDiff.read text path oldPath = .ok diff)
    (hresult : (tryExtractBlocks diff settings parser).result = .ok extraction)
    (hblock : block ∈ extraction.blocks)
    (hfront : heading block = .ok front)
    (hrow : row ∈ rows front)
    (hfence : opensFence row = true) :
    ∃ line ∈ Source.newLines diff, opensIndentedFence line = true := by
  rcases Extraction.isStructural_or_textual hresult hblock with
    ⟨source, family, hstages⟩ | htextual
  · have hsource := hstages.rebuilt
    obtain ⟨span, hselected, rfl⟩ := hstages.mem_blocks.mp hblock
    obtain ⟨units, unit, place, declaration, hparsed, hunit, hkind, hname⟩ :=
      exists_declaration_of_mem_collectedSpans hsource (hstages.mem_of_selected hselected)
    have hfree : '\n' ∉ ((span.govern source.lines (settings.ceilings family)).inFile
        source).kind.toList := by
      rw [Block.inFile, Span.kind_govern, hkind]
      exact declaration.feed_notMem_name
    obtain ⟨name, hsome, hwithin⟩ := exists_name_of_opensFence hfront hfree hrow hfence
    rw [Block.inFile, Span.name_govern, hname, Option.some_inj] at hsome
    subst hsome
    obtain ⟨line, hline, hbegins⟩ :=
      Parser.exists_beginsIndented_of_name hparsed hunit (fun _ => isPlain_of_mem_codeFence)
        (by decide) hwithin
    exact ⟨line, Source.mem_newLines_of_mem_lines hread hsource hline,
      opensIndentedFence_of_beginsIndented hbegins⟩
  · obtain rfl := Extraction.eq_wholeTextualBlock htextual
    have hfree : '\n' ∉ "unknown".toList := by decide
    obtain ⟨name, hsome, -⟩ := exists_name_of_opensFence hfront hfree hrow hfence
    cases hsome

/-- A row of a returned block's section begins with a fence only if it is one of the two fences, if
it is a row of the code and the beginning of a line of the new file, or if it is a row of the
heading and such a line begins with a fence behind its indentation. Without such lines the section
ends where it is closed. -/
theorem fences_of_formatted_block {shown : String}
    (hread : FileDiff.read text path oldPath = .ok diff)
    (hresult : (tryExtractBlocks diff settings parser).result = .ok extraction)
    (hblock : block ∈ extraction.blocks)
    (hshown : formatBlock block = .ok shown) :
    ∃ front, heading block = .ok front ∧
      rows shown = rows front ++ [codeFence] ++ rows block.code ++ [codeFence] ∧
      (∀ row ∈ rows block.code, opensFence row = true →
        ∃ line ∈ Source.newLines diff, row.toList <+: line.toList) ∧
      (∀ row ∈ rows front, opensFence row = true →
        ∃ line ∈ Source.newLines diff, opensIndentedFence line = true) ∧
      ((∀ line ∈ Source.newLines diff, opensIndentedFence line = false) →
        (rows shown).filter opensFence = [codeFence, codeFence] ∧
          readFenced (rows shown) = (rows block.code, [])) := by
  obtain ⟨front, hfront, hrows⟩ := exists_rows_of_formatBlock hshown
  have hcode : ∀ row ∈ rows block.code, opensFence row = true →
      ∃ line ∈ Source.newLines diff, row.toList <+: line.toList :=
    fun _ hrow hfence =>
      exists_line_of_opensFence (isRowFrom_newLines hread hresult hblock hrow) hfence
  have hheading : ∀ row ∈ rows front, opensFence row = true →
      ∃ line ∈ Source.newLines diff, opensIndentedFence line = true :=
    fun _ hrow hfence => exists_line_of_fence_in_heading hread hresult hblock hfront hrow hfence
  refine ⟨front, hfront, hrows, hcode, hheading, ?_⟩
  intro hnone
  have hclosed {row : String}
      (hline : opensFence row = true →
        ∃ line ∈ Source.newLines diff, opensIndentedFence line = true) :
      opensFence row = false := by
    rw [← Bool.not_eq_true]
    intro hfence
    obtain ⟨line, hmem, hindented⟩ := hline hfence
    rw [hnone line hmem] at hindented
    cases hindented
  have houtside : ∀ row ∈ rows front, opensFence row = false :=
    fun row hrow => hclosed (hheading row hrow)
  have hinside : ∀ row ∈ rows block.code, opensFence row = false := by
    intro row hrow
    apply hclosed
    intro hfence
    obtain ⟨line, hmem, hbegins⟩ := hcode row hrow hfence
    exact ⟨line, hmem, opensIndentedFence_of_isPrefix hfence hbegins⟩
  rw [hrows]
  exact ⟨filter_opensFence houtside hinside, readFenced_eq houtside hinside⟩

end Blocks

/-! A function that loses a line with a fence and gets one inside of a line. -/

namespace DroppedFence

def text : String :=
  "@@ -1,3 +1,2 @@\n def sign():\n-```\n-    old()\n+    new('```')\n"

def diff : FileDiff :=
  ⟨"sign.py", none, Diff.Cursor.start.run (Diff.diffRows text), [⟨1, 3, 1, 2⟩]⟩

def tree : Node :=
  .node ⟨"module", none, true, 0, 1, 0, 26⟩
    [.node ⟨"function_definition", none, true, 0, 1, 0, 26⟩
      [.node ⟨"identifier", some "name", true, 0, 0, 4, 8⟩ []]]

def parser : Parser :=
  { kit := ⟨fun _ => some fun _ => .tree tree⟩, readsSections := false }

def block : Block :=
  ⟨"def sign():\n    new('```')", 1, 2, "function", some "sign", .none⟩

def shown : String :=
  "### function sign (lines 1-2)\n```\ndef sign():\n    new('```')\n```"

end DroppedFence

theorem droppedFence_formatted :
    formatBlock DroppedFence.block = .ok DroppedFence.shown ∧
      (rows DroppedFence.shown).filter opensFence = [codeFence, codeFence] ∧
      readFenced (rows DroppedFence.shown) = (["def sign():", "    new('```')"], []) := by
  have hread : FileDiff.read DroppedFence.text "sign.py" none = .ok DroppedFence.diff := by
    decide +kernel
  have hresult :
      (tryExtractBlocks DroppedFence.diff .initial DroppedFence.parser).result =
        .ok (extractBlocks DroppedFence.diff .initial DroppedFence.parser) :=
    Extraction.result_tryExtractBlocks_eq (by decide +kernel) (by decide +kernel)
  have hblocks :
      (extractBlocks DroppedFence.diff .initial DroppedFence.parser).blocks =
        [DroppedFence.block] := by
    decide +kernel
  have hlines : ∀ line ∈ Source.newLines DroppedFence.diff, opensIndentedFence line = false := by
    decide +kernel
  have hshown : formatBlock DroppedFence.block = .ok DroppedFence.shown := by
    decide +kernel
  obtain ⟨front, -, -, -, -, hclosed⟩ :=
    fences_of_formatted_block hread hresult (by simp [hblocks]) hshown
  exact ⟨hshown, hclosed hlines⟩

/-! A function that gets a documentation with a fence in it. -/

namespace DocumentedFence

def text : String :=
  "@@ -1,1 +1,4 @@\n def sign():\n+    '''\n+```\n+    '''\n"

def diff : FileDiff :=
  ⟨"sign.py", none, Diff.Cursor.start.run (Diff.diffRows text), [⟨1, 1, 1, 4⟩]⟩

def tree : Node :=
  .node ⟨"module", none, true, 0, 3, 0, 31⟩
    [.node ⟨"function_definition", none, true, 0, 3, 0, 31⟩
      [.node ⟨"identifier", some "name", true, 0, 0, 4, 8⟩ []]]

def parser : Parser :=
  { kit := ⟨fun _ => some fun _ => .tree tree⟩, readsSections := false }

def block : Block :=
  ⟨"def sign():\n    '''\n```\n    '''", 1, 4, "function", some "sign", .none⟩

def shown : String :=
  "### function sign (lines 1-4)\n```\ndef sign():\n    '''\n```\n    '''\n```"

end DocumentedFence

/-- A reader takes the fence in the documentation for the closing one. -/
theorem documentedFence_breaks_out :
    FileDiff.read DocumentedFence.text "sign.py" none = .ok DocumentedFence.diff ∧
      (∃ extraction,
        (tryExtractBlocks DocumentedFence.diff .initial DocumentedFence.parser).result =
            .ok extraction ∧
          DocumentedFence.block ∈ extraction.blocks) ∧
      formatBlock DocumentedFence.block = .ok DocumentedFence.shown ∧
      (rows DocumentedFence.shown).filter opensFence = [codeFence, codeFence, codeFence] ∧
      readFenced (rows DocumentedFence.shown) =
        (["def sign():", "    '''"], ["    '''", codeFence]) := by
  have hblocks :
      (extractBlocks DocumentedFence.diff .initial DocumentedFence.parser).blocks =
        [DocumentedFence.block] := by
    decide +kernel
  refine ⟨by decide +kernel, ⟨_, Extraction.result_tryExtractBlocks_eq (by decide +kernel)
    (by decide +kernel), by simp [hblocks]⟩, ?_⟩
  decide +kernel

end Prompt

end ReviewContext
