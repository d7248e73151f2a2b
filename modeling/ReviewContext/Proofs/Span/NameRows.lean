import ReviewContext.Proofs.Parsing.Alignment
import ReviewContext.Proofs.Text.PlainStretch
import ReviewContext.Proofs.Text.RowBeginning

/-!
# Names of several rows

The name of a span is cut out of the bytes of its unit, so it can go over several rows. What begins
one of its later rows begins a row of the unit as well, and a row of the parsed text behind some
indentation, as far as it consists of plain characters.
-/

namespace ReviewContext

open ReviewContext.Text

/-- The mark stands at the beginning of the line or behind spaces and tabs alone. -/
def BeginsIndented (mark : List Char) (line : String) : Prop :=
  ∃ indent, (∀ c ∈ indent, isIndentChar c = true) ∧ indent ++ mark <+: line.toList

theorem Declaration.feed_notMem_name (declaration : Declaration) :
    '\n' ∉ declaration.name.toList := by
  cases declaration <;> decide

/-! ## Names and texts of nodes -/

namespace Node

theorem unquotedText_infix (bytes : List UInt8) (node : Node) :
    node.unquotedText bytes <:+: node.text bytes := by
  have hbehind := List.dropWhile_suffix isQuoteMark (l := node.text bytes)
  have hfront := List.rdropWhile_prefix isQuoteMark ((node.text bytes).dropWhile isQuoteMark)
  exact hfront.isInfix.trans hbehind.isInfix

/-- The characters stand in the text of some node. -/
def HoldsText (bytes : List UInt8) (chars : List Char) : Prop :=
  ∃ node : Node, chars <:+: node.text bytes

theorem holdsText_of_mem_map {bytes : List UInt8} {found : Option Node} {chars : List Char}
    (hchars : chars ∈ found.map (text bytes)) :
    HoldsText bytes chars := by
  obtain ⟨node, -, rfl⟩ := Option.map_eq_some_iff.mp hchars
  exact ⟨node, List.infix_refl _⟩

theorem holdsText_of_mem_map_unquoted {bytes : List UInt8} {found : Option Node}
    {chars : List Char}
    (hchars : chars ∈ found.map (unquotedText bytes)) :
    HoldsText bytes chars := by
  obtain ⟨node, -, rfl⟩ := Option.map_eq_some_iff.mp hchars
  exact ⟨node, unquotedText_infix bytes node⟩

end Node

namespace Place

variable {bytes : List UInt8} {place : Place}

theorem holdsText_of_mem_nameFromParent? {parent : Node} {chars : List Char}
    (hchars : chars ∈ nameFromParent? bytes parent) :
    Node.HoldsText bytes chars := by
  unfold nameFromParent? at hchars
  split at hchars
  · exact Node.holdsText_of_mem_map hchars
  · exact Node.holdsText_of_mem_map_unquoted hchars
  · exact Node.holdsText_of_mem_map hchars
  · exact Node.holdsText_of_mem_map hchars
  · cases hchars

theorem holdsText_of_feed_infix_name {mark : List Char}
    (hmark : '\n' :: mark <:+: (place.name bytes).toList) :
    Node.HoldsText bytes ('\n' :: mark) := by
  rw [name, String.toList_ofList] at hmark
  have hfound {found : Option (List Char)} {chars : List Char}
      (hall : ∀ other ∈ found, Node.HoldsText bytes other)
      (hchars : '\n' :: mark <:+: found.getD chars) :
      Node.HoldsText bytes ('\n' :: mark) ∨ '\n' :: mark <:+: chars := by
    cases found with
    | none => exact .inr hchars
    | some other =>
      obtain ⟨node, hother⟩ := hall other rfl
      exact .inl ⟨node, hchars.trans hother⟩
  have hparent (other : List Char)
      (hother : other ∈ place.parent?.bind (nameFromParent? bytes)) :
      Node.HoldsText bytes other := by
    obtain ⟨parent, -, hname⟩ := Option.bind_eq_some_iff.mp hother
    exact holdsText_of_mem_nameFromParent? hname
  rw [Option.getD_or, Option.getD_or] at hmark
  rcases hfound (fun _ hother => Node.holdsText_of_mem_map hother) hmark with hown | hmark
  · exact hown
  rcases hfound hparent hmark with habove | hmark
  · exact habove
  rcases hfound (fun _ hother => Node.holdsText_of_mem_map_unquoted hother) hmark with
    hproperty | hmark
  · exact hproperty
  · exact absurd (hmark.subset List.mem_cons_self) (by decide)

end Place

/-! ## Rows of units -/

namespace ParsedUnit

variable {unit : ParsedUnit} {mark : List Char}

theorem infix_source_of_holdsText
    (hplain : ∀ c ∈ mark, Utf8.IsPlain c)
    (hmark : Node.HoldsText (Utf8.encode unit.source) mark) :
    mark <:+: unit.source.toList := by
  obtain ⟨node, hnode⟩ := hmark
  refine Utf8.infix_of_infix_read hplain ?_ hnode
  exact (List.drop_suffix _ _).isInfix.trans (List.take_prefix _ _).isInfix

theorem exists_later_row_of_infix_source
    (hfree : '\n' ∉ mark)
    (hmark : '\n' :: mark <:+: unit.source.toList) :
    ∃ index row, (rows unit.source)[index + 1]? = some row ∧ mark <+: row.toList := by
  obtain ⟨chars, hchars, hbegins⟩ := exists_row_behind_feed hfree hmark
  obtain ⟨index, hindex⟩ := List.mem_iff_getElem?.mp hchars
  rw [List.getElem?_tail] at hindex
  refine ⟨index, String.ofList chars, ?_, ?_⟩
  · rw [rows, List.getElem?_map, hindex, Option.map_some]
  · rwa [String.toList_ofList]

theorem KeepsRows.exists_beginsIndented {code : LooseText} (hkeeps : unit.KeepsRows code)
    {index : Nat} {row : String}
    (hrow : (rows unit.source)[index]? = some row)
    (hmark : mark <+: row.toList) :
    ∃ line ∈ rows code.written, BeginsIndented mark line := by
  obtain ⟨indent, kept, hline, rfl, hindent⟩ := hkeeps.aligned index row hrow
  refine ⟨_, LooseText.mem_rows_written hline, indent.chars, ?_, ?_⟩
  · intro c hc
    obtain ⟨point, hpoint, rfl⟩ := List.mem_map.mp hc
    rw [CodePoint.isIndentChar_written]
    exact (hindent point hpoint).2
  · rw [LooseText.written_append, String.toList_append, LooseText.toList_written indent]
    exact (List.prefix_append_right_inj _).mpr hmark

theorem KeepsSectionRows.exists_beginsIndented {code before body after : LooseText}
    (hkeeps : unit.KeepsSectionRows code before body after) {index : Nat} {row : String}
    (hrow : (rows unit.source)[index + 1]? = some row)
    (hmark : mark <+: row.toList) :
    ∃ line ∈ rows code.written, BeginsIndented mark line := by
  obtain ⟨kept, hline, rfl⟩ := hkeeps.aligned (index + 1) row hrow
  have hlead : leadOf LooseText.feed before (index + 1) = [] := if_neg (Nat.succ_ne_zero index)
  refine ⟨_, LooseText.mem_rows_written hline, [], by simp, ?_⟩
  rw [hlead, List.nil_append, LooseText.written_append, String.toList_append, List.nil_append]
  exact hmark.trans (List.prefix_append _ _)

end ParsedUnit

/-- A plain mark that begins a later row of a name begins a row of the parsed text, indented or
not. -/
theorem Parser.exists_beginsIndented_of_name {parser : Parser} {code extension : String}
    {budget : Int} {units : List ParsedUnit} {unit : ParsedUnit} {place : Place} {mark : List Char}
    (hparsed : parser.parse code extension budget = .parsed units)
    (hunit : unit ∈ units)
    (hplain : ∀ c ∈ mark, Utf8.IsPlain c)
    (hfree : '\n' ∉ mark)
    (hmark : '\n' :: mark <:+: (place.name (Utf8.encode unit.source)).toList) :
    ∃ line ∈ rows code, BeginsIndented mark line := by
  have hplainFeed : ∀ c ∈ '\n' :: mark, Utf8.IsPlain c :=
    List.forall_mem_cons.mpr ⟨⟨by decide, by decide⟩, hplain⟩
  have hwithin :=
    ParsedUnit.infix_source_of_holdsText hplainFeed (Place.holdsText_of_feed_infix_name hmark)
  obtain ⟨index, row, hrow, hbegins⟩ :=
    ParsedUnit.exists_later_row_of_infix_source hfree hwithin
  obtain ⟨text, rfl⟩ : ∃ text : LooseText, code = text.written :=
    ⟨.ofString code, (LooseText.written_ofString code).symm⟩
  rcases parsed_cases hparsed hunit with ⟨-, hread⟩ | ⟨-, part, hpart, hread⟩
  · exact hread.keepsRows.exists_beginsIndented hrow hbegins
  · obtain ⟨before, body, after, hkeeps⟩ := ParsedUnit.exists_keepsSectionRows hpart hread
    exact hkeeps.exists_beginsIndented hrow hbegins

end ReviewContext
