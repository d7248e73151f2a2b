import ReviewContext.Proofs.Parsing.LooseRows
import ReviewContext.Proofs.Parsing.Verdict
import ReviewContext.Proofs.Script.Placement
import ReviewContext.Proofs.Span.Visited
import ReviewContext.Proofs.Text.Dedent

/-!
# Lines of parsed units

A unit is read from a whole text or from the body of a script section. Either way its source has the
rows of the text as they are written, counted from the line offset of the unit. A profile may have
taken indentation off each row; the body of a section begins behind its opening tag and ends in
front of its closing tag.
-/

namespace ReviewContext

open ReviewContext.Text
open ReviewContext.Script (lineFeeds)

/-! ## Units and their profiles -/

namespace ParsedUnit

/-- The unit is a text behind an offset as one of the profiles reads it. -/
structure IsReadBy (unit : ParsedUnit) (profiles : List Profile) (code : String) (offset : Nat) :
    Prop where
  profile : unit.profile ∈ profiles
  source : unit.source = unit.profile.sourceFor code
  lineOffset : unit.lineOffset = offset

/-- The unit is read from a section in a language with profiles. -/
def IsReadFrom (unit : ParsedUnit) (part : Script.Section) : Prop :=
  ∃ profiles, Profile.ofScriptLanguage? part.language = some profiles ∧
    unit.IsReadBy profiles part.content (part.startLine - 1)

end ParsedUnit

theorem Profile.isReadBy_of_usable {profile : Profile} {kit : Kit} {code : String} {budget : Int}
    {offset : Nat} {unit : ParsedUnit} {profiles : List Profile}
    (hprofile : profile ∈ profiles)
    (htrial : profile.trial kit code budget offset = .usable unit) :
    unit.IsReadBy profiles code offset := by
  unfold trial at htrial
  split at htrial
  · cases htrial
  · cases htrial
  · cases htrial
  · split at htrial
    · cases htrial
      exact ⟨hprofile, rfl, rfl⟩
    · cases htrial
  · cases htrial

namespace Parser

variable {kit : Kit} {code : String} {budget : Int} {offset : Nat} {unit : ParsedUnit}
  {units : List ParsedUnit}

theorem isReadBy_of_mem_escalate {reasons : List String} {profiles : List Profile}
    (hparsed : escalate kit code budget offset reasons profiles = .parsed units)
    (hunit : unit ∈ units) :
    unit.IsReadBy profiles code offset := by
  induction profiles generalizing reasons with
  | nil => cases hparsed
  | cons profile rest ih =>
    rw [escalate] at hparsed
    cases htrial : profile.trial kit code budget offset with
    | usable found =>
      simp only [htrial, ParseOutcome.parsed.injEq] at hparsed
      subst hparsed
      rw [List.mem_singleton] at hunit
      subst hunit
      exact Profile.isReadBy_of_usable List.mem_cons_self htrial
    | refused reason =>
      simp only [htrial] at hparsed
      have hread := ih hparsed
      exact { hread with profile := List.mem_cons_of_mem _ hread.profile }
    | late => simp [htrial] at hparsed

theorem isReadBy_of_mem_parseWith {profiles : List Profile}
    (hparsed : parseWith kit code offset budget profiles = .parsed units)
    (hunit : unit ∈ units) :
    unit.IsReadBy profiles code offset := by
  unfold parseWith at hparsed
  split at hparsed
  · cases hparsed
  · exact isReadBy_of_mem_escalate hparsed hunit

theorem isReadFrom_of_mem_parseSections {found : List ParsedUnit}
    {failure : Option (Code × String)} {turns : List Turn}
    (hparsed : parseSections budget found failure turns = .parsed units)
    (hunit : unit ∈ units) :
    unit ∈ found ∨ ∃ turn ∈ turns, unit.IsReadFrom turn.part := by
  induction turns generalizing found failure with
  | nil =>
    unfold parseSections at hparsed
    split at hparsed
    · cases hparsed
      exact .inl hunit
    · cases hparsed
    · cases hparsed
  | cons turn rest ih =>
    obtain ⟨part, kit⟩ := turn
    have hrest {found : List ParsedUnit} {failure : Option (Code × String)}
        (hparsed : parseSections budget found failure rest = .parsed units) :
        unit ∈ found ∨ ∃ other ∈ ⟨part, kit⟩ :: rest, unit.IsReadFrom other.part := by
      rcases ih hparsed with hfound | ⟨other, hother, hread⟩
      · exact .inl hfound
      · exact .inr ⟨other, List.mem_cons_of_mem _ hother, hread⟩
    rw [parseSections] at hparsed
    cases hprofiles : Profile.ofScriptLanguage? part.language with
    | none =>
      simp only [hprofiles] at hparsed
      exact hrest hparsed
    | some profiles =>
      simp only [hprofiles] at hparsed
      split at hparsed
      · rename_i more hmore
        rcases hrest hparsed with hunit | hunit
        · rcases List.mem_append.mp hunit with hfound | hnew
          · exact .inl hfound
          · have hread := isReadBy_of_mem_parseWith hmore hnew
            exact .inr ⟨⟨part, kit⟩, List.mem_cons_self, profiles, hprofiles, hread⟩
        · exact .inr hunit
      · cases hparsed
      · exact hrest hparsed

theorem part_mem_sections {parser : Parser} {turn : Turn} (hturn : turn ∈ parser.turns code) :
    turn.part ∈ Script.sections code := by
  obtain ⟨index, hindex, rfl⟩ := List.mem_mapIdx.mp hturn
  exact List.getElem_mem hindex

/-- Where the units of a parsed text are read from. -/
theorem parsed_cases {parser : Parser} {extension : String}
    (hparsed : parser.parse code extension budget = .parsed units)
    (hunit : unit ∈ units) :
    isComponentExtension (plainExtension extension) = false ∧
        unit.IsReadBy (Profile.ofExtension (plainExtension extension)) code 0 ∨
      isComponentExtension (plainExtension extension) = true ∧
        ∃ part ∈ Script.sections code, unit.IsReadFrom part := by
  unfold parse at hparsed
  dsimp only at hparsed
  split at hparsed
  · cases hparsed
  · split at hparsed
    · rename_i hcomponent
      unfold parseComponent at hparsed
      split at hparsed
      · cases hparsed
      · split at hparsed
        · cases hparsed
        · rcases isReadFrom_of_mem_parseSections hparsed hunit with hnone | ⟨turn, hturn, hread⟩
          · cases hnone
          · exact .inr ⟨hcomponent, turn.part, part_mem_sections hturn, hread⟩
    · rename_i hcomponent
      rw [Bool.not_eq_true] at hcomponent
      split at hparsed
      · cases hparsed
      · exact .inl ⟨hcomponent, isReadBy_of_mem_parseWith hparsed hunit⟩

end Parser

/-! ## Rows of units -/

namespace ParsedUnit

open LooseText (feed)

/-- The source has the rows of the text, without some indentation if the profile takes it off. -/
structure KeepsRows (unit : ParsedUnit) (code : LooseText) : Prop where
  lineOffset : unit.lineOffset = 0
  length : (rows unit.source).length = code.rows.length
  aligned : ∀ index row, (rows unit.source)[index]? = some row → ∃ indent kept : LooseText,
    code.rows[unit.lineOffset + index]? = some (indent ++ kept) ∧ kept.written = row ∧
      ∀ point ∈ indent, unit.profile.dedents = true ∧ point.isIndent = true

/-- The source has the rows of a stretch of the text that is the content of a script section. -/
structure KeepsSectionRows (unit : ParsedUnit) (code before body after : LooseText) : Prop where
  stretch : code = before ++ body ++ after
  part : ∃ part ∈ Script.sections code.written,
    part.StandsBetween before.chars body.chars after.chars
  source : unit.source = body.written
  lineOffset : unit.lineOffset = before.count feed
  aligned : ∀ index row, (rows unit.source)[index]? = some row → ∃ kept : LooseText,
    code.rows[unit.lineOffset + index]? =
        some (leadOf feed before index ++ kept ++
          trailOf feed after (rows unit.source).length index) ∧
      kept.written = row

theorem IsReadBy.keepsRows {unit : ParsedUnit} {profiles : List Profile} {code : LooseText}
    (hread : unit.IsReadBy profiles code.written 0) :
    unit.KeepsRows code := by
  have hsource := hread.source
  have hoffset := hread.lineOffset
  unfold Profile.sourceFor at hsource
  by_cases hdedents : unit.profile.dedents = true
  · rw [if_pos hdedents] at hsource
    refine ⟨hoffset, ?_, ?_⟩
    · rw [hsource, length_rows_dedent, LooseText.length_rows_written]
    · intro index row hrow
      rw [hsource] at hrow
      obtain ⟨indent, hindent, hblank⟩ := exists_row_of_dedent hrow
      obtain ⟨line, hline, hwritten⟩ := LooseText.exists_row_of_written hindent
      obtain ⟨front, kept, rfl, hfront, hkept⟩ := LooseText.exists_append_of_written hwritten
      refine ⟨front, kept, ?_, hkept, fun point hpoint => ⟨hdedents, ?_⟩⟩
      · rw [hoffset, Nat.zero_add, hline]
      · rw [← CodePoint.isIndentChar_written]
        apply hblank
        rw [← hfront, LooseText.toList_written]
        exact List.mem_map_of_mem hpoint
  · rw [if_neg hdedents] at hsource
    refine ⟨hoffset, by rw [hsource, LooseText.length_rows_written], ?_⟩
    intro index row hrow
    rw [hsource] at hrow
    obtain ⟨line, hline, hwritten⟩ := LooseText.exists_row_of_written hrow
    refine ⟨[], line, ?_, hwritten, by simp⟩
    rw [hoffset, Nat.zero_add, hline, List.nil_append]

theorem dedents_eq_false_of_mem_ofScriptLanguage? {language : String} {profiles : List Profile}
    {profile : Profile}
    (hprofiles : Profile.ofScriptLanguage? language = some profiles)
    (hprofile : profile ∈ profiles) :
    profile.dedents = false := by
  have hall : ∀ kept ∈ Profile.ofScriptLanguage? language, kept.all (!·.dedents) = true := by
    unfold Profile.ofScriptLanguage?
    split <;> simp [Profile.javascript, Profile.lenientTsx, Profile.typescript, Profile.tsx,
      Profile.lenientTypescript]
  have hkept := List.all_eq_true.mp (hall profiles hprofiles) profile hprofile
  simpa using hkept

/-- A section of what is written for a text has its content in a stretch of the text. -/
theorem exists_stretch_of_mem_sections {code : LooseText} {part : Script.Section}
    (hpart : part ∈ Script.sections code.written) :
    ∃ before body after : LooseText, code = before ++ body ++ after ∧
      part.StandsBetween before.chars body.chars after.chars := by
  obtain ⟨front, inner, behind, hcode, hstands⟩ :=
    Script.exists_standsBetween_of_mem_sections hpart
  rw [LooseText.toList_written, LooseText.chars] at hcode
  obtain ⟨opening, after, rfl, hopening, rfl⟩ := List.map_eq_append_iff.mp hcode
  obtain ⟨before, body, rfl, rfl, rfl⟩ := List.map_eq_append_iff.mp hopening
  exact ⟨before, body, after, rfl, hstands⟩

theorem exists_keepsSectionRows {unit : ParsedUnit} {code : LooseText} {part : Script.Section}
    (hpart : part ∈ Script.sections code.written)
    (hread : unit.IsReadFrom part) :
    ∃ before body after, unit.KeepsSectionRows code before body after := by
  obtain ⟨profiles, hprofiles, hread⟩ := hread
  obtain ⟨before, body, after, hcode, hstands⟩ := exists_stretch_of_mem_sections hpart
  have hdedents : unit.profile.dedents = false :=
    dedents_eq_false_of_mem_ofScriptLanguage? hprofiles hread.profile
  have hsource : unit.source = body.written := by
    rw [hread.source, Profile.sourceFor, hdedents, hstands.content]
    rfl
  have hoffset : unit.lineOffset = before.count feed := by
    rw [hread.lineOffset, hstands.startLine, Nat.add_sub_cancel, lineFeeds,
      LooseText.count_chars]
  refine ⟨before, body, after, hcode, ⟨part, hpart, hstands⟩, hsource, hoffset, ?_⟩
  intro index row hrow
  rw [hsource] at hrow
  obtain ⟨kept, hkept, hwritten⟩ := LooseText.exists_row_of_written hrow
  refine ⟨kept, ?_, hwritten⟩
  rw [hcode, hoffset, hsource, LooseText.length_rows_written]
  exact getElem?_splitOn_of_stretch hkept

end ParsedUnit

namespace SharedTagRow

def text : LooseText :=
  LooseText.ofString "<script\nsetup>let a\nlet b</script><script lang=\"ts\">" ++
    LooseText.ofString "function f() \x7b//" ++
    .surrogate 0 :: LooseText.ofString "\n\x7d</script>"

def root : Node :=
  .node ⟨"program", none, true, 0, 1, 0, 19⟩
    [.node ⟨"function_declaration", none, true, 0, 1, 0, 19⟩
      [.node ⟨"identifier", some "name", true, 0, 0, 9, 10⟩ []]]

/-- Every grammar gives the tree of the second section. -/
def parser : Parser :=
  { kit := ⟨fun _ => some fun _ => .tree root⟩, readsSections := true }

def second : ParsedUnit :=
  ⟨root, "function f() \x7b//?\n\x7d", .typescript, 2⟩

end SharedTagRow

end ReviewContext
