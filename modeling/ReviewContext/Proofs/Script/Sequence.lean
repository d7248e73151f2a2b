import ReviewContext.Proofs.Script.Placement
import ReviewContext.Proofs.Text.RowBeginning

/-!
# Sections one after another

The search for a section skips a text that holds no opening tag, takes the tag behind it, and stops
at the first closing tag. It then goes on as if the text behind that tag stood alone, only further
down. No tag can begin in one piece and end in the next, because each begins with the one bracket
that no tag has inside.
-/

namespace ReviewContext.Script

open ReviewContext.Text

/-! ## Tags inside a text -/

/-- An opening tag begins somewhere in the characters. -/
def HoldsOpening (chars : List Char) : Prop :=
  ∃ letters, Spells letters tagName ∧ '<' :: letters <:+: chars

/-- A whole closing tag stands somewhere in the characters. -/
def HoldsClosing (chars : List Char) : Prop :=
  ∃ letters blanks, Spells letters tagName ∧ (∀ c ∈ blanks, isBlankChar c = true) ∧
    '<' :: '/' :: (letters ++ blanks ++ ['>']) <:+: chars

/-- Whether an opening tag begins at the head. -/
def beginsOpening : List Char → Bool
  | '<' :: rest => (dropWord? tagName rest).isSome
  | _ => false

theorem beginsOpening_iff {chars : List Char} :
    beginsOpening chars = true ↔ ∃ letters, Spells letters tagName ∧ '<' :: letters <+: chars := by
  constructor
  · intro hbegins
    unfold beginsOpening at hbegins
    split at hbegins
    · obtain ⟨rest, hrest⟩ := Option.isSome_iff_exists.mp hbegins
      obtain ⟨letters, hspells, rfl⟩ := dropWord?_eq_some_iff.mp hrest
      exact ⟨letters, hspells, rest, rfl⟩
    · cases hbegins
  · rintro ⟨letters, hspells, rest, rfl⟩
    rw [List.cons_append, beginsOpening, dropWord?_eq_some_iff.mpr ⟨letters, hspells, rfl⟩,
      Option.isSome_some]

theorem closeTag?_of_spells {letters blanks : List Char}
    (hspells : Spells letters tagName)
    (hblanks : ∀ c ∈ blanks, isBlankChar c = true)
    (after : List Char) :
    closeTag? ('<' :: '/' :: (letters ++ (blanks ++ '>' :: after))) = some after := by
  have hvisible : isBlankChar '>' = false := by
    decide
  have hdrop : (blanks ++ '>' :: after).dropWhile isBlankChar = '>' :: after := by
    rw [List.dropWhile_append_of_pos hblanks, List.dropWhile_cons_of_neg (by simp [hvisible])]
  simp only [closeTag?, dropWord?_eq_some_iff.mpr ⟨letters, hspells, rfl⟩, hdrop]

theorem isSome_closeTag?_iff {chars : List Char} :
    (closeTag? chars).isSome = true ↔
      ∃ letters blanks, Spells letters tagName ∧ (∀ c ∈ blanks, isBlankChar c = true) ∧
        '<' :: '/' :: (letters ++ blanks ++ ['>']) <+: chars := by
  constructor
  · intro hclose
    unfold closeTag? at hclose
    split at hclose
    · split at hclose
      · rename_i rest hrest
        obtain ⟨letters, hspells, rfl⟩ := dropWord?_eq_some_iff.mp hrest
        split at hclose
        · rename_i after hafter
          have hblanks := List.takeWhile_append_dropWhile (p := isBlankChar) (l := rest)
          rw [hafter] at hblanks
          refine ⟨letters, rest.takeWhile isBlankChar, hspells, ?_, after, ?_⟩
          · exact List.all_eq_true.mp List.all_takeWhile
          · conv_rhs => rw [← hblanks]
            simp
        · cases hclose
      · cases hclose
    · cases hclose
  · rintro ⟨letters, blanks, hspells, hblanks, after, rfl⟩
    have hclose := closeTag?_of_spells hspells hblanks after
    simp_all

theorem holdsOpening_iff {chars : List Char} :
    HoldsOpening chars ↔ ∃ tail ∈ chars.tails, beginsOpening tail = true := by
  simp only [HoldsOpening, List.infix_iff_prefix_suffix, List.mem_tails, beginsOpening_iff]
  constructor
  · rintro ⟨letters, hspells, tail, hprefix, hsuffix⟩
    exact ⟨tail, hsuffix, letters, hspells, hprefix⟩
  · rintro ⟨tail, hsuffix, letters, hspells, hprefix⟩
    exact ⟨letters, hspells, tail, hprefix, hsuffix⟩

theorem holdsClosing_iff {chars : List Char} :
    HoldsClosing chars ↔ ∃ tail ∈ chars.tails, (closeTag? tail).isSome = true := by
  simp only [HoldsClosing, List.infix_iff_prefix_suffix, List.mem_tails, isSome_closeTag?_iff]
  constructor
  · rintro ⟨letters, blanks, hspells, hblanks, tail, hprefix, hsuffix⟩
    exact ⟨tail, hsuffix, letters, blanks, hspells, hblanks, hprefix⟩
  · rintro ⟨tail, hsuffix, letters, blanks, hspells, hblanks, hprefix⟩
    exact ⟨letters, blanks, hspells, hblanks, tail, hprefix, hsuffix⟩

instance : DecidablePred HoldsOpening :=
  fun _ => decidable_of_iff _ holdsOpening_iff.symm

instance : DecidablePred HoldsClosing :=
  fun _ => decidable_of_iff _ holdsClosing_iff.symm

theorem beginsOpening_of_openTag? {chars : List Char} (hopen : (openTag? chars).isSome = true) :
    beginsOpening chars = true := by
  unfold openTag? at hopen
  split at hopen
  · split at hopen
    · rename_i rest hrest
      rw [beginsOpening, hrest, Option.isSome_some]
    · cases hopen
  · cases hopen

/-- No opening tag begins in a text without one, whatever follows its first bracket. -/
theorem openTag?_eq_none {c : Char} {front : List Char} (hfree : ¬ HoldsOpening (c :: front))
    (back : List Char) :
    openTag? (c :: (front ++ '<' :: back)) = none := by
  by_contra hopen
  obtain ⟨letters, hspells, hprefix⟩ :=
    beginsOpening_iff.mp (beginsOpening_of_openTag? (Option.isSome_iff_ne_none.mpr hopen))
  obtain ⟨rfl, hletters⟩ := List.cons_prefix_cons.mp hprefix
  rw [isPrefix_append_cons_iff (notMem_of_spells_tagName hspells (by decide))] at hletters
  exact hfree ⟨letters, hspells, (List.cons_prefix_cons.mpr ⟨rfl, hletters⟩).isInfix⟩

theorem closeTag?_eq_none {c : Char} {front : List Char} (hfree : ¬ HoldsClosing (c :: front))
    (back : List Char) :
    closeTag? (c :: (front ++ '<' :: back)) = none := by
  by_contra hclose
  obtain ⟨letters, blanks, hspells, hblanks, hprefix⟩ :=
    isSome_closeTag?_iff.mp (Option.isSome_iff_ne_none.mpr hclose)
  obtain ⟨rfl, hinside⟩ := List.cons_prefix_cons.mp hprefix
  have hletters : '<' ∉ letters := notMem_of_spells_tagName hspells (by decide)
  have hbracket : '<' ∉ blanks := by
    intro hmem
    have hblank := hblanks '<' hmem
    revert hblank
    decide
  rw [isPrefix_append_cons_iff (by simp [hletters, hbracket])] at hinside
  exact hfree
    ⟨letters, blanks, hspells, hblanks, (List.cons_prefix_cons.mpr ⟨rfl, hinside⟩).isInfix⟩

/-! ## The search -/

theorem sectionsFrom_of_some {line : Nat} {c : Char} {rest attributes body after : List Char}
    (hsplit : splitSection? (c :: rest) = some (attributes, body, after)) :
    sectionsFrom line (c :: rest) =
      sectionOf line attributes body ++
        sectionsFrom (line + (lineFeeds (c :: rest) - lineFeeds after)) after := by
  rw [sectionsFrom]
  split <;> simp_all

theorem sectionsFrom_of_none {line : Nat} {c : Char} {rest : List Char}
    (hsplit : splitSection? (c :: rest) = none) :
    sectionsFrom line (c :: rest) = sectionsFrom (line + lineFeeds [c]) rest := by
  rw [sectionsFrom]
  split <;> simp_all

theorem splitSection?_eq_none {c : Char} {front : List Char}
    (hfree : ¬ HoldsOpening (c :: front)) (back : List Char) :
    splitSection? (c :: (front ++ '<' :: back)) = none := by
  rw [splitSection?, openTag?_eq_none hfree, Option.bind_none]

/-- The search passes over a text without an opening tag. -/
theorem sectionsFrom_append {front : List Char} (hfree : ¬ HoldsOpening front)
    (line : Nat) (back : List Char) :
    sectionsFrom line (front ++ '<' :: back) =
      sectionsFrom (line + lineFeeds front) ('<' :: back) := by
  induction front generalizing line with
  | nil => rfl
  | cons c front ih =>
    have hrest : ¬ HoldsOpening front := by
      rintro ⟨letters, hspells, hwithin⟩
      exact hfree ⟨letters, hspells, List.infix_cons hwithin⟩
    have hfeeds : lineFeeds (c :: front) = lineFeeds [c] + lineFeeds front :=
      lineFeeds_append [c] front
    rw [List.cons_append, sectionsFrom_of_none (splitSection?_eq_none hfree back), ih hrest, hfeeds,
      Nat.add_assoc]

/-- A body goes on up to the first closing tag. -/
theorem splitBody?_append {body back after : List Char}
    (hfree : ¬ HoldsClosing body)
    (hclose : closeTag? ('<' :: back) = some after) :
    splitBody? (body ++ '<' :: back) = some (body, after) := by
  induction body with
  | nil => simp only [List.nil_append, splitBody?, hclose]
  | cons c body ih =>
    have hrest : ¬ HoldsClosing body := by
      rintro ⟨letters, blanks, hspells, hblanks, hwithin⟩
      exact hfree ⟨letters, blanks, hspells, hblanks, List.infix_cons hwithin⟩
    simp only [List.cons_append, splitBody?, closeTag?_eq_none hfree back, ih hrest, Option.map_some]

theorem openTag?_tag {attributes : List Char} (inner : List Char)
    (hattributes : '>' ∉ attributes)
    (hedge : ∀ c, attributes.head? = some c → isWordChar c = false) :
    openTag? ('<' :: (tagName ++ (attributes ++ '>' :: inner))) = some (attributes, inner) := by
  have hkept : ∀ c ∈ attributes, (c != '>') = true := by
    intro c hc
    rw [bne_iff_ne]
    rintro rfl
    exact hattributes hc
  have hword : (attributes ++ '>' :: inner).head?.any isWordChar = false := by
    cases attributes with
    | nil =>
      have hclosing : isWordChar '>' = false := by
        decide +kernel
      simpa using hclosing
    | cons c rest => simpa using hedge c rfl
  have htake : (attributes ++ '>' :: inner).takeWhile (fun c => c != '>') = attributes := by
    rw [List.takeWhile_append_of_pos hkept]
    simp
  have hdrop : (attributes ++ '>' :: inner).dropWhile (fun c => c != '>') = '>' :: inner := by
    rw [List.dropWhile_append_of_pos hkept]
    simp
  simp only [openTag?, dropWord?_append, hword, htake, hdrop, Bool.false_eq_true, if_false]

/-- The section as it is in a text with more lines in front. -/
def Section.movedDown (part : Section) (lines : Nat) : Section :=
  { part with startLine := part.startLine + lines }

theorem sectionOf_add (line lines : Nat) (attributes body : List Char) :
    sectionOf (line + lines) attributes body =
      (sectionOf line attributes body).map fun part => part.movedDown lines := by
  unfold sectionOf
  split
  · rfl
  · simp [Section.movedDown, Nat.add_right_comm]

theorem sectionsFrom_add (line lines : Nat) (chars : List Char) :
    sectionsFrom (line + lines) chars =
      (sectionsFrom line chars).map fun part => part.movedDown lines := by
  fun_induction sectionsFrom line chars with
  | case1 => simp [sectionsFrom]
  | case2 line c rest attributes body after hsplit ih =>
    rw [sectionsFrom_of_some hsplit, sectionOf_add, List.map_append, ← ih, Nat.add_right_comm]
  | case3 line c rest hsplit ih =>
    rw [sectionsFrom_of_none hsplit, ← ih, Nat.add_right_comm]

theorem splitSection?_tag {attributes body : List Char} (back : List Char)
    (hattributes : '>' ∉ attributes)
    (hedge : ∀ c, attributes.head? = some c → isWordChar c = false)
    (hbody : ¬ HoldsClosing body) :
    splitSection? ('<' :: (tagName ++ (attributes ++ '>' ::
      (body ++ '<' :: '/' :: (tagName ++ '>' :: back))))) = some (attributes, body, back) := by
  have hnone : ∀ c ∈ ([] : List Char), isBlankChar c = true := by
    simp
  have hclose : closeTag? ('<' :: '/' :: (tagName ++ '>' :: back)) = some back :=
    closeTag?_of_spells (spells_self tagName) hnone back
  simp only [splitSection?, openTag?_tag _ hattributes hedge, Option.bind_some,
    splitBody?_append hbody hclose, Option.map_some]

/-- The sections of a text with a section in it are that section, unless it is blank, and the
sections of the text behind it, further down. -/
theorem sections_append {front attributes body : String} (back : String)
    (hfront : ¬ HoldsOpening front.toList)
    (hattributes : '>' ∉ attributes.toList)
    (hedge : ∀ c, attributes.toList.head? = some c → isWordChar c = false)
    (hbody : ¬ HoldsClosing body.toList) :
    sections (front ++ "<script" ++ attributes ++ ">" ++ body ++ "</script>" ++ back) =
      (if isBlank body then []
        else
          [{  content := body
              startLine := 1 + lineFeeds (front ++ "<script" ++ attributes ++ ">").toList
              language :=
                String.ofList (((findLanguage? none attributes.toList).map lowerChars).getD [])
              isSetup := hasSetup none attributes.toList }]) ++
        (sections back).map fun part =>
          part.movedDown
            (lineFeeds
              (front ++ "<script" ++ attributes ++ ">" ++ body ++ "</script>").toList) := by
  have hopening : "<script".toList = '<' :: tagName := by
    decide
  have hclosing : "</script>".toList = '<' :: '/' :: (tagName ++ ['>']) := by
    decide
  have hchars :
      (front ++ "<script" ++ attributes ++ ">" ++ body ++ "</script>" ++ back).toList =
        front.toList ++ '<' :: (tagName ++ (attributes.toList ++ '>' ::
          (body.toList ++ '<' :: '/' :: (tagName ++ '>' :: back.toList)))) := by
    simp [hopening, hclosing]
  have hbefore :
      lineFeeds (front ++ "<script" ++ attributes ++ ">").toList =
        lineFeeds front.toList + lineFeeds attributes.toList := by
    simp [hopening, lineFeeds, tagName]
  have hconsumed :
      lineFeeds (front ++ "<script" ++ attributes ++ ">" ++ body ++ "</script>").toList =
        lineFeeds front.toList + lineFeeds attributes.toList + lineFeeds body.toList := by
    simp [hopening, hclosing, lineFeeds, tagName, Nat.add_assoc]
  have hinner :
      lineFeeds ('<' :: (tagName ++ (attributes.toList ++ '>' ::
          (body.toList ++ '<' :: '/' :: (tagName ++ '>' :: back.toList))))) =
        lineFeeds attributes.toList + lineFeeds body.toList + lineFeeds back.toList := by
    simp [lineFeeds, tagName, Nat.add_assoc]
  have hline :
      1 + lineFeeds front.toList +
          (lineFeeds attributes.toList + lineFeeds body.toList + lineFeeds back.toList -
            lineFeeds back.toList) =
        1 + (lineFeeds front.toList + lineFeeds attributes.toList + lineFeeds body.toList) := by
    omega
  rw [sections, hchars, sectionsFrom_append hfront,
    sectionsFrom_of_some (splitSection?_tag back.toList hattributes hedge hbody), hbefore, hconsumed,
    hinner, hline, sectionsFrom_add, sections, sectionOf, isBlank, String.ofList_toList,
    Nat.add_assoc]

/-! Pieces that end or hold what looks like a tag. -/

namespace BrokenTags

def front : String :=
  "<template>\n  <scr"

def attributes : String :=
  "\n lang = 'TS' setup"

def body : String :=
  "\nlet a = \"</script x>\"\n</ſcript"

def back : String :=
  "\n<SCRIPT>b</script\n>"

end BrokenTags

theorem brokenTags_sections :
    sections (BrokenTags.front ++ "<script" ++ BrokenTags.attributes ++ ">" ++ BrokenTags.body ++
        "</script>" ++ BrokenTags.back) =
      [⟨BrokenTags.body, 3, "ts", true⟩, ⟨"b", 6, "", false⟩] := by
  have hedge : ∀ c, BrokenTags.attributes.toList.head? = some c → isWordChar c = false := by
    intro c hc
    have hfeed : BrokenTags.attributes.toList.head? = some '\n' := by
      decide
    obtain rfl : '\n' = c := Option.some.inj (hfeed.symm.trans hc)
    decide +kernel
  rw [sections_append BrokenTags.back (by decide +kernel) (by decide) hedge (by decide +kernel)]
  decide +kernel

end ReviewContext.Script
