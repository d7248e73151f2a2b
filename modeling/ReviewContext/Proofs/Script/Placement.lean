import ReviewContext.Proofs.Text.Spelling
import ReviewContext.Script.Section

/-!
# Where script sections stand

The content of a section is a stretch of the text between an opening tag and a closing tag. Its
start line counts the line feeds in front of it, also those inside the opening tag.
-/

namespace ReviewContext.Script

open ReviewContext.Text

theorem lineFeeds_append (first second : List Char) :
    lineFeeds (first ++ second) = lineFeeds first + lineFeeds second :=
  List.count_append

/-! ## Tags -/

theorem notMem_of_spells_tagName {c : Char} {letters : List Char}
    (hspells : Spells letters tagName)
    (hc : (tagName.all fun letter => !matchesLetter letter c) = true) :
    c ∉ letters := by
  apply hspells.notMem
  intro letter hletter
  simpa using List.all_eq_true.mp hc letter hletter

/-- All line feeds of an opening tag stand in its attributes. -/
theorem exists_tag_of_openTag? {chars attributes inner : List Char}
    (hopen : openTag? chars = some (attributes, inner)) :
    ∃ tag, chars = tag ++ inner ∧ lineFeeds tag = lineFeeds attributes := by
  unfold openTag? at hopen
  split at hopen
  · rename_i tail
    split at hopen
    · rename_i rest hrest
      obtain ⟨letters, hspells, rfl⟩ := dropWord?_eq_some_iff.mp hrest
      have hletters : '\n' ∉ letters := notMem_of_spells_tagName hspells (by decide)
      split at hopen
      · cases hopen
      · split at hopen
        · rename_i c body hbody
          simp only [Option.some.injEq, Prod.mk.injEq] at hopen
          obtain ⟨rfl, rfl⟩ := hopen
          have hsplit := List.takeWhile_append_dropWhile (p := fun c => c != '>') (l := rest)
          have hc : c = '>' := by
            have hnot := List.head?_dropWhile_not (fun c => c != '>') rest
            simpa [hbody] using hnot
          rw [hbody, hc] at hsplit
          refine ⟨'<' :: letters ++ rest.takeWhile (fun c => c != '>') ++ ['>'], ?_, ?_⟩
          · simpa using hsplit.symm
          · simp [lineFeeds, List.count_eq_zero_of_not_mem hletters]
        · cases hopen
    · cases hopen
  · cases hopen

theorem isSuffix_of_closeTag? {chars after : List Char}
    (hclose : closeTag? chars = some after) :
    after <:+ chars := by
  unfold closeTag? at hclose
  split at hclose
  · rename_i tail
    split at hclose
    · rename_i rest hrest
      obtain ⟨letters, -, rfl⟩ := dropWord?_eq_some_iff.mp hrest
      split at hclose
      · rename_i behind hbehind
        simp only [Option.some.injEq] at hclose
        subst hclose
        have hblanks := List.dropWhile_suffix (l := rest) isBlankChar
        rw [hbehind] at hblanks
        have hletters := (List.suffix_cons _ _).trans (hblanks.trans (List.suffix_append letters _))
        exact hletters.trans ((List.suffix_cons _ _).trans (List.suffix_cons _ _))
      · cases hclose
    · cases hclose
  · cases hclose

theorem exists_closing_of_splitBody? {chars body after : List Char}
    (hsplit : splitBody? chars = some (body, after)) :
    ∃ closing, chars = body ++ closing ∧ closeTag? closing = some after := by
  induction chars generalizing body with
  | nil => cases hsplit
  | cons c rest ih =>
    simp only [splitBody?] at hsplit
    split at hsplit
    · rename_i found hfound
      simp only [Option.some.injEq, Prod.mk.injEq] at hsplit
      obtain ⟨rfl, rfl⟩ := hsplit
      exact ⟨c :: rest, rfl, hfound⟩
    · simp only [Option.map_eq_some_iff, Prod.mk.injEq, Prod.exists] at hsplit
      obtain ⟨inner, found, hfound, rfl, rfl⟩ := hsplit
      obtain ⟨closing, rfl, hclosing⟩ := ih hfound
      exact ⟨closing, rfl, hclosing⟩

/-! ## Sections -/

/-- The body follows an opening tag, and a closing tag follows the body. -/
structure Encloses (before body after : List Char) : Prop where
  opened : ∃ front tag attributes, before = front ++ tag ∧
    openTag? (tag ++ (body ++ after)) = some (attributes, body ++ after)
  closed : (closeTag? after).isSome = true

/-- The section holds the stretch between some characters in front of it and some behind it. -/
structure Section.StandsBetween (part : Section) (before body after : List Char) : Prop where
  content : part.content = String.ofList body
  startLine : part.startLine = lineFeeds before + 1
  encloses : Encloses before body after

theorem mem_sectionOf {line : Nat} {attributes body : List Char} {part : Section}
    (hpart : part ∈ sectionOf line attributes body) :
    part.content = String.ofList body ∧ part.startLine = line + lineFeeds attributes := by
  unfold sectionOf at hpart
  split at hpart
  · cases hpart
  · rw [List.mem_singleton] at hpart
    subst hpart
    exact ⟨rfl, rfl⟩

theorem exists_standsBetween_of_mem_sectionsFrom {front chars : List Char} {part : Section}
    (hpart : part ∈ sectionsFrom (lineFeeds front + 1) chars) :
    ∃ before body after,
      front ++ chars = before ++ body ++ after ∧ part.StandsBetween before body after := by
  generalize hline : lineFeeds front + 1 = line at hpart
  fun_induction sectionsFrom line chars generalizing front with
  | case1 => cases hpart
  | case2 line c rest attributes body after hsplit ih =>
    simp only [splitSection?, Option.bind_eq_some_iff, Option.map_eq_some_iff, Prod.exists,
      Prod.mk.injEq] at hsplit
    obtain ⟨attributes', inner, hopen, body', after', hbody, rfl, rfl, rfl⟩ := hsplit
    obtain ⟨tag, hchars, hfeeds⟩ := exists_tag_of_openTag? hopen
    obtain ⟨closing, rfl, hclosing⟩ := exists_closing_of_splitBody? hbody
    obtain ⟨closer, rfl⟩ := isSuffix_of_closeTag? hclosing
    rcases List.mem_append.mp hpart with hpart | hpart
    · obtain ⟨hcontent, hstart⟩ := mem_sectionOf hpart
      refine ⟨front ++ tag, body', closer ++ after', ?_, hcontent, ?_, ?_, ?_⟩
      · rw [hchars]
        simp
      · rw [hstart, ← hline, lineFeeds_append, hfeeds]
        omega
      · exact ⟨front, tag, attributes', rfl, by rw [← hchars, hopen]⟩
      · rw [hclosing, Option.isSome_some]
    · have hconsumed : c :: rest = tag ++ body' ++ closer ++ after' := by
        rw [hchars]
        simp
      have hnext : lineFeeds (front ++ (tag ++ body' ++ closer)) + 1 =
          line + (lineFeeds (c :: rest) - lineFeeds after') := by
        rw [hconsumed, lineFeeds_append, lineFeeds_append _ after', ← hline]
        omega
      obtain ⟨before, body, after, heq, hstands⟩ := ih hnext hpart
      refine ⟨before, body, after, ?_, hstands⟩
      rw [← heq, hconsumed]
      simp
  | case3 line c rest hnone ih =>
    have hnext : lineFeeds (front ++ [c]) + 1 = line + lineFeeds [c] := by
      rw [lineFeeds_append, ← hline]
      omega
    obtain ⟨before, body, after, heq, hstands⟩ := ih hnext hpart
    refine ⟨before, body, after, ?_, hstands⟩
    rw [← heq]
    simp

theorem exists_standsBetween_of_mem_sections {source : String} {part : Section}
    (hpart : part ∈ sections source) :
    ∃ before body after,
      source.toList = before ++ body ++ after ∧ part.StandsBetween before body after := by
  have hfrom : part ∈ sectionsFrom (lineFeeds [] + 1) source.toList := hpart
  exact exists_standsBetween_of_mem_sectionsFrom hfrom

end ReviewContext.Script
