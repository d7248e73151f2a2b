import ReviewContext.Proofs.Span.Collected

/-!
# What the selection selects

A span is smallest around a line when it comes first, by size, among the spans that cover the line.
The spans that are smallest around some line can still contain each other, and the selection takes
those of them that none of the others contains. So every covered line stays covered. The fold over
the sorted spans keeps exactly this picture of the spans seen so far; spans that are refused change
nothing in it, because a span inside of an accepted one has no line of its own.
-/

namespace ReviewContext

namespace Span

/-! ## Orders of spans -/

theorem sizeOrder_trans (a b c : Span)
    (hab : a.sizeOrder b = true)
    (hbc : b.sizeOrder c = true) :
    a.sizeOrder c = true := by
  simp only [sizeOrder, Bool.or_eq_true, Bool.and_eq_true, decide_eq_true_eq, beq_iff_eq] at *
  omega

theorem sizeOrder_total (a b : Span) : (a.sizeOrder b || b.sizeOrder a) = true := by
  simp only [sizeOrder, Bool.or_eq_true, Bool.and_eq_true, decide_eq_true_eq, beq_iff_eq]
  omega

theorem sizeOrder_self (span : Span) : span.sizeOrder span = true := by
  simpa using sizeOrder_total span span

theorem order_eq_of_sizeOrder {a b : Span}
    (hab : a.sizeOrder b = true)
    (hba : b.sizeOrder a = true) :
    a.order = b.order := by
  simp only [sizeOrder, Bool.or_eq_true, Bool.and_eq_true, decide_eq_true_eq, beq_iff_eq] at *
  omega

theorem contains_iff {a b : Span} :
    a.contains b = true ↔ a.first ≤ b.first ∧ b.last ≤ a.last := by
  simp [contains]

theorem contains_self (span : Span) : span.contains span = true := by
  simp [contains]

theorem contains_trans {a b c : Span}
    (hab : a.contains b = true)
    (hbc : b.contains c = true) :
    a.contains c = true := by
  rw [contains_iff] at *
  omega

theorem IsCutFrom.mem_covered_of_contains {a b : Span} {changed : LineSet} {line : Int}
    (ha : a.IsCutFrom changed)
    (hb : b.IsCutFrom changed)
    (hcontains : a.contains b = true)
    (hline : line ∈ b.covered) :
    line ∈ a.covered := by
  obtain ⟨hchanged, hfirst, hlast⟩ := hb.mem_covered.mp hline
  rw [contains_iff] at hcontains
  exact ha.mem_covered.mpr ⟨hchanged, by omega, by omega⟩

/-- Comes strictly earlier by size. -/
def Precedes (a b : Span) : Prop :=
  a.sizeOrder b = true ∧ b.sizeOrder a = false

/-! ## Smallest spans -/

/-- A span that comes first, by size, among those that cover a line. -/
structure IsSmallestAround (spans : List Span) (line : Int) (span : Span) : Prop where
  mem : span ∈ spans
  covers : line ∈ span.covered
  least : ∀ other ∈ spans, line ∈ other.covered → span.sizeOrder other = true

def IsSmallest (spans : List Span) (span : Span) : Prop :=
  ∃ line, IsSmallestAround spans line span

theorem IsSmallest.mem {spans : List Span} {span : Span}
    (hsmallest : IsSmallest spans span) :
    span ∈ spans := by
  obtain ⟨line, haround⟩ := hsmallest
  exact haround.mem

theorem exists_smallestAround {spans : List Span} {span : Span} {line : Int}
    (hspan : span ∈ spans)
    (hline : line ∈ span.covered) :
    ∃ smallest, IsSmallestAround spans line smallest := by
  let covering := (spans.filter fun other => other.covered.contains line).mergeSort sizeOrder
  have hmem (other : Span) : other ∈ covering ↔ other ∈ spans ∧ line ∈ other.covered := by
    simp only [covering, List.mem_mergeSort, List.mem_filter, LineSet.contains_iff]
  have hsorted : covering.Pairwise fun a b => a.sizeOrder b = true :=
    List.pairwise_mergeSort sizeOrder_trans sizeOrder_total _
  cases hcovering : covering with
  | nil =>
    have hnone := (hmem span).mpr ⟨hspan, hline⟩
    simp [hcovering] at hnone
  | cons smallest rest =>
    rw [hcovering] at hmem hsorted
    obtain ⟨hin, hcovers⟩ := (hmem smallest).mp List.mem_cons_self
    refine ⟨smallest, hin, hcovers, ?_⟩
    intro other hother hcoversOther
    rcases List.mem_cons.mp ((hmem other).mpr ⟨hother, hcoversOther⟩) with rfl | hrest
    · exact sizeOrder_self other
    · exact (List.pairwise_cons.mp hsorted).1 other hrest

/-- A span behind all others is smallest around the lines that are only its own. -/
theorem isSmallest_concat {seen : List Span} {last span : Span}
    (hlast : ∀ other ∈ seen, other.Precedes last) :
    IsSmallest (seen ++ [last]) span ↔
      IsSmallest seen span ∨
        span = last ∧ ∃ line ∈ last.covered, ∀ other ∈ seen, line ∉ other.covered := by
  constructor
  · rintro ⟨line, hmem, hcovers, hleast⟩
    rcases List.mem_append.mp hmem with hseen | hnew
    · refine .inl ⟨line, hseen, hcovers, ?_⟩
      intro other hother hline
      exact hleast other (List.mem_append_left _ hother) hline
    · have heq := List.mem_singleton.mp hnew
      subst heq
      refine .inr ⟨rfl, line, hcovers, ?_⟩
      intro other hother hline
      have hle := hleast other (List.mem_append_left _ hother) hline
      rw [(hlast other hother).2] at hle
      cases hle
  · rintro (⟨line, hmem, hcovers, hleast⟩ | ⟨rfl, line, hcovers, hown⟩)
    · refine ⟨line, List.mem_append_left _ hmem, hcovers, ?_⟩
      intro other hother hline
      rcases List.mem_append.mp hother with hseen | hnew
      · exact hleast other hseen hline
      · rw [List.mem_singleton.mp hnew]
        exact (hlast span hmem).1
    · refine ⟨line, List.mem_append_right _ (List.mem_singleton.mpr rfl), hcovers, ?_⟩
      intro other hother hline
      rcases List.mem_append.mp hother with hseen | hnew
      · exact absurd hline (hown other hseen)
      · rw [List.mem_singleton.mp hnew]
        exact sizeOrder_self span

/-- The spans that no other of some smallest spans contains. -/
structure IsSelectedFrom (spans : List Span) (span : Span) : Prop where
  smallest : IsSmallest spans span
  maximal : ∀ other, IsSmallest spans other → other.contains span = true → other = span

theorem isSelectedFrom_congr {first second : List Span}
    (hsmallest : ∀ span, IsSmallest first span ↔ IsSmallest second span) (span : Span) :
    IsSelectedFrom first span ↔ IsSelectedFrom second span := by
  constructor
  · rintro ⟨hsmall, hmaximal⟩
    exact ⟨(hsmallest span).mp hsmall, fun other h => hmaximal other ((hsmallest other).mpr h)⟩
  · rintro ⟨hsmall, hmaximal⟩
    exact ⟨(hsmallest span).mpr hsmall, fun other h => hmaximal other ((hsmallest other).mp h)⟩

/-- A new smallest span that no earlier one contains replaces those that it contains. -/
theorem isSelectedFrom_concat {seen : List Span} {last span : Span}
    (hsmallest : ∀ other, IsSmallest (seen ++ [last]) other ↔ IsSmallest seen other ∨ other = last)
    (hnotInside : ∀ other ∈ seen, other.contains last = false) :
    IsSelectedFrom (seen ++ [last]) span ↔
      IsSelectedFrom seen span ∧ last.contains span = false ∨ span = last := by
  have hlast : IsSmallest (seen ++ [last]) last := (hsmallest last).mpr (.inr rfl)
  constructor
  · rintro ⟨hsmall, hmaximal⟩
    by_cases heq : span = last
    · exact .inr heq
    · left
      have hold : IsSmallest seen span := ((hsmallest span).mp hsmall).resolve_right heq
      refine ⟨⟨hold, fun other h => hmaximal other ((hsmallest other).mpr (.inl h))⟩, ?_⟩
      by_contra hinside
      rw [Bool.not_eq_false] at hinside
      exact heq (hmaximal last hlast hinside).symm
  · rintro (⟨⟨hsmall, hmaximal⟩, hkept⟩ | rfl)
    · refine ⟨(hsmallest span).mpr (.inl hsmall), ?_⟩
      intro other hother hcontains
      rcases (hsmallest other).mp hother with hold | rfl
      · exact hmaximal other hold hcontains
      · rw [hkept] at hcontains
        cases hcontains
    · refine ⟨hlast, ?_⟩
      intro other hother hcontains
      rcases (hsmallest other).mp hother with hold | heq
      · rw [hnotInside other hold.mem] at hcontains
        cases hcontains
      · exact heq

/-! ## The fold -/

/-- What a selection knows of the spans seen so far. -/
structure Selection.Describes (selection : Selection) (seen : List Span) : Prop where
  covered_iff : ∀ line, line ∈ selection.covered ↔ ∃ span ∈ seen, line ∈ span.covered
  accepted_iff : ∀ span, span ∈ selection.accepted ↔ IsSelectedFrom seen span
  enclosed : ∀ span, IsSmallest seen span →
    ∃ other ∈ selection.accepted, other.contains span = true
  sublist : selection.accepted.Sublist seen

theorem exists_mem_concat {seen : List Span} {last : Span} {line : Int} :
    (∃ span ∈ seen ++ [last], line ∈ span.covered) ↔
      line ∈ last.covered ∨ ∃ span ∈ seen, line ∈ span.covered := by
  simp only [List.mem_append, List.mem_singleton, or_and_right, exists_or, exists_eq_left]
  exact or_comm

namespace Selection

theorem describes_nil : Describes ⟨[], []⟩ [] := by
  have hnone (span : Span) : ¬ IsSmallest [] span := by
    intro hsmallest
    simpa using hsmallest.mem
  constructor
  · simp
  · intro span
    constructor
    · intro hspan
      cases hspan
    · intro hselected
      exact absurd hselected.smallest (hnone span)
  · intro span hspan
    exact absurd hspan (hnone span)
  · exact List.Sublist.refl _

theorem isCoveredBy_iff {lines : LineSet} {numbers : List Int} :
    lines.isCoveredBy numbers = true ↔ ∀ line ∈ lines, line ∈ numbers := by
  simp [LineSet.isCoveredBy, LineSet.mem_iff]

variable {selection : Selection} {seen : List Span} {changed : LineSet} {span : Span}

/-- If an accepted span contains a new one, it covers all lines of the new one. -/
theorem Describes.refuses_iff
    (hdescribes : selection.Describes seen)
    (hseen : ∀ other ∈ seen, other.IsCutFrom changed)
    (hspan : span.IsCutFrom changed) :
    selection.refuses span = true ↔ ∀ line ∈ span.covered, line ∈ selection.covered := by
  simp only [refuses, Bool.or_eq_true, List.any_eq_true, isCoveredBy_iff]
  constructor
  · rintro (hcovered | ⟨other, hother, hcontains⟩)
    · exact hcovered
    · intro line hline
      have hmem := hdescribes.sublist.subset hother
      exact (hdescribes.covered_iff line).mpr
        ⟨other, hmem, (hseen other hmem).mem_covered_of_contains hspan hcontains hline⟩
  · exact .inl

theorem Describes.refuse
    (hdescribes : selection.Describes seen)
    (hprecedes : ∀ other ∈ seen, other.Precedes span)
    (hcovered : ∀ line ∈ span.covered, line ∈ selection.covered) :
    selection.Describes (seen ++ [span]) := by
  have hsmallest (other : Span) : IsSmallest (seen ++ [span]) other ↔ IsSmallest seen other := by
    rw [isSmallest_concat hprecedes]
    constructor
    · rintro (hold | ⟨-, line, hline, hown⟩)
      · exact hold
      · obtain ⟨covering, hmem, hcovers⟩ :=
          (hdescribes.covered_iff line).mp (hcovered line hline)
        exact absurd hcovers (hown covering hmem)
    · exact .inl
  constructor
  · intro line
    rw [exists_mem_concat, ← hdescribes.covered_iff]
    constructor
    · exact .inr
    · rintro (hline | hline)
      · exact hcovered line hline
      · exact hline
  · intro other
    rw [hdescribes.accepted_iff, isSelectedFrom_congr hsmallest]
  · intro other hother
    exact hdescribes.enclosed other ((hsmallest other).mp hother)
  · exact hdescribes.sublist.trans (List.sublist_append_left seen [span])

theorem Describes.accept
    (hdescribes : selection.Describes seen)
    (hseen : ∀ other ∈ seen, other.IsCutFrom changed)
    (hspan : span.IsCutFrom changed)
    (hprecedes : ∀ other ∈ seen, other.Precedes span)
    (hown : ∃ line ∈ span.covered, line ∉ selection.covered) :
    Describes
      ⟨(selection.accepted.filter fun other => !span.contains other) ++ [span],
        span.covered.toList ++ selection.covered⟩
      (seen ++ [span]) := by
  obtain ⟨own, hownCovers, hownFree⟩ := hown
  have hfree : ∀ other ∈ seen, own ∉ other.covered := by
    intro other hother hline
    exact hownFree ((hdescribes.covered_iff own).mpr ⟨other, hother, hline⟩)
  have hsmallest (other : Span) :
      IsSmallest (seen ++ [span]) other ↔ IsSmallest seen other ∨ other = span := by
    rw [isSmallest_concat hprecedes]
    constructor
    · rintro (hold | ⟨heq, -⟩)
      · exact .inl hold
      · exact .inr heq
    · rintro (hold | heq)
      · exact .inl hold
      · exact .inr ⟨heq, own, hownCovers, hfree⟩
  -- A span seen before cannot contain the new one, which has a line of its own.
  have hnotInside : ∀ other ∈ seen, other.contains span = false := by
    intro other hother
    by_contra hcontains
    rw [Bool.not_eq_false] at hcontains
    exact hfree other hother
      ((hseen other hother).mem_covered_of_contains hspan hcontains hownCovers)
  constructor
  · intro line
    rw [exists_mem_concat, List.mem_append, hdescribes.covered_iff]
    rfl
  · intro other
    rw [isSelectedFrom_concat hsmallest hnotInside]
    simp [hdescribes.accepted_iff]
  · intro other hother
    rcases (hsmallest other).mp hother with hold | rfl
    · obtain ⟨larger, hlarger, hcontains⟩ := hdescribes.enclosed other hold
      by_cases hdropped : span.contains larger = true
      · exact ⟨span, by simp, contains_trans hdropped hcontains⟩
      · refine ⟨larger, ?_, hcontains⟩
        exact List.mem_append_left _ (List.mem_filter.mpr ⟨hlarger, by simpa using hdropped⟩)
    · exact ⟨other, by simp, contains_self other⟩
  · exact (List.filter_sublist.trans hdescribes.sublist).append (List.Sublist.refl _)

theorem Describes.consider
    (hdescribes : selection.Describes seen)
    (hseen : ∀ other ∈ seen, other.IsCutFrom changed)
    (hspan : span.IsCutFrom changed)
    (hprecedes : ∀ other ∈ seen, other.Precedes span) :
    (selection.consider span).Describes (seen ++ [span]) := by
  have hrefuses := hdescribes.refuses_iff hseen hspan
  unfold Selection.consider
  split
  · rename_i hyes
    exact hdescribes.refuse hprecedes (hrefuses.mp hyes)
  · rename_i hno
    rw [hrefuses] at hno
    push Not at hno
    exact hdescribes.accept hseen hspan hprecedes hno

theorem Describes.foldl {rest : List Span}
    (hdescribes : selection.Describes seen)
    (hcut : ∀ other ∈ seen ++ rest, other.IsCutFrom changed)
    (hordered : (seen ++ rest).Pairwise Precedes) :
    (rest.foldl Selection.consider selection).Describes (seen ++ rest) := by
  induction rest generalizing selection seen with
  | nil =>
    rw [List.append_nil]
    exact hdescribes
  | cons next rest ih =>
    have happend : seen ++ next :: rest = (seen ++ [next]) ++ rest := by simp
    rw [happend] at hcut hordered ⊢
    have hseen : ∀ other ∈ seen, other.IsCutFrom changed := by
      intro other hother
      exact hcut other (by simp [hother])
    have hprecedes : ∀ other ∈ seen, other.Precedes next := by
      intro other hother
      have hfront := (List.pairwise_append.mp hordered).1
      exact (List.pairwise_append.mp hfront).2.2 other hother next (List.mem_singleton.mpr rfl)
    exact ih (hdescribes.consider hseen (hcut next (by simp)) hprecedes) hcut hordered

end Selection

/-! ## The result -/

theorem isSmallest_congr {first second : List Span}
    (hmem : ∀ span, span ∈ first ↔ span ∈ second) (span : Span) :
    IsSmallest first span ↔ IsSmallest second span := by
  constructor
  · rintro ⟨line, hspan, hcovers, hleast⟩
    exact ⟨line, (hmem span).mp hspan, hcovers, fun other h => hleast other ((hmem other).mpr h)⟩
  · rintro ⟨line, hspan, hcovers, hleast⟩
    exact ⟨line, (hmem span).mpr hspan, hcovers, fun other h => hleast other ((hmem other).mp h)⟩

section Result

variable {spans : List Span} {changed : LineSet}

theorem precedes_mergeSort (horders : (spans.map order).Nodup) :
    (spans.mergeSort sizeOrder).Pairwise Precedes := by
  have hsorted := List.pairwise_mergeSort sizeOrder_trans sizeOrder_total spans
  have hdistinct : (spans.mergeSort sizeOrder).Pairwise fun a b => a.order ≠ b.order := by
    have hperm := (List.mergeSort_perm spans sizeOrder).map order
    exact List.pairwise_map.mp (hperm.nodup_iff.mpr horders)
  -- Spans that tie in size and first line still differ in their order.
  refine (hsorted.and hdistinct).imp ?_
  rintro a b ⟨hle, hne⟩
  refine ⟨hle, ?_⟩
  by_contra hge
  rw [Bool.not_eq_false] at hge
  exact hne (order_eq_of_sizeOrder hle hge)

theorem describes_mergeSort
    (hcut : ∀ span ∈ spans, span.IsCutFrom changed)
    (horders : (spans.map order).Nodup) :
    ((spans.mergeSort sizeOrder).foldl Selection.consider ⟨[], []⟩).Describes
      (spans.mergeSort sizeOrder) := by
  have hsorted : ∀ other ∈ spans.mergeSort sizeOrder, other.IsCutFrom changed := by
    intro other hother
    exact hcut other (List.mem_mergeSort.mp hother)
  exact Selection.describes_nil.foldl hsorted (precedes_mergeSort horders)

/-- Selected are the smallest spans that lie in no other smallest span. -/
theorem mem_selectMinimal
    (hcut : ∀ span ∈ spans, span.IsCutFrom changed)
    (horders : (spans.map order).Nodup)
    {span : Span} :
    span ∈ selectMinimal spans ↔ IsSelectedFrom spans span := by
  rw [selectMinimal, List.mem_mergeSort, (describes_mergeSort hcut horders).accepted_iff]
  exact isSelectedFrom_congr (isSmallest_congr fun _ => List.mem_mergeSort) span

theorem nodup_selectMinimal
    (hcut : ∀ span ∈ spans, span.IsCutFrom changed)
    (horders : (spans.map order).Nodup) :
    (selectMinimal spans).Nodup := by
  rw [selectMinimal, (List.mergeSort_perm _ _).nodup_iff]
  refine (describes_mergeSort hcut horders).sublist.nodup ?_
  rw [(List.mergeSort_perm _ _).nodup_iff]
  exact horders.of_map order

theorem exists_selected_contains
    (hcut : ∀ span ∈ spans, span.IsCutFrom changed)
    (horders : (spans.map order).Nodup)
    {span : Span}
    (hsmallest : IsSmallest spans span) :
    ∃ other ∈ selectMinimal spans, other.contains span = true := by
  have hdescribes := describes_mergeSort hcut horders
  obtain ⟨other, hother, hcontains⟩ :=
    hdescribes.enclosed span ((isSmallest_congr (fun _ => List.mem_mergeSort) span).mpr hsmallest)
  exact ⟨other, List.mem_mergeSort.mpr hother, hcontains⟩

theorem exists_selected_covers
    (hcut : ∀ span ∈ spans, span.IsCutFrom changed)
    (horders : (spans.map order).Nodup)
    {span : Span}
    {line : Int}
    (hspan : span ∈ spans)
    (hline : line ∈ span.covered) :
    ∃ other ∈ selectMinimal spans, line ∈ other.covered := by
  obtain ⟨smallest, haround⟩ := exists_smallestAround hspan hline
  obtain ⟨other, hother, hcontains⟩ := exists_selected_contains hcut horders ⟨line, haround⟩
  have hmem := ((mem_selectMinimal hcut horders).mp hother).smallest.mem
  refine ⟨other, hother, ?_⟩
  exact (hcut other hmem).mem_covered_of_contains (hcut smallest haround.mem) hcontains
    haround.covers

end Result

end Span

end ReviewContext
