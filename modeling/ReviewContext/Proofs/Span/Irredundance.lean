import Mathlib.Data.List.Perm.Subperm
import ReviewContext.Proofs.Span.SelectedList

/-!
# Selections of any spans

Whatever lines the spans cover, no selected span contains another one, so both their first and
their last lines increase. A span is accepted with a line of its own, which it keeps while others
are dropped. A second selection therefore refuses none of the selected spans. If the spans have
different orders, the list in which they are given makes no difference. No covered line is lost:
some span that covers it lies within a selected one.
-/

namespace ReviewContext.Span

/-- Neither of two spans contains the other. -/
def Apart (a b : Span) : Prop :=
  a.contains b = false ∧ b.contains a = false

instance : Std.Symm Apart where
  symm _ _ hapart := hapart.symm

/-- Each span covers a line that no span in front of it covers. -/
def HaveOwnLines (spans : List Span) : Prop :=
  ∀ before span after, spans = before ++ span :: after →
    ∃ line ∈ span.covered, ∀ other ∈ before, line ∉ other.covered

theorem HaveOwnLines.sublist {spans kept : List Span}
    (hown : HaveOwnLines spans)
    (hkept : kept.Sublist spans) :
    HaveOwnLines kept := by
  rintro before span after rfl
  obtain ⟨front, back, rfl, hfront, hback⟩ := List.append_sublist_iff.mp hkept
  obtain ⟨skipped, rest, rfl, hspan, -⟩ := List.cons_sublist_iff.mp hback
  obtain ⟨left, right, rfl⟩ := List.append_of_mem hspan
  obtain ⟨line, hline, hfree⟩ := hown (front ++ left) span (right ++ rest) (by simp)
  refine ⟨line, hline, ?_⟩
  intro other hother
  exact hfree other (List.mem_append_left _ (hfront.subset hother))

theorem HaveOwnLines.concat {spans : List Span} {last : Span}
    (hown : HaveOwnLines spans)
    (hlast : ∃ line ∈ last.covered, ∀ other ∈ spans, line ∉ other.covered) :
    HaveOwnLines (spans ++ [last]) := by
  intro before span after hsplit
  rcases List.eq_nil_or_concat' after with rfl | ⟨inner, final, rfl⟩
  · obtain ⟨rfl, hlastEq⟩ := List.append_inj' hsplit rfl
    obtain ⟨rfl, -⟩ := List.cons.inj hlastEq
    exact hlast
  · rw [← List.cons_append, ← List.append_assoc] at hsplit
    obtain ⟨hspans, -⟩ := List.append_inj' hsplit rfl
    exact hown before span inner hspans

namespace Selection

theorem refuses_eq_false {selection : Selection} {span : Span} :
    selection.refuses span = false ↔
      (∃ line ∈ span.covered, line ∉ selection.covered) ∧
        ∀ other ∈ selection.accepted, other.contains span = false := by
  rw [refuses, Bool.or_eq_false_iff, List.any_eq_false]
  refine and_congr ?_ (by simp)
  rw [← Bool.not_eq_true, isCoveredBy_iff]
  push Not
  rfl

/-- What a selection keeps, whatever lines its spans cover. -/
structure IsIrredundant (selection : Selection) : Prop where
  apart : selection.accepted.Pairwise Apart
  own : HaveOwnLines selection.accepted
  covered : ∀ span ∈ selection.accepted, ∀ line ∈ span.covered, line ∈ selection.covered

theorem isIrredundant_nil : IsIrredundant ⟨[], []⟩ := by
  refine ⟨List.Pairwise.nil, ?_, by simp⟩
  intro before span after hsplit
  simp at hsplit

theorem IsIrredundant.consider {selection : Selection}
    (hirredundant : selection.IsIrredundant) (span : Span) :
    (selection.consider span).IsIrredundant := by
  unfold Selection.consider
  split
  · exact hirredundant
  · rename_i haccepts
    rw [Bool.not_eq_true, refuses_eq_false] at haccepts
    obtain ⟨⟨line, hline, hfree⟩, houtside⟩ := haccepts
    have hfilter : (selection.accepted.filter fun other => !span.contains other).Sublist
        selection.accepted := List.filter_sublist
    constructor
    · refine List.pairwise_append.mpr
        ⟨hirredundant.apart.sublist hfilter, List.pairwise_singleton _ _, ?_⟩
      intro other hother last hlast
      obtain ⟨hmem, hkept⟩ := List.mem_filter.mp hother
      rw [List.mem_singleton.mp hlast]
      exact ⟨houtside other hmem, by simpa using hkept⟩
    · refine (hirredundant.own.sublist hfilter).concat ⟨line, hline, ?_⟩
      intro other hother hcovers
      exact hfree (hirredundant.covered other (hfilter.subset hother) line hcovers)
    · intro other hother covering hcovering
      rcases List.mem_append.mp hother with hkept | hlast
      · exact List.mem_append_right _
          (hirredundant.covered other (hfilter.subset hkept) covering hcovering)
      · rw [List.mem_singleton.mp hlast] at hcovering
        exact List.mem_append_left _ hcovering

theorem IsIrredundant.foldl {selection : Selection}
    (hirredundant : selection.IsIrredundant) (spans : List Span) :
    (spans.foldl Selection.consider selection).IsIrredundant := by
  induction spans generalizing selection with
  | nil => exact hirredundant
  | cons span rest ih => exact ih (hirredundant.consider span)

theorem sublist_consider (selection : Selection) (span : Span) :
    (selection.consider span).accepted.Sublist (selection.accepted ++ [span]) := by
  unfold consider
  split
  · exact List.sublist_append_left _ _
  · exact List.filter_sublist.append (List.Sublist.refl _)

theorem sublist_foldl (selection : Selection) (spans : List Span) :
    (spans.foldl consider selection).accepted.Sublist (selection.accepted ++ spans) := by
  induction spans generalizing selection with
  | nil => simp
  | cons span rest ih =>
    have hrest := (ih (selection.consider span)).trans
      ((selection.sublist_consider span).append (List.Sublist.refl rest))
    simpa using hrest

/-- Spans that stand apart and have lines of their own are all accepted, and none is dropped. -/
theorem accepted_foldl {selection : Selection} {spans : List Span}
    (hapart : (selection.accepted ++ spans).Pairwise Apart)
    (hown : HaveOwnLines (selection.accepted ++ spans))
    (hcovered : ∀ line ∈ selection.covered, ∃ span ∈ selection.accepted, line ∈ span.covered) :
    (spans.foldl consider selection).accepted = selection.accepted ++ spans := by
  induction spans generalizing selection with
  | nil => simp
  | cons span rest ih =>
    obtain ⟨line, hline, hfree⟩ := hown selection.accepted span rest rfl
    have hspan : ∀ other ∈ selection.accepted, Apart other span := by
      intro other hother
      exact (List.pairwise_append.mp hapart).2.2 other hother span List.mem_cons_self
    have haccepts : selection.refuses span = false := by
      refine refuses_eq_false.mpr ⟨⟨line, hline, ?_⟩, fun other hother => (hspan other hother).1⟩
      intro hmem
      obtain ⟨other, hother, hcovers⟩ := hcovered line hmem
      exact hfree other hother hcovers
    have hkept : (selection.accepted.filter fun other => !span.contains other) =
        selection.accepted := by
      refine List.filter_eq_self.mpr fun other hother => ?_
      simp [(hspan other hother).2]
    have hconsider : selection.consider span =
        ⟨selection.accepted ++ [span], span.covered.toList ++ selection.covered⟩ := by
      simp [consider, haccepts, hkept]
    rw [List.foldl_cons, hconsider, ih]
    · simp
    · simpa using hapart
    · simpa using hown
    · intro other hother
      rcases List.mem_append.mp hother with hlast | hold
      · exact ⟨span, by simp, hlast⟩
      · obtain ⟨covering, hmem, hcovers⟩ := hcovered other hold
        exact ⟨covering, List.mem_append_left _ hmem, hcovers⟩

/-! ## Lines of dropped spans -/

/-- A span takes the place of the accepted ones that it contains, so what lies within one of them
stays within an accepted span. -/
theorem exists_contains_consider {selection : Selection} {outer inner : Span}
    (houter : outer ∈ selection.accepted)
    (hcontains : outer.contains inner = true)
    (span : Span) :
    ∃ other ∈ (selection.consider span).accepted, other.contains inner = true := by
  unfold consider
  split
  · exact ⟨outer, houter, hcontains⟩
  · by_cases hdropped : span.contains outer = true
    · exact ⟨span, by simp, contains_trans hdropped hcontains⟩
    · refine ⟨outer, ?_, hcontains⟩
      exact List.mem_append_left _ (List.mem_filter.mpr ⟨houter, by simpa using hdropped⟩)

/-- A line of the spans seen so far is covered by one that lies within an accepted span. -/
def Retains (selection : Selection) (seen : List Span) (line : Int) : Prop :=
  ∃ inner ∈ seen, line ∈ inner.covered ∧
    ∃ outer ∈ selection.accepted, outer.contains inner = true

/-- What a selection has taken up of the spans seen so far. -/
structure IsRetentive (selection : Selection) (seen : List Span) : Prop where
  covered : ∀ line ∈ selection.covered, selection.Retains seen line
  seen : ∀ span ∈ seen, ∀ line ∈ span.covered, selection.Retains seen line

section Retention

variable {selection : Selection} {seen : List Span} {span : Span} {line : Int}

theorem Retains.consider (hretains : selection.Retains seen line) (span : Span) :
    (selection.consider span).Retains (seen ++ [span]) line := by
  obtain ⟨inner, hinner, hline, outer, houter, hcontains⟩ := hretains
  exact ⟨inner, List.mem_append_left _ hinner, hline,
    exists_contains_consider houter hcontains span⟩

theorem IsRetentive.retains_last
    (hretentive : selection.IsRetentive seen)
    (hline : line ∈ span.covered) :
    (selection.consider span).Retains (seen ++ [span]) line := by
  cases hrefuses : selection.refuses span with
  | false => exact ⟨span, by simp, hline, span, by simp [consider, hrefuses], contains_self span⟩
  | true =>
    rw [refuses, Bool.or_eq_true, isCoveredBy_iff, List.any_eq_true] at hrefuses
    rcases hrefuses with hcovered | ⟨outer, houter, hcontains⟩
    · exact (hretentive.covered line (hcovered line hline)).consider span
    · exact ⟨span, by simp, hline, exists_contains_consider houter hcontains span⟩

theorem mem_covered_consider (hline : line ∈ (selection.consider span).covered) :
    line ∈ span.covered ∨ line ∈ selection.covered := by
  unfold consider at hline
  split at hline
  · exact .inr hline
  · exact List.mem_append.mp hline

theorem IsRetentive.consider (hretentive : selection.IsRetentive seen) (span : Span) :
    (selection.consider span).IsRetentive (seen ++ [span]) := by
  constructor
  · intro line hline
    rcases mem_covered_consider hline with hnew | hold
    · exact hretentive.retains_last hnew
    · exact (hretentive.covered line hold).consider span
  · intro other hother line hline
    rcases List.mem_append.mp hother with hold | hlast
    · exact (hretentive.seen other hold line hline).consider span
    · rw [List.mem_singleton.mp hlast] at hline
      exact hretentive.retains_last hline

theorem IsRetentive.foldl (hretentive : selection.IsRetentive seen) (rest : List Span) :
    (rest.foldl Selection.consider selection).IsRetentive (seen ++ rest) := by
  induction rest generalizing selection seen with
  | nil =>
    rw [List.append_nil]
    exact hretentive
  | cons next rest ih =>
    rw [List.append_cons]
    exact ih (hretentive.consider next)

end Retention

end Selection

/-! ## The result -/

section Result

variable {spans : List Span}

theorem isIrredundant_mergeSort (spans : List Span) :
    ((spans.mergeSort sizeOrder).foldl Selection.consider ⟨[], []⟩).IsIrredundant :=
  Selection.isIrredundant_nil.foldl _

theorem sublist_mergeSort (spans : List Span) :
    ((spans.mergeSort sizeOrder).foldl Selection.consider ⟨[], []⟩).accepted.Sublist
      (spans.mergeSort sizeOrder) := by
  simpa using Selection.sublist_foldl ⟨[], []⟩ (spans.mergeSort sizeOrder)

theorem subperm_selectMinimal (spans : List Span) : (selectMinimal spans).Subperm spans :=
  ((List.mergeSort_perm _ _).subperm.trans (sublist_mergeSort spans).subperm).trans
    (List.mergeSort_perm _ _).subperm

theorem apart_selectMinimal (spans : List Span) : (selectMinimal spans).Pairwise Apart := by
  rw [selectMinimal, (List.mergeSort_perm _ _).pairwise_iff]
  · exact (isIrredundant_mergeSort spans).apart
  · exact fun hapart => hapart.symm

theorem increasing_selectMinimal (spans : List Span) :
    (selectMinimal spans).Pairwise fun a b => a.first < b.first ∧ a.last < b.last := by
  have hsorted : (selectMinimal spans).Pairwise fun a b => a.lineOrder b = true :=
    List.pairwise_mergeSort lineOrder_trans lineOrder_total _
  refine (hsorted.and (apart_selectMinimal spans)).imp ?_
  rintro a b ⟨horder, hab, hba⟩
  rw [← Bool.not_eq_true, contains_iff] at hab hba
  simp only [lineOrder, Bool.or_eq_true, Bool.and_eq_true, decide_eq_true_eq, beq_iff_eq] at horder
  omega

theorem exists_selected_around {span : Span} {line : Int}
    (hspan : span ∈ spans)
    (hline : line ∈ span.covered) :
    ∃ inner ∈ spans, line ∈ inner.covered ∧
      ∃ outer ∈ selectMinimal spans, outer.contains inner = true := by
  have hnone : Selection.IsRetentive ⟨[], []⟩ [] := ⟨by simp, by simp⟩
  have hretentive := hnone.foldl (spans.mergeSort sizeOrder)
  obtain ⟨inner, hinner, hcovers, outer, houter, hcontains⟩ :=
    hretentive.seen span (by simpa using hspan) line hline
  exact ⟨inner, by simpa using hinner, hcovers, outer, List.mem_mergeSort.mpr houter, hcontains⟩

theorem mergeSort_eq_of_perm {other : List Span}
    (horders : (spans.map order).Nodup)
    (hperm : other.Perm spans) :
    other.mergeSort sizeOrder = spans.mergeSort sizeOrder := by
  have hothers : (other.map order).Nodup := (hperm.map order).nodup_iff.mpr horders
  refine List.Perm.eq_of_pairwise ?_ (precedes_mergeSort hothers) (precedes_mergeSort horders) ?_
  · rintro a b - - ⟨-, hnot⟩ ⟨hle, -⟩
    rw [hle] at hnot
    cases hnot
  · exact (List.mergeSort_perm _ _).trans (hperm.trans (List.mergeSort_perm _ _).symm)

theorem selectMinimal_selectMinimal (horders : (spans.map order).Nodup) :
    selectMinimal (selectMinimal spans) = selectMinimal spans := by
  obtain ⟨hapart, hown, -⟩ := isIrredundant_mergeSort spans
  have hsublist := sublist_mergeSort spans
  have hprecedes := precedes_mergeSort horders
  have hselected : selectMinimal spans = List.mergeSort _ lineOrder := rfl
  generalize ((spans.mergeSort sizeOrder).foldl Selection.consider ⟨[], []⟩).accepted = accepted
    at hapart hown hsublist hselected
  have hsorted : accepted.mergeSort sizeOrder = accepted :=
    List.mergeSort_of_pairwise ((hprecedes.sublist hsublist).imp And.left)
  have hacceptedOrders : (accepted.map order).Nodup := by
    refine (hsublist.map order).nodup ?_
    exact ((List.mergeSort_perm spans sizeOrder).map order).nodup_iff.mpr horders
  -- In the order of sizes, the second selection meets the spans just as the first accepted them.
  have hagain : (selectMinimal spans).mergeSort sizeOrder = accepted := by
    rw [hselected, mergeSort_eq_of_perm hacceptedOrders (List.mergeSort_perm _ _), hsorted]
  have hall : (accepted.foldl Selection.consider ⟨[], []⟩).accepted = accepted := by
    apply Selection.accepted_foldl
    · exact hapart
    · exact hown
    · simp
  rw [selectMinimal, hagain, hall, hselected]

/-- The selection takes some of the spans, none of which contains another, in the order of their
first and of their last lines. It is its own selection, and no permutation of the spans changes
it. A line that is covered has a span around it that lies within a selected one. -/
theorem selection_stands_apart (horders : (spans.map order).Nodup) :
    (selectMinimal spans).Subperm spans ∧
      (selectMinimal spans).Pairwise Apart ∧
      (selectMinimal spans).Pairwise (fun a b => a.first < b.first ∧ a.last < b.last) ∧
      selectMinimal (selectMinimal spans) = selectMinimal spans ∧
      (∀ other : List Span, other.Perm spans → selectMinimal other = selectMinimal spans) ∧
      ∀ span ∈ spans, ∀ line ∈ span.covered,
        ∃ inner ∈ spans, line ∈ inner.covered ∧
          ∃ outer ∈ selectMinimal spans, outer.contains inner = true := by
  refine ⟨subperm_selectMinimal spans, apart_selectMinimal spans, increasing_selectMinimal spans,
    selectMinimal_selectMinimal horders, ?_, ?_⟩
  · intro other hperm
    rw [selectMinimal, mergeSort_eq_of_perm horders hperm, ← selectMinimal]
  · intro span hspan line hline
    exact exists_selected_around hspan hline

end Result

/-! Spans that cover lines outside of their ranges. The inner span is dropped for the one around it,
its twin is refused although it covers a line that no selected span covers, and the two that are
left overlap. -/

namespace StrayLines

def span (first last order : Int) (covered : List Int) : Span :=
  ⟨first, last, "function", none, LineSet.ofList covered, order⟩

def outer : Span :=
  span 1 10 0 [3, 20]

def behind : Span :=
  span 3 12 2 [7]

def twin : Span :=
  span 2 4 3 [50]

def spans : List Span :=
  [outer, span 2 4 1 [3], behind, twin]

theorem selectMinimal_spans : selectMinimal spans = [outer, behind] := by
  cbv

end StrayLines

theorem strayLines_stand_apart :
    (StrayLines.spans.map order).Nodup ∧
      Apart StrayLines.outer StrayLines.behind ∧
      selectMinimal [StrayLines.outer, StrayLines.behind] =
        [StrayLines.outer, StrayLines.behind] ∧
      selectMinimal StrayLines.spans.reverse = [StrayLines.outer, StrayLines.behind] ∧
      ∃ inner ∈ StrayLines.spans, (50 : Int) ∈ inner.covered ∧
        ∃ outer ∈ [StrayLines.outer, StrayLines.behind], outer.contains inner = true := by
  have horders : (StrayLines.spans.map order).Nodup := by decide
  obtain ⟨-, hapart, -, hagain, hperm, haround⟩ := selection_stands_apart horders
  have hreversed := hperm StrayLines.spans.reverse (List.reverse_perm _)
  have htwin := haround StrayLines.twin (by simp [StrayLines.spans]) 50
    (LineSet.mem_ofList.mpr (List.mem_singleton.mpr rfl))
  rw [StrayLines.selectMinimal_spans] at hapart hagain hreversed htwin
  exact ⟨horders, List.rel_of_pairwise_cons hapart (by simp), hagain, hreversed, htwin⟩

end ReviewContext.Span
