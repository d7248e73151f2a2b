import Mathlib.Data.List.Permutation
import ReviewContext.Proofs.Span.Selection

/-!
# The selection as a list

Around every covered line exactly one span is smallest. These spans determine the selection: it
lists those of them that lie in no other one, each once, by first line and then by order. No other
list does.
-/

namespace ReviewContext.Span

section Smallest

variable {spans : List Span} {line : Int}

theorem IsSmallestAround.unique {first second : Span}
    (horders : (spans.map order).Nodup)
    (hfirst : IsSmallestAround spans line first)
    (hsecond : IsSmallestAround spans line second) :
    first = second := by
  have horder : first.order = second.order :=
    order_eq_of_sizeOrder (hfirst.least second hsecond.mem hsecond.covers)
      (hsecond.least first hfirst.mem hfirst.covers)
  exact List.inj_on_of_nodup_map horders hfirst.mem hsecond.mem horder

theorem existsUnique_smallestAround
    (horders : (spans.map order).Nodup)
    (hcovered : ∃ span ∈ spans, line ∈ span.covered) :
    ∃! best, IsSmallestAround spans line best := by
  obtain ⟨span, hspan, hline⟩ := hcovered
  obtain ⟨best, hbest⟩ := exists_smallestAround hspan hline
  exact ⟨best, hbest, fun other hother => hother.unique horders hbest⟩

end Smallest

/-! ## The order of the list -/

/-- Begins earlier, or at the same line with an earlier order. -/
def ComesBefore (a b : Span) : Prop :=
  a.first < b.first ∨ a.first = b.first ∧ a.order < b.order

theorem ComesBefore.asymm {a b : Span}
    (hab : a.ComesBefore b) :
    ¬ b.ComesBefore a := by
  unfold ComesBefore at *
  omega

instance : Std.Irrefl ComesBefore where
  irrefl _ hself := hself.asymm hself

theorem lineOrder_trans (a b c : Span)
    (hab : a.lineOrder b = true)
    (hbc : b.lineOrder c = true) :
    a.lineOrder c = true := by
  simp only [lineOrder, Bool.or_eq_true, Bool.and_eq_true, decide_eq_true_eq, beq_iff_eq] at *
  omega

theorem lineOrder_total (a b : Span) : (a.lineOrder b || b.lineOrder a) = true := by
  simp only [lineOrder, Bool.or_eq_true, Bool.and_eq_true, decide_eq_true_eq, beq_iff_eq]
  omega

theorem comesBefore_of_lineOrder {a b : Span}
    (hle : a.lineOrder b = true)
    (hne : a.order ≠ b.order) :
    a.ComesBefore b := by
  simp only [lineOrder, Bool.or_eq_true, Bool.and_eq_true, decide_eq_true_eq, beq_iff_eq] at hle
  unfold ComesBefore
  omega

/-- A list in this order is determined by its members. -/
theorem eq_of_mem_iff {first second : List Span}
    (hfirst : first.Pairwise ComesBefore)
    (hsecond : second.Pairwise ComesBefore)
    (hmem : ∀ span, span ∈ first ↔ span ∈ second) :
    first = second := by
  have hperm : first.Perm second :=
    (List.perm_ext_iff_of_nodup hfirst.nodup hsecond.nodup).mpr hmem
  refine List.Perm.eq_of_pairwise ?_ hfirst hsecond hperm
  intro a b _ _ hab hba
  exact absurd hba hab.asymm

section Result

variable {spans : List Span} {changed : LineSet}

theorem pairwise_selectMinimal
    (hcut : ∀ span ∈ spans, span.IsCutFrom changed)
    (horders : (spans.map order).Nodup) :
    (selectMinimal spans).Pairwise ComesBefore := by
  have hsorted : (selectMinimal spans).Pairwise fun a b => a.lineOrder b = true :=
    List.pairwise_mergeSort lineOrder_trans lineOrder_total _
  have hdistinct : (selectMinimal spans).Pairwise fun a b => a.order ≠ b.order := by
    refine List.pairwise_map.mp ((nodup_selectMinimal hcut horders).map_on ?_)
    intro a ha b hb horder
    have hmemA := ((mem_selectMinimal hcut horders).mp ha).smallest.mem
    have hmemB := ((mem_selectMinimal hcut horders).mp hb).smallest.mem
    exact List.inj_on_of_nodup_map horders hmemA hmemB horder
  refine (hsorted.and hdistinct).imp ?_
  rintro a b ⟨hle, hne⟩
  exact comesBefore_of_lineOrder hle hne

/-- The selection lists the smallest spans that lie in no other one, by first line and order. Every
covered line stays covered, and every selected span is the smallest one around a changed line. -/
theorem selection_lists_outermost_smallest
    (hcut : ∀ span ∈ spans, span.IsCutFrom changed)
    (horders : (spans.map order).Nodup) :
    (∀ line, (∃ span ∈ spans, line ∈ span.covered) →
        ∃! best, IsSmallestAround spans line best) ∧
      (∀ selected : List Span, selected = selectMinimal spans ↔
        selected.Pairwise ComesBefore ∧
          ∀ span, span ∈ selected ↔ IsSelectedFrom spans span) ∧
      (∀ line, (∃ span ∈ spans, line ∈ span.covered) →
        ∃ span ∈ selectMinimal spans, line ∈ span.covered) ∧
      ∀ span ∈ selectMinimal spans, ∃ line ∈ changed, IsSmallestAround spans line span := by
  refine ⟨?_, ?_, ?_, ?_⟩
  · intro line hcovered
    exact existsUnique_smallestAround horders hcovered
  · intro selected
    constructor
    · rintro rfl
      exact ⟨pairwise_selectMinimal hcut horders, fun span => mem_selectMinimal hcut horders⟩
    · rintro ⟨hsorted, hmem⟩
      refine eq_of_mem_iff hsorted (pairwise_selectMinimal hcut horders) ?_
      intro span
      rw [hmem, mem_selectMinimal hcut horders]
  · rintro line ⟨span, hspan, hline⟩
    exact exists_selected_covers hcut horders hspan hline
  · intro span hspan
    obtain ⟨line, haround⟩ := ((mem_selectMinimal hcut horders).mp hspan).smallest
    obtain ⟨hchanged, -⟩ := (hcut span haround.mem).mem_covered.mp haround.covers
    exact ⟨line, hchanged, haround⟩

end Result

/-! A declaration around two others that share a line, and one behind it. The inner ones are the
smallest around their lines, but the outer one is needed for its own line. -/

namespace Overlapping

def changed : LineSet :=
  LineSet.ofList [2, 5, 9, 13]

def span (first last order : Int) : Span :=
  ⟨first, last, "function", none, changed.between first last, order⟩

def outer : Span :=
  span 1 10 0

def inner : Span :=
  span 5 6 2

def behind : Span :=
  span 12 14 3

def spans : List Span :=
  [outer, span 2 5 1, inner, behind]

theorem isCutFrom : ∀ other ∈ spans, other.IsCutFrom changed := by
  intro other hother
  simp only [spans, List.mem_cons, List.not_mem_nil, or_false] at hother
  rcases hother with rfl | rfl | rfl | rfl
  all_goals exact ⟨rfl, LineSet.isEmpty_eq_false.mp (by decide)⟩

theorem nodup_orders : (spans.map order).Nodup := by
  decide

theorem selectMinimal_eq : [outer, behind] = selectMinimal spans := by
  cbv

end Overlapping

/-- Of the overlapping declarations, the outer one is selected and the inner one is not. -/
theorem overlapping_isSelectedFrom :
    (∀ other ∈ Overlapping.spans, other.IsCutFrom Overlapping.changed) ∧
      (Overlapping.spans.map order).Nodup ∧
      IsSelectedFrom Overlapping.spans Overlapping.outer ∧
      ¬ IsSelectedFrom Overlapping.spans Overlapping.inner ∧
      ∃ line ∈ Overlapping.changed,
        IsSmallestAround Overlapping.spans line Overlapping.outer := by
  obtain ⟨-, hlist, -, haround⟩ :=
    selection_lists_outermost_smallest Overlapping.isCutFrom Overlapping.nodup_orders
  obtain ⟨-, hmem⟩ := (hlist [Overlapping.outer, Overlapping.behind]).mp
    Overlapping.selectMinimal_eq
  refine ⟨Overlapping.isCutFrom, Overlapping.nodup_orders, ?_, ?_, ?_⟩
  · exact (hmem Overlapping.outer).mp (by simp)
  · intro hselected
    have hlisted := (hmem Overlapping.inner).mpr hselected
    revert hlisted
    decide
  · apply haround Overlapping.outer
    rw [← Overlapping.selectMinimal_eq]
    simp

end ReviewContext.Span
