import Mathlib.Data.List.Permutation
import ReviewContext.Proofs.Span.Selection

/-!
# Lines shared by selected spans

The selection covers every line that some collected span reaches. It covers the line only once
exactly when the smallest spans that reach the line have an outermost one among them. Declarations
that lie side by side and share a row have none, so a line in the shared row can be selected twice,
also in a tree whose rows are nested.
-/

namespace ReviewContext

namespace Span

def coverCount (spans : List Span) (line : Int) : Nat :=
  spans.countP fun span => span.covered.contains line

/-- The spans that are smallest around some line and reach a line lie in one of them. -/
def HasOutermost (spans : List Span) (line : Int) : Prop :=
  ∃ outer, IsSmallest spans outer ∧ outer.Reaches line ∧
    ∀ span, IsSmallest spans span → span.Reaches line → outer.contains span = true

theorem countP_eq_one_iff {α : Type} {p : α → Bool} {xs : List α} (hnodup : xs.Nodup) :
    xs.countP p = 1 ↔ ∃ x ∈ xs, p x = true ∧ ∀ y ∈ xs, p y = true → y = x := by
  rw [List.countP_eq_length_filter, List.length_eq_one_iff]
  constructor
  · rintro ⟨x, hfilter⟩
    have hmem (y : α) : y ∈ xs ∧ p y = true ↔ y = x := by
      rw [← List.mem_filter, hfilter, List.mem_singleton]
    obtain ⟨hx, hpx⟩ := (hmem x).mpr rfl
    exact ⟨x, hx, hpx, fun y hy hpy => (hmem y).mp ⟨hy, hpy⟩⟩
  · rintro ⟨x, hx, hpx, hunique⟩
    refine ⟨x, List.perm_singleton.mp ?_⟩
    refine (List.perm_ext_iff_of_nodup (hnodup.filter p) (List.nodup_singleton x)).mpr ?_
    intro y
    rw [List.mem_filter, List.mem_singleton]
    constructor
    · rintro ⟨hy, hpy⟩
      exact hunique y hy hpy
    · rintro rfl
      exact ⟨hx, hpx⟩

section Count

variable {spans : List Span} {changed : LineSet} {line : Int}

theorem coverCount_selectMinimal_eq_one_iff
    (hcut : ∀ span ∈ spans, span.IsCutFrom changed)
    (horders : (spans.map order).Nodup)
    (hchanged : line ∈ changed)
    (hreached : ∃ span ∈ spans, span.Reaches line) :
    coverCount (selectMinimal spans) line = 1 ↔ HasOutermost spans line := by
  have hselected (span : Span) : span ∈ selectMinimal spans ↔ IsSelectedFrom spans span :=
    mem_selectMinimal hcut horders
  have hcovers (span : Span) (hspan : span ∈ spans) :
      span.covered.contains line = true ↔ span.Reaches line := by
    rw [LineSet.contains_iff, (hcut span hspan).mem_covered]
    exact and_iff_right hchanged
  rw [coverCount, countP_eq_one_iff (nodup_selectMinimal hcut horders)]
  constructor
  · rintro ⟨outer, houter, hline, hunique⟩
    have hsmallest := ((hselected outer).mp houter).smallest
    refine ⟨outer, hsmallest, (hcovers outer hsmallest.mem).mp hline, ?_⟩
    intro span hspan hreaches
    obtain ⟨larger, hlarger, hcontains⟩ := exists_selected_contains hcut horders hspan
    have hmem := ((hselected larger).mp hlarger).smallest.mem
    have hboth : larger.covered.contains line = true := by
      rw [hcovers larger hmem]
      rw [contains_iff] at hcontains
      obtain ⟨hfirst, hlast⟩ := hreaches
      exact ⟨by omega, by omega⟩
    rw [← hunique larger hlarger hboth]
    exact hcontains
  · rintro ⟨outer, hsmallest, hreaches, houtermost⟩
    obtain ⟨span, hspan, hspanReaches⟩ := hreached
    have hline : line ∈ span.covered :=
      (hcut span hspan).mem_covered.mpr ⟨hchanged, hspanReaches⟩
    obtain ⟨other, hother, hcovered⟩ := exists_selected_covers hcut horders hspan hline
    -- Any selected span on the line is the outermost one, since nothing contains it.
    have heq (found : Span) (hfound : found ∈ selectMinimal spans)
        (hon : found.covered.contains line = true) : outer = found := by
      obtain ⟨hsmall, hmaximal⟩ := (hselected found).mp hfound
      refine hmaximal outer hsmallest (houtermost found hsmall ?_)
      exact (hcovers found hsmall.mem).mp hon
    have hon := LineSet.contains_iff.mpr hcovered
    refine ⟨other, hother, hon, ?_⟩
    intro found hfound hfoundOn
    rw [← heq found hfound hfoundOn, heq other hother hon]

theorem coverCount_selectMinimal_pos
    (hcut : ∀ span ∈ spans, span.IsCutFrom changed)
    (horders : (spans.map order).Nodup)
    (hchanged : line ∈ changed)
    (hreached : ∃ span ∈ spans, span.Reaches line) :
    0 < coverCount (selectMinimal spans) line := by
  obtain ⟨span, hspan, hreaches⟩ := hreached
  have hline : line ∈ span.covered := (hcut span hspan).mem_covered.mpr ⟨hchanged, hreaches⟩
  obtain ⟨other, hother, hcovered⟩ := exists_selected_covers hcut horders hspan hline
  exact List.countP_pos_iff.mpr ⟨other, hother, LineSet.contains_iff.mpr hcovered⟩

/-- Where any two spans on a line are nested, the larger of two selected ones would replace the
other. -/
theorem hasOutermost_of_nested
    (hcut : ∀ span ∈ spans, span.IsCutFrom changed)
    (horders : (spans.map order).Nodup)
    (hchanged : line ∈ changed)
    (hreached : ∃ span ∈ spans, span.Reaches line)
    (hnested : ∀ first ∈ spans, ∀ second ∈ spans, first.Reaches line → second.Reaches line →
      first.contains second = true ∨ second.contains first = true) :
    HasOutermost spans line := by
  obtain ⟨span, hspan, hreaches⟩ := hreached
  have hline : line ∈ span.covered := (hcut span hspan).mem_covered.mpr ⟨hchanged, hreaches⟩
  obtain ⟨outer, houter, hcovered⟩ := exists_selected_covers hcut horders hspan hline
  obtain ⟨hsmallest, hmaximal⟩ := (mem_selectMinimal hcut horders).mp houter
  obtain ⟨-, houterReaches⟩ := (hcut outer hsmallest.mem).mem_covered.mp hcovered
  refine ⟨outer, hsmallest, houterReaches, ?_⟩
  intro other hother hotherReaches
  rcases hnested outer hsmallest.mem other hother.mem houterReaches hotherReaches with h | h
  · exact h
  · rw [hmaximal other hother h]
    exact contains_self outer

end Count

end Span

/-! ## Declarations with a common row -/

namespace Node

mutual

/-- Whether the rows of every node lie within those of its parent. -/
def hasNestedRows : Node → Bool
  | node label children => haveNestedRows children label

def haveNestedRows : List Node → Label → Bool
  | [], _ => true
  | child :: rest, parent =>
    parent.startRow ≤ child.label.startRow && child.label.endRow ≤ parent.endRow &&
      child.hasNestedRows && haveNestedRows rest parent

end

end Node

namespace SharedRow

def source : String :=
  "class K \x7b\n  a() \x7b\n    x()\n  \x7d b() \x7b\n    y()\n  \x7d\n\x7d"

/-- A class of two methods, the second of which starts in the last row of the first. -/
def tree : Node :=
  .node ⟨"program", none, true, 0, 6, 0, 49⟩
    [.node ⟨"class_declaration", none, true, 0, 6, 0, 49⟩
      [.node ⟨"identifier", some "name", true, 0, 0, 6, 7⟩ [],
        .node ⟨"class_body", some "body", true, 0, 6, 8, 49⟩
          [.node ⟨"method_definition", some "member", true, 1, 3, 12, 29⟩
              [.node ⟨"property_identifier", some "name", true, 1, 1, 12, 13⟩ [],
                .node ⟨"statement_block", some "body", true, 1, 3, 16, 29⟩ []],
            .node ⟨"method_definition", some "member", true, 3, 5, 30, 47⟩
              [.node ⟨"property_identifier", some "name", true, 3, 3, 30, 31⟩ [],
                .node ⟨"statement_block", some "body", true, 3, 5, 34, 47⟩ []]]]]

/-- The changed lines: the body of each method and the row between them. -/
def target : WalkTarget :=
  ⟨.javascript, Text.Utf8.encode source, 0, LineSet.ofList [3, 4, 5]⟩

def limits : WalkLimits :=
  ⟨60, 200000⟩

def walk : Walk :=
  collectSpans target limits 0 tree

theorem spans_eq :
    walk.spans =
      [⟨1, 7, "class", some "K", LineSet.ofList [3, 4, 5], 0⟩,
        ⟨2, 4, "method", some "a", LineSet.ofList [3, 4], 1⟩,
        ⟨4, 6, "method", some "b", LineSet.ofList [4, 5], 2⟩] := by
  decide +kernel

theorem selected_eq :
    Span.selectMinimal walk.spans =
      [⟨2, 4, "method", some "a", LineSet.ofList [3, 4], 1⟩,
        ⟨4, 6, "method", some "b", LineSet.ofList [4, 5], 2⟩] := by
  rw [spans_eq]
  cbv

theorem changed {line : Int} (hline : line ∈ [3, 4, 5]) : line ∈ target.changed :=
  LineSet.mem_ofList.mpr hline

theorem exists_span_reaches {line : Int} (hline : line ∈ [3, 4, 5]) :
    ∃ span ∈ walk.spans, span.Reaches line := by
  rw [spans_eq]
  refine ⟨_, List.mem_cons_self, ?_⟩
  simp only [List.mem_cons, List.not_mem_nil, or_false] at hline
  constructor
  · dsimp only
    omega
  · dsimp only
    omega

theorem coverCount_selected :
    Span.coverCount (Span.selectMinimal walk.spans) 3 = 1 ∧
      Span.coverCount (Span.selectMinimal walk.spans) 4 = 2 := by
  rw [selected_eq]
  decide

end SharedRow

/-! ## Lines of collected spans -/

section Collected

variable {target : WalkTarget} {limits : WalkLimits} {orderStart : Int} {root : Node} {line : Int}

/-- A changed line in a collected span is selected at least once, and exactly once if and only if
the smallest spans on it have an outermost one. -/
theorem coverCount_collectSpans
    (hchanged : line ∈ target.changed)
    (hreached : ∃ span ∈ (collectSpans target limits orderStart root).spans, span.Reaches line) :
    0 < Span.coverCount
        (Span.selectMinimal (collectSpans target limits orderStart root).spans) line ∧
      (Span.coverCount
          (Span.selectMinimal (collectSpans target limits orderStart root).spans) line = 1 ↔
        Span.HasOutermost (collectSpans target limits orderStart root).spans line) := by
  have hsound := isSound_collectSpans target limits orderStart root
  have horders := hsound.nodup_orders
  constructor
  · exact Span.coverCount_selectMinimal_pos hsound.cut horders hchanged hreached
  · exact Span.coverCount_selectMinimal_eq_one_iff hsound.cut horders hchanged hreached

end Collected

/-- The body of the first method has an outermost span, the common row has none. -/
theorem sharedRow_hasOutermost :
    Span.HasOutermost SharedRow.walk.spans 3 ∧ ¬ Span.HasOutermost SharedRow.walk.spans 4 := by
  have hbody : (3 : Int) ∈ [3, 4, 5] := by simp
  have hrow : (4 : Int) ∈ [3, 4, 5] := by simp
  obtain ⟨-, hbodyOnce⟩ :=
    coverCount_collectSpans (SharedRow.changed hbody) (SharedRow.exists_span_reaches hbody)
  obtain ⟨-, hrowOnce⟩ :=
    coverCount_collectSpans (SharedRow.changed hrow) (SharedRow.exists_span_reaches hrow)
  obtain ⟨hone, htwo⟩ := SharedRow.coverCount_selected
  constructor
  · exact hbodyOnce.mp hone
  · intro houtermost
    have honce : Span.coverCount (Span.selectMinimal SharedRow.walk.spans) 4 = 1 :=
      hrowOnce.mpr houtermost
    omega

/-- Nested rows do not make every changed line be selected exactly once. -/
theorem exists_line_not_selected_once :
    ¬ ∀ (target : WalkTarget) (limits : WalkLimits) (orderStart : Int) (root : Node) (line : Int),
      root.hasNestedRows = true →
        (collectSpans target limits orderStart root).isComplete = true →
          line ∈ target.changed →
            (∃ span ∈ (collectSpans target limits orderStart root).spans, span.Reaches line) →
              Span.coverCount
                (Span.selectMinimal (collectSpans target limits orderStart root).spans) line =
                  1 := by
  intro honce
  have hrow : (4 : Int) ∈ [3, 4, 5] := by simp
  have hone : Span.coverCount (Span.selectMinimal SharedRow.walk.spans) 4 = 1 :=
    honce SharedRow.target SharedRow.limits 0 SharedRow.tree 4 (by decide) (by decide +kernel)
      (SharedRow.changed hrow) (SharedRow.exists_span_reaches hrow)
  have htwo := SharedRow.coverCount_selected.2
  omega

end ReviewContext
