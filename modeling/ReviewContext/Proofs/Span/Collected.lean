import Mathlib.Data.List.Nodup
import ReviewContext.Extraction.Blocks

/-!
# Collected spans

Every span that a walk keeps covers exactly the changed lines in its range, at least one of them,
and the spans of a walk are numbered one after another. Walks over several units share one set of
changed lines and go on numbering where the walk before them stopped, so all their spans together
are cut from one set of lines and have different orders.
-/

namespace ReviewContext

theorem LineSet.isEmpty_eq_false {lines : LineSet} :
    lines.isEmpty = false ↔ ∃ line, line ∈ lines := by
  rw [LineSet.isEmpty, List.isEmpty_eq_false_iff_exists_mem]
  rfl

def Span.Reaches (span : Span) (line : Int) : Prop :=
  span.first ≤ line ∧ line ≤ span.last

/-- A span that covers the changed lines in its range, and at least one. -/
structure Span.IsCutFrom (span : Span) (changed : LineSet) : Prop where
  covered_eq : span.covered = changed.between span.first span.last
  covers : ∃ line, line ∈ span.covered

namespace Span.IsCutFrom

variable {span : Span} {changed : LineSet}

theorem mem_covered (hcut : span.IsCutFrom changed) {line : Int} :
    line ∈ span.covered ↔ line ∈ changed ∧ span.Reaches line := by
  rw [hcut.covered_eq, LineSet.mem_between]
  rfl

theorem first_le_last (hcut : span.IsCutFrom changed) : span.first ≤ span.last := by
  obtain ⟨line, hline⟩ := hcut.covers
  obtain ⟨-, hfirst, hlast⟩ := hcut.mem_covered.mp hline
  omega

end Span.IsCutFrom

/-- What a walk guarantees for its spans. -/
structure Walk.IsSound (spans : List Span) (changed : LineSet) (offset orderStart : Int) :
    Prop where
  cut : ∀ span ∈ spans, span.IsCutFrom changed
  above : ∀ span ∈ spans, offset + 1 ≤ span.first
  orders : spans.map Span.order =
    (List.range spans.length).map fun index : Nat => orderStart + (index : Int)

namespace Walk.IsSound

variable {changed : LineSet} {offset orderStart : Int}

theorem nil : Walk.IsSound [] changed offset orderStart :=
  ⟨by simp, by simp, rfl⟩

theorem append {first second : List Span}
    (hfirst : Walk.IsSound first changed offset orderStart)
    (hsecond : Walk.IsSound second changed offset (orderStart + first.length)) :
    Walk.IsSound (first ++ second) changed offset orderStart := by
  constructor
  · intro span hspan
    rcases List.mem_append.mp hspan with hspan | hspan
    · exact hfirst.cut span hspan
    · exact hsecond.cut span hspan
  · intro span hspan
    rcases List.mem_append.mp hspan with hspan | hspan
    · exact hfirst.above span hspan
    · exact hsecond.above span hspan
  · rw [List.map_append, hfirst.orders, hsecond.orders, List.length_append, List.range_add,
      List.map_append, List.map_map]
    congr 1
    refine List.map_congr_left fun index _ => ?_
    simp only [Function.comp_apply]
    omega

theorem lower {spans : List Span} {lower : Int}
    (hsound : Walk.IsSound spans changed offset orderStart)
    (hle : lower ≤ offset) :
    Walk.IsSound spans changed lower orderStart := by
  refine ⟨hsound.cut, ?_, hsound.orders⟩
  intro span hspan
  have habove := hsound.above span hspan
  omega

theorem nodup_orders {spans : List Span}
    (hsound : Walk.IsSound spans changed offset orderStart) :
    (spans.map Span.order).Nodup := by
  rw [hsound.orders]
  refine List.Nodup.map ?_ List.nodup_range
  intro first second heq
  simp only at heq
  omega

end Walk.IsSound

/-- What a walk makes of a place, if it makes a span of it. -/
theorem WalkTarget.exists_of_spanAt? {target : WalkTarget} {order : Int} {place : Place}
    {span : Span}
    (hspan : target.spanAt? order place = some span) :
    ∃ declaration,
      place.declaration? target.family = some declaration ∧
        span = ⟨place.rowRange.1 + 1 + target.offset, place.rowRange.2 + 1 + target.offset,
          declaration.name, some (place.name target.bytes),
          target.changed.between (place.rowRange.1 + 1 + target.offset)
            (place.rowRange.2 + 1 + target.offset), order⟩ ∧
        ∃ line, line ∈ span.covered := by
  unfold spanAt? at hspan
  cases hdeclaration : place.declaration? target.family with
  | none => simp [hdeclaration] at hspan
  | some declaration =>
    simp only [hdeclaration] at hspan
    split at hspan
    · cases hspan
    · rename_i hcovered
      cases hspan
      exact ⟨declaration, rfl, rfl, LineSet.isEmpty_eq_false.mp (by simpa using hcovered)⟩

theorem WalkTarget.isSound_spanAt? {target : WalkTarget} {order : Int} {place : Place}
    {span : Span}
    (hspan : target.spanAt? order place = some span) :
    Walk.IsSound [span] target.changed target.offset order := by
  obtain ⟨declaration, -, rfl, hcovers⟩ := exists_of_spanAt? hspan
  constructor
  · intro span hspan
    rw [List.mem_singleton.mp hspan]
    exact ⟨rfl, hcovers⟩
  · intro span hspan
    rw [List.mem_singleton.mp hspan]
    dsimp only
    omega
  · simp

theorem isSound_walkFrom (target : WalkTarget) (limits : WalkLimits) (visited : Nat)
    (order : Int) (stack : List Pending) :
    Walk.IsSound (walkFrom target limits visited order stack).spans target.changed target.offset
      order := by
  fun_induction walkFrom target limits visited order stack with
  | case1 => exact .nil
  | case2 => exact .nil
  | case3 => exact .nil
  | case4 visited order pending rest hdepth hnodes span hspan walk ih =>
    exact (WalkTarget.isSound_spanAt? hspan).append ih
  | case5 visited order pending rest hdepth hnodes hnone ih => exact ih

theorem isSound_collectSpans (target : WalkTarget) (limits : WalkLimits) (orderStart : Int)
    (root : Node) :
    Walk.IsSound (collectSpans target limits orderStart root).spans target.changed target.offset
      orderStart := by
  unfold collectSpans
  split
  · exact .nil
  · exact isSound_walkFrom target limits 0 orderStart _

theorem isSound_overUnits (settings : Settings) (changed : LineSet) (orderStart : Nat)
    (units : List ParsedUnit) :
    Walk.IsSound ((Walk.overUnits settings changed orderStart units).flatMap Walk.spans) changed 0
      orderStart := by
  induction units generalizing orderStart with
  | nil => exact .nil
  | cons unit rest ih =>
    have hwalk := isSound_collectSpans (unit.target changed) settings.walkLimits orderStart unit.root
    have hrest := ih (orderStart + (unit.walk settings changed orderStart).spans.length)
    rw [Int.natCast_add] at hrest
    exact (hwalk.lower (Int.natCast_nonneg _)).append hrest

end ReviewContext
