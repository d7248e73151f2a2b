import ReviewContext.Proofs.Span.Collected

/-!
# Places behind spans

A walk goes down from the root along named children, so every span that it keeps is that of a place
which can be reached in this way. The lines of the span are the rows of the place, counted from one
and moved on by the offset.
-/

namespace ReviewContext

/-- The places of a tree that are reached from its root along named children. -/
inductive Place.IsReachedIn (root : Node) : Place → Prop where
  | root : IsReachedIn root (Place.root root)
  | child {place child : Place}
      (hplace : IsReachedIn root place)
      (hchild : child ∈ place.namedChildren) :
      IsReachedIn root child

/-- The span has the lines that the rows of the place have behind an offset. -/
structure Span.StandsAt (span : Span) (place : Place) (offset : Int) : Prop where
  first : span.first = place.rowRange.1 + 1 + offset
  last : span.last = place.rowRange.2 + 1 + offset

theorem WalkTarget.standsAt_of_spanAt? {target : WalkTarget} {order : Int} {place : Place}
    {span : Span}
    (hspan : target.spanAt? order place = some span) :
    span.StandsAt place target.offset := by
  obtain ⟨declaration, -, rfl, -⟩ := exists_of_spanAt? hspan
  exact ⟨rfl, rfl⟩

theorem WalkTarget.order_eq_of_spanAt? {target : WalkTarget} {order : Int} {place : Place}
    {span : Span}
    (hspan : target.spanAt? order place = some span) :
    span.order = order := by
  obtain ⟨declaration, -, rfl, -⟩ := exists_of_spanAt? hspan
  rfl

/-- The span is what a walk makes of a place in a tree. -/
structure WalkTarget.StemsFrom (target : WalkTarget) (root : Node) (span : Span) (place : Place) :
    Prop where
  reached : place.IsReachedIn root
  spanAt? : target.spanAt? span.order place = some span

theorem exists_stemsFrom_of_mem_walkFrom {root : Node} {target : WalkTarget} {limits : WalkLimits}
    {visited : Nat} {order : Int} {stack : List Pending} {span : Span}
    (hstack : ∀ pending ∈ stack, pending.place.IsReachedIn root)
    (hspan : span ∈ (walkFrom target limits visited order stack).spans) :
    ∃ place : Place, target.StemsFrom root span place := by
  have hnext {pending : Pending} {rest : List Pending}
      (hpending : ∀ other ∈ pending :: rest, other.place.IsReachedIn root) :
      ∀ other ∈ pending.children ++ rest, other.place.IsReachedIn root := by
    intro other hother
    rcases List.mem_append.mp hother with hchild | hrest
    · obtain ⟨child, hbelow, rfl⟩ := List.mem_map.mp hchild
      exact .child (hpending pending List.mem_cons_self) hbelow
    · exact hpending other (List.mem_cons_of_mem _ hrest)
  fun_induction walkFrom target limits visited order stack with
  | case1 => cases hspan
  | case2 => cases hspan
  | case3 => cases hspan
  | case4 visited order pending rest hdepth hnodes found hfound walk ih =>
    rcases List.mem_cons.mp hspan with heq | hrest
    · subst heq
      refine ⟨pending.place, hstack pending List.mem_cons_self, ?_⟩
      rw [WalkTarget.order_eq_of_spanAt? hfound, hfound]
    · exact ih (hnext hstack) hrest
  | case5 visited order pending rest hdepth hnodes hnone ih => exact ih (hnext hstack) hspan

theorem exists_stemsFrom_of_mem_collectSpans {root : Node} {target : WalkTarget}
    {limits : WalkLimits} {orderStart : Int} {span : Span}
    (hspan : span ∈ (collectSpans target limits orderStart root).spans) :
    ∃ place : Place, target.StemsFrom root span place := by
  unfold collectSpans at hspan
  split at hspan
  · cases hspan
  · apply exists_stemsFrom_of_mem_walkFrom _ hspan
    intro pending hpending
    rw [List.mem_singleton] at hpending
    subst hpending
    exact .root

end ReviewContext
