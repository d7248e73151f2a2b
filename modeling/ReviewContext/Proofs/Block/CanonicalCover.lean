import ReviewContext.Proofs.Block.MergedWindows

/-!
# Merged windows as a canonical cover

A set of lines that consists of finitely many stretches has one list of windows that holds it, with
no empty window and a line left out between neighbours. Merging finds this list for the lines within
the radius of some given lines. It is a single window just when no two given lines that follow one
another are further apart than their two windows can bridge.
-/

namespace ReviewContext

/-- Whether a line is within the radius of one of the given lines. -/
def IsNear (lines : List Int) (radius line : Int) : Prop :=
  ∃ given ∈ lines, given - radius ≤ line ∧ line ≤ given + radius

/-- Nonempty windows in ascending order that hold some lines and no others, with a line left out
between neighbours. -/
structure IsCanonicalCover (windows : List (Int × Int)) (covered : Int → Prop) : Prop where
  nonempty : ∀ window ∈ windows, window.1 ≤ window.2
  standApart : StandApart windows
  holds : ∀ line, WindowsHold windows line ↔ covered line

/-! ## Uniqueness -/

section Uniqueness

variable {window : Int × Int} {rest : List (Int × Int)}

theorem first_le_of_windowsHold {line : Int}
    (hnonempty : ∀ other ∈ window :: rest, other.1 ≤ other.2)
    (hapart : StandApart (window :: rest))
    (hline : WindowsHold (window :: rest) line) :
    window.1 ≤ line := by
  have hwindow := hnonempty window List.mem_cons_self
  obtain ⟨hlater, -⟩ := List.pairwise_cons.mp hapart
  rcases windowsHold_cons.mp hline with ⟨hfirst, -⟩ | ⟨later, hmem, hfirst, -⟩
  · exact hfirst
  · have hgap := hlater later hmem
    omega

theorem lt_of_windowsHold_rest {line : Int}
    (hapart : StandApart (window :: rest))
    (hline : WindowsHold rest line) :
    window.2 + 1 < line := by
  obtain ⟨hlater, -⟩ := List.pairwise_cons.mp hapart
  obtain ⟨later, hmem, hfirst, -⟩ := hline
  have hgap := hlater later hmem
  omega

namespace IsCanonicalCover

variable {covered : Int → Prop}

theorem covered_first (hcover : IsCanonicalCover (window :: rest) covered) :
    covered window.1 := by
  have hwindow := hcover.nonempty window List.mem_cons_self
  exact (hcover.holds _).mp (windowsHold_cons.mpr (.inl ⟨Int.le_refl _, hwindow⟩))

theorem first_le (hcover : IsCanonicalCover (window :: rest) covered) {line : Int}
    (hline : covered line) :
    window.1 ≤ line :=
  first_le_of_windowsHold hcover.nonempty hcover.standApart ((hcover.holds line).mpr hline)

theorem not_covered_behind (hcover : IsCanonicalCover (window :: rest) covered) :
    ¬ covered (window.2 + 1) := by
  intro hline
  rcases windowsHold_cons.mp ((hcover.holds _).mpr hline) with ⟨-, hlast⟩ | hrest
  · omega
  · have hgap := lt_of_windowsHold_rest hcover.standApart hrest
    omega

theorem tail (hcover : IsCanonicalCover (window :: rest) covered) :
    IsCanonicalCover rest fun line => covered line ∧ window.2 < line where
  nonempty other hother := hcover.nonempty other (List.mem_cons_of_mem _ hother)
  standApart := (List.pairwise_cons.mp hcover.standApart).2
  holds line := by
    rw [← hcover.holds line, windowsHold_cons]
    constructor
    · intro hrest
      have hgap := lt_of_windowsHold_rest hcover.standApart hrest
      exact ⟨.inr hrest, by omega⟩
    · rintro ⟨⟨-, hlast⟩ | hrest, hbehind⟩
      · omega
      · exact hrest

/-- Of two covers whose first windows begin at one line, neither first window ends behind the other:
the line behind the shorter one would be held by the longer one. -/
theorem last_le {other : Int × Int} {others : List (Int × Int)}
    (hcover : IsCanonicalCover (window :: rest) covered)
    (hother : IsCanonicalCover (other :: others) covered)
    (hfirst : window.1 = other.1) :
    other.2 ≤ window.2 := by
  apply Int.not_lt.mp
  intro hlonger
  have hnonempty := hcover.nonempty window List.mem_cons_self
  have hheld : WindowsHold (other :: others) (window.2 + 1) :=
    windowsHold_cons.mpr (.inl ⟨by omega, by omega⟩)
  exact hcover.not_covered_behind ((hother.holds _).mp hheld)

theorem head_eq {other : Int × Int} {others : List (Int × Int)}
    (hcover : IsCanonicalCover (window :: rest) covered)
    (hother : IsCanonicalCover (other :: others) covered) :
    window = other := by
  have hfirst : window.1 = other.1 :=
    Int.le_antisymm (hcover.first_le hother.covered_first) (hother.first_le hcover.covered_first)
  have hlast : window.2 = other.2 :=
    Int.le_antisymm (hother.last_le hcover hfirst.symm) (hcover.last_le hother hfirst)
  exact Prod.ext hfirst hlast

theorem unique {windows others : List (Int × Int)}
    (hcover : IsCanonicalCover windows covered)
    (hother : IsCanonicalCover others covered) :
    windows = others := by
  induction windows generalizing covered others with
  | nil =>
    cases others with
    | nil => rfl
    | cons other behind =>
      have hheld := (hcover.holds _).mpr hother.covered_first
      simp [WindowsHold] at hheld
  | cons window rest ih =>
    cases others with
    | nil =>
      have hheld := (hother.holds _).mpr hcover.covered_first
      simp [WindowsHold] at hheld
    | cons other behind =>
      obtain rfl := head_eq hcover hother
      rw [ih hcover.tail hother.tail]

end IsCanonicalCover

end Uniqueness

/-! ## The cover that merging finds -/

theorem nonempty_mergeInto {radius first last : Int} {lines : List Int}
    (hradius : 0 ≤ radius)
    (hopen : first ≤ last) :
    ∀ window ∈ mergeInto radius first last lines, window.1 ≤ window.2 := by
  induction lines generalizing first last with
  | nil => simpa [mergeInto] using hopen
  | cons line rest ih =>
    rw [mergeInto]
    by_cases htouches : line - radius ≤ last + 1
    · rw [if_pos htouches]
      exact ih (by omega)
    · rw [if_neg htouches]
      exact List.forall_mem_cons.mpr ⟨hopen, ih (by omega)⟩

theorem nonempty_mergeWindows {radius : Int} (hradius : 0 ≤ radius) (lines : List Int) :
    ∀ window ∈ mergeWindows lines radius, window.1 ≤ window.2 := by
  unfold mergeWindows
  cases lines.mergeSort fun a b => decide (a ≤ b) with
  | nil => simp
  | cons line rest => exact nonempty_mergeInto hradius (by omega)

theorem isCanonicalCover_mergeWindows {radius : Int} (hradius : 0 ≤ radius) (lines : List Int) :
    IsCanonicalCover (mergeWindows lines radius) (IsNear lines radius) where
  nonempty := nonempty_mergeWindows hradius lines
  standApart := standApart_mergeWindows lines radius
  holds _ := windowsHold_mergeWindows

/-! ## A single window -/

/-- Two given lines, the second one greater, with no given line between them. -/
structure AreNeighbours (lines : List Int) (line next : Int) : Prop where
  line_mem : line ∈ lines
  next_mem : next ∈ lines
  lt : line < next
  apart : ∀ other ∈ lines, other ≤ line ∨ next ≤ other

/-- Every line from the least to the greatest given one lies between two neighbours. -/
theorem exists_neighbours_around {lines : List Int} {least greatest line : Int}
    (hleast : least ∈ lines) (hgreatest : greatest ∈ lines)
    (hlow : least ≤ line) (hhigh : line < greatest) :
    ∃ before behind, AreNeighbours lines before behind ∧ before ≤ line ∧ line < behind := by
  have hlower : lines.filter (· ≤ line) ≠ [] :=
    List.ne_nil_of_mem (List.mem_filter.mpr ⟨hleast, by simpa using hlow⟩)
  have hupper : lines.filter (line < ·) ≠ [] :=
    List.ne_nil_of_mem (List.mem_filter.mpr ⟨hgreatest, by simpa using hhigh⟩)
  obtain ⟨hbefore, hbeforeLe⟩ := List.mem_filter.mp (List.max_mem hlower)
  obtain ⟨hbehind, hltBehind⟩ := List.mem_filter.mp (List.min_mem hupper)
  rw [decide_eq_true_eq] at hbeforeLe hltBehind
  refine ⟨_, _, ⟨hbefore, hbehind, by omega, ?_⟩, hbeforeLe, hltBehind⟩
  intro other hother
  by_cases hside : other ≤ line
  · exact .inl (List.le_max_of_mem (List.mem_filter.mpr ⟨hother, by simpa using hside⟩))
  · refine .inr (List.min_le_of_mem (List.mem_filter.mpr ⟨hother, ?_⟩))
    simpa using hside

/-- The window from the least to the greatest given line, widened by the radius, is a cover when the
windows of neighbours touch. -/
theorem isCanonicalCover_singleton {lines : List Int} {radius : Int} (hlines : lines ≠ [])
    (hradius : 0 ≤ radius)
    (hgaps : ∀ line next, AreNeighbours lines line next → next - line ≤ 2 * radius + 1) :
    IsCanonicalCover [(lines.min hlines - radius, lines.max hlines + radius)]
      (IsNear lines radius) where
  nonempty := by
    have hle : lines.min hlines ≤ lines.max hlines := List.le_max_of_mem (List.min_mem hlines)
    simp only [List.mem_singleton, forall_eq]
    omega
  standApart := List.pairwise_singleton _ _
  holds line := by
    have hleast := List.min_mem hlines
    have hgreatest := List.max_mem hlines
    simp only [WindowsHold, List.mem_singleton, exists_eq_left]
    constructor
    · rintro ⟨hfirst, hlast⟩
      by_cases hlow : line < lines.min hlines
      · exact ⟨_, hleast, by omega, by omega⟩
      · by_cases hhigh : lines.max hlines ≤ line
        · exact ⟨_, hgreatest, by omega, by omega⟩
        · obtain ⟨before, behind, hneighbours, hbefore, hbehind⟩ :=
            exists_neighbours_around hleast hgreatest (Int.not_lt.mp hlow) (Int.not_le.mp hhigh)
          have hgap := hgaps before behind hneighbours
          by_cases hnear : line ≤ before + radius
          · exact ⟨before, hneighbours.line_mem, by omega, hnear⟩
          · exact ⟨behind, hneighbours.next_mem, by omega, by omega⟩
    · rintro ⟨given, hgiven, hlow, hhigh⟩
      have hmin : lines.min hlines ≤ given := List.min_le_of_mem hgiven
      have hmax : given ≤ lines.max hlines := List.le_max_of_mem hgiven
      omega

theorem gap_le_of_isCanonicalCover_singleton {lines : List Int} {radius : Int} {hlines : lines ≠ []}
    (hradius : 0 ≤ radius)
    (hcover : IsCanonicalCover [(lines.min hlines - radius, lines.max hlines + radius)]
      (IsNear lines radius))
    {line next : Int} (hneighbours : AreNeighbours lines line next) :
    next - line ≤ 2 * radius + 1 := by
  apply Int.not_lt.mp
  intro hwide
  have hmin : lines.min hlines ≤ line := List.min_le_of_mem hneighbours.line_mem
  have hmax : next ≤ lines.max hlines := List.le_max_of_mem hneighbours.next_mem
  -- The first line behind the window of the lower neighbour is out of reach of all given lines.
  have hheld :
      WindowsHold [(lines.min hlines - radius, lines.max hlines + radius)] (line + radius + 1) :=
    ⟨_, List.mem_singleton_self _, by dsimp only; omega, by dsimp only; omega⟩
  obtain ⟨given, hgiven, hlow, hhigh⟩ := (hcover.holds _).mp hheld
  rcases hneighbours.apart given hgiven with hbelow | habove
  · omega
  · omega

/-- Merging the windows of some lines gives the one canonical cover of the lines within the radius.
It is a single window, from the least line to the greatest one, just when neighbours are at most
twice the radius and one line apart. -/
theorem mergeWindows_covers_canonically (lines : List Int) (radius : Int) (hlines : lines ≠ [])
    (hradius : 0 ≤ radius) :
    IsCanonicalCover (mergeWindows lines radius) (IsNear lines radius) ∧
      (∀ windows, IsCanonicalCover windows (IsNear lines radius) →
        windows = mergeWindows lines radius) ∧
      (mergeWindows lines radius = [(lines.min hlines - radius, lines.max hlines + radius)] ↔
        ∀ line next, AreNeighbours lines line next → next - line ≤ 2 * radius + 1) := by
  have hcover := isCanonicalCover_mergeWindows hradius lines
  refine ⟨hcover, fun windows hwindows => hwindows.unique hcover, ?_, ?_⟩
  · intro hsingle line next hneighbours
    rw [hsingle] at hcover
    exact gap_le_of_isCanonicalCover_singleton hradius hcover hneighbours
  · intro hgaps
    exact hcover.unique (isCanonicalCover_singleton hlines hradius hgaps)

/-- The windows of 3 and 10 touch, that of 18 begins one line behind them. -/
theorem threeLines_cover_canonically :
    mergeWindows [18, 3, 10, 3] 3 = [(0, 13), (15, 21)] ∧
      IsCanonicalCover [(0, 13), (15, 21)] (IsNear [18, 3, 10, 3] 3) ∧
      ¬ ∀ line next, AreNeighbours [18, 3, 10, 3] line next → next - line ≤ 2 * 3 + 1 := by
  have hsorted : [18, 3, 10, 3].mergeSort (fun a b : Int => decide (a ≤ b)) = [3, 3, 10, 18] := by
    simp [List.mergeSort]
  have hmerged : mergeWindows [18, 3, 10, 3] 3 = [(0, 13), (15, 21)] := by
    rw [mergeWindows, hsorted]
    decide
  obtain ⟨hcover, -, hsingle⟩ :=
    mergeWindows_covers_canonically [18, 3, 10, 3] 3 (by decide) (by decide)
  rw [hmerged] at hcover hsingle
  exact ⟨hmerged, hcover, fun hgaps => by simpa using hsingle.mpr hgaps⟩

end ReviewContext
