import Mathlib.Algebra.Ring.Int.Defs
import Mathlib.Data.Int.Range
import Mathlib.Data.List.Nodup
import ReviewContext.Proofs.Block.MergedWindows
import ReviewContext.Proofs.Block.WindowRows

/-!
# The skeleton of a span

The skeleton of a span is made by going through its lines one by one: a line near a covered line is
shown, and each run of other lines is left out for one marker with its length. The windows give the
same rows. A row that is shown stands for one line and a marker for as many as it says, so the rows
stand for all lines of the span together, and each covered line is shown by exactly one of them.
-/

namespace ReviewContext

open ReviewContext.Text

/-- The text of a line, counted from one. -/
def lineText (lines : List String) (line : Int) : String :=
  lines.getD (line - 1).toNat ""

/-- Leaves out the line in front of some rows. It joins the run of the first row if this is a
marker. -/
def leaveOut : List WindowRow → List WindowRow
  | .omitted count :: rows => .omitted (count + 1) :: rows
  | rows => .omitted 1 :: rows

/-- The rows for some lines in order, given which of them are shown. -/
def skeletonOf (shown : Int → Bool) (lines : List String) : List Int → List WindowRow
  | [] => []
  | line :: rest =>
    if shown line then .source (lineText lines line) line :: skeletonOf shown lines rest
    else leaveOut (skeletonOf shown lines rest)

namespace Span

/-- Whether a line lies within the radius of a covered line. -/
def isNear (span : Span) (radius line : Int) : Bool :=
  span.covered.toList.any fun covered => covered - radius ≤ line && line ≤ covered + radius

def skeleton (span : Span) (lines : List String) (radius : Int) : List WindowRow :=
  skeletonOf (span.isNear radius) lines (Int.range span.first (span.last + 1))

end Span

/-- The number of lines of the source that a row stands for. -/
def WindowRow.lineCount : WindowRow → Int
  | source _ _ => 1
  | omitted count => count
  | capped _ _ => 0

/-! ## Consecutive lines -/

theorem length_range (first next : Int) : (Int.range first next).length = (next - first).toNat := by
  simp [Int.range]

theorem getElem_range {first next : Int} {index : Nat}
    (hindex : index < (Int.range first next).length) :
    (Int.range first next)[index] = first + index := by
  simp [Int.range]

theorem range_append {first next : Int} (middle : Int)
    (hfirst : first ≤ middle)
    (hnext : middle ≤ next) :
    Int.range first next = Int.range first middle ++ Int.range middle next := by
  have hlength : (next - first).toNat = (middle - first).toNat + (next - middle).toNat := by omega
  unfold Int.range
  rw [hlength, List.range_add, List.map_append, List.map_map]
  congr 1
  refine List.map_congr_left fun index _ => ?_
  simp only [Function.comp_apply]
  omega

theorem nodup_range (first next : Int) : (Int.range first next).Nodup := by
  refine List.Nodup.map ?_ List.nodup_range
  intro a b hab
  simp only at hab
  omega

theorem sourceRows_eq {lines : List String} {first last : Int}
    (hfirst : 1 ≤ first)
    (hle : first ≤ last)
    (hlast : last ≤ lines.length) :
    Span.sourceRows lines first last =
      (Int.range first (last + 1)).map fun line => .source (lineText lines line) line := by
  obtain ⟨start, rfl⟩ : ∃ start : Nat, first = start + 1 := ⟨(first - 1).toNat, by omega⟩
  obtain ⟨stop, rfl⟩ : ∃ stop : Nat, last = stop := ⟨last.toNat, by omega⟩
  have hstart : ((start : Int) + 1 - 1) = start := by omega
  unfold Span.sourceRows
  rw [hstart, slice_of_nonneg]
  apply List.ext_getElem
  · simp only [List.length_map, List.length_zipIdx, List.length_drop, List.length_take, length_range]
    omega
  · intro index hrow hline
    simp only [List.length_map, List.length_zipIdx, List.length_drop, List.length_take] at hrow
    have hindex : start + index < lines.length := by omega
    have hposition : ((start : Int) + 1 + index - 1).toNat = start + index := by omega
    have htext : lineText lines ((start : Int) + 1 + index) = lines[start + index] := by
      rw [lineText, hposition]
      exact (List.getElem_eq_getD "").symm
    simp [getElem_range, htext]

/-! ## Runs of lines -/

section Runs

variable {shown : Int → Bool} {lines : List String}

theorem skeletonOf_shown_append {front rest : List Int}
    (hshown : ∀ line ∈ front, shown line = true) :
    skeletonOf shown lines (front ++ rest) =
      (front.map fun line => .source (lineText lines line) line) ++
        skeletonOf shown lines rest := by
  induction front with
  | nil => rfl
  | cons line front ih =>
    have hline : shown line = true := hshown line List.mem_cons_self
    have hfront : ∀ other ∈ front, shown other = true := fun other hother =>
      hshown other (List.mem_cons_of_mem _ hother)
    rw [List.cons_append, skeletonOf, if_pos hline, ih hfront, List.map_cons, List.cons_append]

/-- The rows do not begin with a marker, so a run in front of them ends there. -/
def BeginShown (rows : List WindowRow) : Prop :=
  ∀ count rest, rows ≠ .omitted count :: rest

theorem leaveOut_of_beginShown {rows : List WindowRow} (hrows : BeginShown rows) :
    leaveOut rows = .omitted 1 :: rows := by
  unfold leaveOut
  split
  · rename_i count rest
    exact absurd rfl (hrows count rest)
  · rfl

theorem skeletonOf_hidden_append {front rest : List Int}
    (hhidden : ∀ line ∈ front, shown line = false)
    (hrest : BeginShown (skeletonOf shown lines rest)) :
    skeletonOf shown lines (front ++ rest) =
      Span.gapRows 0 front.length ++ skeletonOf shown lines rest := by
  induction front with
  | nil => rfl
  | cons line front ih =>
    have hline : ¬ shown line = true := by simp [hhidden line List.mem_cons_self]
    have hfront : ∀ other ∈ front, shown other = false := fun other hother =>
      hhidden other (List.mem_cons_of_mem _ hother)
    rw [List.cons_append, skeletonOf, if_neg hline, ih hfront]
    cases front with
    | nil => exact leaveOut_of_beginShown hrest
    | cons next front =>
      have hshorter : (0 : Int) < ((next :: front).length : Nat) := by
        rw [List.length_cons]
        omega
      have hlonger : (0 : Int) < ((line :: next :: front).length : Nat) := by
        rw [List.length_cons]
        omega
      rw [Span.gapRows, if_pos hshorter, Span.gapRows, if_pos hlonger]
      simp [leaveOut]

theorem beginShown_skeletonOf {numbers : List Int}
    (hhead : ∀ line ∈ numbers.head?, shown line = true) :
    BeginShown (skeletonOf shown lines numbers) := by
  intro count rest
  cases numbers with
  | nil => simp [skeletonOf]
  | cons line numbers =>
    have hline : shown line = true := hhead line rfl
    simp [skeletonOf, hline]

theorem gapRows_eq {cursor next : Int} :
    Span.gapRows cursor next = Span.gapRows 0 ((Int.range cursor next).length : Nat) := by
  unfold Span.gapRows
  rw [length_range]
  by_cases hlt : cursor < next
  · have hpos : (0 : Int) < ((next - cursor).toNat : Nat) := by omega
    have hcount : ((next - cursor).toNat : Int) - 0 = next - cursor := by omega
    rw [if_pos hlt, if_pos hpos, hcount]
  · have hzero : ¬ (0 : Int) < ((next - cursor).toNat : Nat) := by omega
    rw [if_neg hlt, if_neg hzero]

/-- Windows that stand apart give the rows of the lines behind a cursor, one window after the
other. -/
theorem skeletonFrom_eq {windows : List (Int × Int)} {cursor last : Int}
    (hpos : 1 ≤ cursor)
    (hlast : last ≤ lines.length)
    (hwithin : ∀ window ∈ windows,
      cursor ≤ window.1 ∧ window.1 ≤ window.2 ∧ window.2 ≤ last)
    (hapart : StandApart windows)
    (hshown : ∀ line, cursor ≤ line → line ≤ last →
      (shown line = true ↔ WindowsHold windows line)) :
    Span.skeletonFrom lines last cursor windows =
      skeletonOf shown lines (Int.range cursor (last + 1)) := by
  induction windows generalizing cursor with
  | nil =>
    have hhidden : ∀ line ∈ Int.range cursor (last + 1), shown line = false := by
      intro line hline
      obtain ⟨hfirst, hnext⟩ := Int.mem_range_iff.mp hline
      have hnone := hshown line hfirst (by omega)
      simpa [WindowsHold] using hnone
    have hrun : skeletonOf shown lines (Int.range cursor (last + 1) ++ []) =
        Span.gapRows cursor (last + 1) ++ skeletonOf shown lines [] := by
      rw [skeletonOf_hidden_append hhidden (beginShown_skeletonOf (by simp)), ← gapRows_eq]
    rw [List.append_nil, skeletonOf, List.append_nil] at hrun
    rw [Span.skeletonFrom, hrun]
  | cons window rest ih =>
    obtain ⟨first, stop⟩ := window
    obtain ⟨hfirst, hle, hstop⟩ := hwithin (first, stop) List.mem_cons_self
    obtain ⟨hgaps, hrestApart⟩ := List.pairwise_cons.mp hapart
    dsimp only at hfirst hle hstop hgaps
    have hbehind : ∀ later ∈ rest,
        stop + 1 ≤ later.1 ∧ later.1 ≤ later.2 ∧ later.2 ≤ last := by
      intro later hlater
      obtain ⟨-, hproper, hend⟩ := hwithin later (List.mem_cons_of_mem _ hlater)
      have hgap := hgaps later hlater
      omega
    -- Behind the window only the later windows hold a line, so the induction goes on from there.
    have hshownBehind : ∀ line, stop + 1 ≤ line → line ≤ last →
        (shown line = true ↔ WindowsHold rest line) := by
      intro line hfrom hto
      rw [hshown line (by omega) hto, windowsHold_cons]
      dsimp only
      constructor
      · rintro (hwindow | hlater)
        · omega
        · exact hlater
      · exact Or.inr
    have hhidden : ∀ line ∈ Int.range cursor first, shown line = false := by
      intro line hline
      obtain ⟨hfrom, hbefore⟩ := Int.mem_range_iff.mp hline
      rw [Bool.eq_false_iff]
      intro htrue
      rcases windowsHold_cons.mp ((hshown line hfrom (by omega)).mp htrue) with hwindow | hlater
      · dsimp only at hwindow
        omega
      · obtain ⟨later, hmem, hheld, -⟩ := hlater
        have hafter := hbehind later hmem
        omega
    have hinside : ∀ line ∈ Int.range first (stop + 1), shown line = true := by
      intro line hline
      obtain ⟨hfrom, hto⟩ := Int.mem_range_iff.mp hline
      refine (hshown line (by omega) (by omega)).mpr (windowsHold_cons.mpr (.inl ?_))
      dsimp only
      omega
    have hwindow :
        skeletonOf shown lines (Int.range first (last + 1)) =
          Span.sourceRows lines first stop ++
            skeletonOf shown lines (Int.range (stop + 1) (last + 1)) := by
      rw [range_append (stop + 1) (by omega) (by omega), skeletonOf_shown_append hinside,
        sourceRows_eq (by omega) hle (by omega)]
    have hbegins : BeginShown (skeletonOf shown lines (Int.range first (last + 1))) := by
      rw [hwindow, sourceRows_eq (by omega) hle (by omega),
        range_append (first + 1) (by omega) (by omega)]
      intro count rows
      simp [Int.range]
    calc
      Span.skeletonFrom lines last cursor ((first, stop) :: rest) =
          Span.gapRows cursor first ++
            (Span.sourceRows lines first stop ++
              skeletonOf shown lines (Int.range (stop + 1) (last + 1))) := by
        rw [Span.skeletonFrom, ih (by omega) hbehind hrestApart hshownBehind, List.append_assoc]
      _ = skeletonOf shown lines (Int.range cursor first ++ Int.range first (last + 1)) := by
        rw [skeletonOf_hidden_append hhidden hbegins, hwindow, ← gapRows_eq]
      _ = skeletonOf shown lines (Int.range cursor (last + 1)) := by
        rw [← range_append first hfirst (by omega)]

end Runs

/-! ## Lines and rows -/

section Accounting

variable {shown : Int → Bool} {lines : List String}

theorem sum_lineCount_leaveOut (rows : List WindowRow) :
    ((leaveOut rows).map WindowRow.lineCount).sum = (rows.map WindowRow.lineCount).sum + 1 := by
  unfold leaveOut
  split
  · simp only [List.map_cons, List.sum_cons, WindowRow.lineCount]
    omega
  · simp only [List.map_cons, List.sum_cons, WindowRow.lineCount]
    omega

theorem sum_lineCount_skeletonOf (numbers : List Int) :
    ((skeletonOf shown lines numbers).map WindowRow.lineCount).sum = numbers.length := by
  induction numbers with
  | nil => rfl
  | cons line rest ih =>
    rw [skeletonOf, List.length_cons]
    by_cases hline : shown line = true
    · rw [if_pos hline, List.map_cons, List.sum_cons, ih, WindowRow.lineCount]
      omega
    · rw [if_neg hline, sum_lineCount_leaveOut, ih]
      omega

theorem filterMap_line?_leaveOut (rows : List WindowRow) :
    (leaveOut rows).filterMap WindowRow.line? = rows.filterMap WindowRow.line? := by
  unfold leaveOut
  split
  · rw [List.filterMap_cons_none rfl, List.filterMap_cons_none rfl]
  · rw [List.filterMap_cons_none rfl]

theorem filterMap_line?_skeletonOf (numbers : List Int) :
    (skeletonOf shown lines numbers).filterMap WindowRow.line? = numbers.filter shown := by
  induction numbers with
  | nil => rfl
  | cons line rest ih =>
    rw [skeletonOf]
    by_cases hline : shown line = true
    · rw [if_pos hline, List.filter_cons_of_pos hline, ← ih]
      exact List.filterMap_cons_some rfl
    · rw [if_neg hline, List.filter_cons_of_neg hline, filterMap_line?_leaveOut, ih]

end Accounting

namespace Span

variable {span : Span} {lines : List String} {radius : Int}

theorem isNear_iff {line : Int} :
    span.isNear radius line = true ↔
      ∃ covered ∈ span.covered, covered - radius ≤ line ∧ line ≤ covered + radius := by
  simp [isNear, LineSet.mem_iff]

theorem isNear_of_covered {line : Int} (hradius : 0 ≤ radius) (hline : line ∈ span.covered) :
    span.isNear radius line = true :=
  isNear_iff.mpr ⟨line, hline, by omega, by omega⟩

theorem standApart_windows : StandApart (span.windows radius) := by
  unfold windows
  refine List.Pairwise.filter _ (List.pairwise_map.mpr ?_)
  refine (standApart_mergeWindows span.covered.toList radius).imp ?_
  intro window later hgap
  dsimp only
  omega

theorem windowsHold_windows {line : Int} (hfirst : span.first ≤ line) (hlast : line ≤ span.last) :
    WindowsHold (span.windows radius) line ↔ span.isNear radius line = true := by
  rw [isNear_iff]
  refine Iff.trans ?_ windowsHold_mergeWindows
  unfold windows
  constructor
  · rintro ⟨window, hwindow, hfrom, hto⟩
    obtain ⟨hclipped, -⟩ := List.mem_filter.mp hwindow
    obtain ⟨whole, hwhole, rfl⟩ := List.mem_map.mp hclipped
    dsimp only at hfrom hto
    exact ⟨whole, hwhole, by omega, by omega⟩
  · rintro ⟨whole, hwhole, hfrom, hto⟩
    refine ⟨(max span.first whole.1, min span.last whole.2), List.mem_filter.mpr ⟨?_, ?_⟩, ?_⟩
    · exact List.mem_map.mpr ⟨whole, hwhole, rfl⟩
    · simp only [decide_eq_true_eq]
      omega
    · dsimp only
      omega

theorem windowRows_eq_skeleton
    (hfirst : 1 ≤ span.first)
    (hlast : span.last ≤ lines.length) :
    span.windowRows lines radius = span.skeleton lines radius := by
  have hwithin : ∀ window ∈ span.windows radius,
      span.first ≤ window.1 ∧ window.1 ≤ window.2 ∧ window.2 ≤ span.last :=
    fun _ hwindow => windows_within hwindow
  refine skeletonFrom_eq hfirst hlast hwithin standApart_windows ?_
  intro line hfrom hto
  exact (windowsHold_windows hfrom hto).symm

theorem sum_lineCount_skeleton (hle : span.first ≤ span.last) :
    ((span.skeleton lines radius).map WindowRow.lineCount).sum = span.lineTotal := by
  rw [skeleton, sum_lineCount_skeletonOf, length_range, lineTotal]
  omega

theorem count_line?_skeleton {line : Int}
    (hradius : 0 ≤ radius)
    (hcovered : line ∈ span.covered)
    (hfirst : span.first ≤ line)
    (hlast : line ≤ span.last) :
    ((span.skeleton lines radius).filterMap WindowRow.line?).count line = 1 := by
  have hline : line ∈ Int.range span.first (span.last + 1) :=
    Int.mem_range_iff.mpr ⟨hfirst, by omega⟩
  rw [skeleton, filterMap_line?_skeletonOf]
  refine List.count_eq_one_of_mem ((nodup_range _ _).filter _) ?_
  exact List.mem_filter.mpr ⟨hline, isNear_of_covered hradius hcovered⟩

/-- A span whose skeleton has few enough rows is shown by it. The skeleton leaves no line of the
span unaccounted for and shows each covered line once. -/
theorem windowed_eq_skeleton {maxLines : Int} (family : Family)
    (hfirst : 1 ≤ span.first)
    (hle : span.first ≤ span.last)
    (hlast : span.last ≤ lines.length)
    (hcovered : ∀ line ∈ span.covered, span.first ≤ line ∧ line ≤ span.last)
    (hradius : 0 ≤ radius)
    (hrows : ((span.skeleton lines radius).length : Int) ≤ maxLines) :
    (span.lineTotal < 10 ^ digitLimit →
        span.tryWindowed lines radius maxLines family =
          .ok (span.windowed lines radius maxLines family)) ∧
      span.windowed lines radius maxLines family =
        joinRows ((span.skeleton lines radius).map (WindowRow.render family)) ∧
      ((span.skeleton lines radius).map WindowRow.lineCount).sum = span.lineTotal ∧
      ∀ line ∈ span.covered,
        ((span.skeleton lines radius).filterMap WindowRow.line?).count line = 1 := by
  refine ⟨tryWindowed_eq_ok, ?_, ?_, ?_⟩
  · have hfits : ¬ maxLines < ((span.skeleton lines radius).length : Int) := Int.not_lt.mpr hrows
    rw [windowed, windowRows_eq_skeleton hfirst hlast, capRows, if_neg hfits]
  · exact sum_lineCount_skeleton hle
  · intro line hline
    obtain ⟨hfrom, hto⟩ := hcovered line hline
    exact count_line?_skeleton hradius hline hfrom hto

end Span

namespace SpacedChanges

def lines : List String :=
  ["import a", "def f():", "    b = 1", "    c = 2", "    d = 3", "    e = 4", "    g = 5",
    "    h = 6", "    i = 7", "    return b", "", "f()"]

/-- The first covered line is the first of the span; the windows of the other two touch. -/
def span : Span :=
  ⟨2, 11, "function", some "f", .ofList [2, 6, 9], 0⟩

theorem skeleton_eq :
    span.skeleton lines 1 =
      [.source "def f():" 2, .source "    b = 1" 3, .omitted 1, .source "    d = 3" 5,
        .source "    e = 4" 6, .source "    g = 5" 7, .source "    h = 6" 8,
        .source "    i = 7" 9, .source "    return b" 10, .omitted 1] := by
  decide +kernel

end SpacedChanges

theorem spacedChanges_windowed :
    SpacedChanges.span.tryWindowed SpacedChanges.lines 1 10 .python =
        .ok (joinRows
          ["def f():", "    b = 1", "# [diffscope:omitted lines=1]", "    d = 3", "    e = 4",
            "    g = 5", "    h = 6", "    i = 7", "    return b",
            "# [diffscope:omitted lines=1]"]) ∧
      ((SpacedChanges.span.skeleton SpacedChanges.lines 1).map WindowRow.lineCount).sum = 10 ∧
      ((SpacedChanges.span.skeleton SpacedChanges.lines 1).filterMap WindowRow.line?).count 9 =
        1 := by
  have hcovered : ∀ line ∈ SpacedChanges.span.covered,
      SpacedChanges.span.first ≤ line ∧ line ≤ SpacedChanges.span.last := by
    intro line hline
    have hmem : line ∈ [2, 6, 9] := LineSet.mem_ofList.mp hline
    simp only [List.mem_cons, List.not_mem_nil, or_false] at hmem
    simp only [SpacedChanges.span]
    omega
  have hnine : (9 : Int) ∈ SpacedChanges.span.covered := LineSet.mem_ofList.mpr (by simp)
  have hrows : ((SpacedChanges.span.skeleton SpacedChanges.lines 1).length : Int) ≤ 10 := by
    rw [SpacedChanges.skeleton_eq]
    decide
  have htotal : SpacedChanges.span.lineTotal = 10 := by decide
  have hwritable : SpacedChanges.span.lineTotal < 10 ^ digitLimit :=
    lt_pow_digitLimit_of_le_ten (Int.le_of_eq htotal)
  obtain ⟨hresult, hcode, hsum, honce⟩ :=
    Span.windowed_eq_skeleton .python (by decide) (by decide) (by decide) hcovered (by decide) hrows
  rw [SpacedChanges.skeleton_eq] at hcode
  refine ⟨?_, ?_, ?_⟩
  · rw [hresult hwritable, hcode]
    decide +kernel
  · rw [hsum, htotal]
  · exact honce 9 hnine

end ReviewContext
