import ReviewContext.Block.Window

/-!
# Merged windows

Merging leaves windows with at least one line between neighbours. Together they hold the lines
within the radius of one of the given lines and no others, whatever the order in which these are
given.
-/

namespace ReviewContext

/-- Between a window and each later one lies at least one line. -/
def StandApart (windows : List (Int × Int)) : Prop :=
  windows.Pairwise fun window later => window.2 + 1 < later.1

def WindowsHold (windows : List (Int × Int)) (line : Int) : Prop :=
  ∃ window ∈ windows, window.1 ≤ line ∧ line ≤ window.2

theorem windowsHold_cons {window : Int × Int} {windows : List (Int × Int)} {line : Int} :
    WindowsHold (window :: windows) line ↔
      window.1 ≤ line ∧ line ≤ window.2 ∨ WindowsHold windows line := by
  simp [WindowsHold]

section Merge

variable {radius first last : Int} {lines : List Int}

theorem first_le_of_mem_mergeInto {window : Int × Int}
    (hfirst : ∀ line ∈ lines, first ≤ line - radius)
    (hascending : lines.Pairwise (· ≤ ·))
    (hwindow : window ∈ mergeInto radius first last lines) :
    first ≤ window.1 := by
  induction lines generalizing first last with
  | nil =>
    rw [mergeInto, List.mem_singleton] at hwindow
    subst hwindow
    exact Int.le_refl _
  | cons line rest ih =>
    obtain ⟨hline, hrest⟩ := List.pairwise_cons.mp hascending
    have hopen : first ≤ line - radius := hfirst line List.mem_cons_self
    rw [mergeInto] at hwindow
    by_cases htouches : line - radius ≤ last + 1
    · rw [if_pos htouches] at hwindow
      refine ih ?_ hrest hwindow
      intro other hother
      exact hfirst other (List.mem_cons_of_mem _ hother)
    · rw [if_neg htouches] at hwindow
      rcases List.mem_cons.mp hwindow with rfl | hlater
      · exact Int.le_refl _
      · have hbehind : line - radius ≤ window.1 := by
          refine ih ?_ hrest hlater
          intro other hother
          have hle := hline other hother
          omega
        omega

theorem standApart_mergeInto
    (hascending : lines.Pairwise (· ≤ ·)) :
    StandApart (mergeInto radius first last lines) := by
  induction lines generalizing first last with
  | nil => exact List.pairwise_singleton _ _
  | cons line rest ih =>
    obtain ⟨hline, hrest⟩ := List.pairwise_cons.mp hascending
    rw [mergeInto]
    by_cases htouches : line - radius ≤ last + 1
    · rw [if_pos htouches]
      exact ih hrest
    · rw [if_neg htouches]
      refine List.pairwise_cons.mpr ⟨?_, ih hrest⟩
      intro later hlater
      have hbehind : line - radius ≤ later.1 := by
        refine first_le_of_mem_mergeInto ?_ hrest hlater
        intro other hother
        have hle := hline other hother
        omega
      dsimp only
      omega

theorem windowsHold_mergeInto {line : Int}
    (hfirst : ∀ other ∈ lines, first ≤ other - radius)
    (hascending : lines.Pairwise (· ≤ ·)) :
    WindowsHold (mergeInto radius first last lines) line ↔
      first ≤ line ∧ line ≤ last ∨
        ∃ other ∈ lines, other - radius ≤ line ∧ line ≤ other + radius := by
  induction lines generalizing first last with
  | nil => simp [mergeInto, WindowsHold]
  | cons head rest ih =>
    obtain ⟨hhead, hrest⟩ := List.pairwise_cons.mp hascending
    have hopen : first ≤ head - radius := hfirst head List.mem_cons_self
    rw [mergeInto]
    simp only [List.mem_cons, exists_eq_or_imp]
    by_cases htouches : head - radius ≤ last + 1
    · -- The open window and the one that touches it hold no line between them.
      have hboth :
          first ≤ line ∧ line ≤ max last (head + radius) ↔
            first ≤ line ∧ line ≤ last ∨ head - radius ≤ line ∧ line ≤ head + radius := by
        omega
      have hfirstRest : ∀ other ∈ rest, first ≤ other - radius := fun other hother =>
        hfirst other (List.mem_cons_of_mem _ hother)
      rw [if_pos htouches, ih hfirstRest hrest, hboth, or_assoc]
    · have hfirstRest : ∀ other ∈ rest, head - radius ≤ other - radius := by
        intro other hother
        have hle := hhead other hother
        omega
      rw [if_neg htouches, windowsHold_cons, ih hfirstRest hrest]

end Merge

theorem pairwise_sorted (lines : List Int) :
    (lines.mergeSort fun a b => decide (a ≤ b)).Pairwise (· ≤ ·) := by
  have hsorted : (lines.mergeSort fun a b => decide (a ≤ b)).Pairwise
      fun a b => decide (a ≤ b) = true := by
    apply List.pairwise_mergeSort
    · intro a b c hab hbc
      rw [decide_eq_true_eq] at *
      omega
    · intro a b
      rw [Bool.or_eq_true, decide_eq_true_eq, decide_eq_true_eq]
      omega
  simpa only [decide_eq_true_eq] using hsorted

theorem standApart_mergeWindows (lines : List Int) (radius : Int) :
    StandApart (mergeWindows lines radius) := by
  have hsorted := pairwise_sorted lines
  unfold mergeWindows
  cases hsort : lines.mergeSort fun a b => decide (a ≤ b) with
  | nil => exact List.Pairwise.nil
  | cons line rest =>
    rw [hsort] at hsorted
    exact standApart_mergeInto (List.pairwise_cons.mp hsorted).2

theorem windowsHold_mergeWindows {lines : List Int} {radius line : Int} :
    WindowsHold (mergeWindows lines radius) line ↔
      ∃ other ∈ lines, other - radius ≤ line ∧ line ≤ other + radius := by
  have hsorted := pairwise_sorted lines
  have hmem (other : Int) : other ∈ lines ↔ other ∈ lines.mergeSort fun a b => decide (a ≤ b) :=
    List.mem_mergeSort.symm
  simp only [hmem]
  unfold mergeWindows
  cases hsort : lines.mergeSort fun a b => decide (a ≤ b) with
  | nil => simp [WindowsHold]
  | cons head rest =>
    rw [hsort] at hsorted
    obtain ⟨hhead, hrest⟩ := List.pairwise_cons.mp hsorted
    have hfirst : ∀ other ∈ rest, head - radius ≤ other - radius := by
      intro other hother
      have hle := hhead other hother
      omega
    simp only [List.mem_cons, exists_eq_or_imp]
    exact windowsHold_mergeInto hfirst hrest

end ReviewContext
