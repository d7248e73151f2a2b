/-!
# Slices

A slice runs from a start to a stop position. A negative position counts from the end, and both
ends are clipped to the list, so every pair of integers names a slice, possibly the empty one.
-/

namespace ReviewContext.Text

/-- The place in a list of the given length that a position names. -/
def slicePosition (length : Nat) (position : Int) : Nat :=
  if position < 0 then (length + position).toNat else min position.toNat length

def slice {α : Type} (xs : List α) (start stop : Int) : List α :=
  (xs.take (slicePosition xs.length stop)).drop (slicePosition xs.length start)

/-- The part of a text before a position. -/
def sliceTo (text : String) (stop : Int) : String :=
  String.ofList (slice text.toList 0 stop)

theorem slice_of_nonneg {α : Type}
    (xs : List α)
    (start stop : Nat) :
    slice xs start stop = (xs.take stop).drop start := by
  have hstart : ¬ ((start : Int) < 0) := by omega
  have hstop : ¬ ((stop : Int) < 0) := by omega
  simp only [slice, slicePosition, hstart, hstop, if_false, Int.toNat_natCast]
  rcases Nat.le_total stop xs.length with h | h
  · rw [Nat.min_eq_left h]
    rcases Nat.le_total start xs.length with h' | h'
    · rw [Nat.min_eq_left h']
    · rw [Nat.min_eq_right h', List.drop_eq_nil_of_le (by rw [List.length_take]; omega),
        List.drop_eq_nil_of_le (by rw [List.length_take]; omega)]
  · rw [Nat.min_eq_right h, List.take_of_length_le h, List.take_of_length_le (Nat.le_refl _)]
    rcases Nat.le_total start xs.length with h' | h'
    · rw [Nat.min_eq_left h']
    · rw [Nat.min_eq_right h', List.drop_eq_nil_of_le (Nat.le_refl _), List.drop_eq_nil_of_le h']

theorem length_slice_le {α : Type} (xs : List α) {start stop : Int}
    (hstart : 0 ≤ start)
    (hstop : start ≤ stop) :
    ((slice xs start stop).length : Int) ≤ stop - start := by
  obtain ⟨first, rfl⟩ := Int.eq_ofNat_of_zero_le hstart
  obtain ⟨last, rfl⟩ := Int.eq_ofNat_of_zero_le (Int.le_trans hstart hstop)
  rw [slice_of_nonneg, List.length_drop, List.length_take]
  omega

theorem length_sliceTo_le (text : String) {stop : Int} (hstop : 0 ≤ stop) :
    ((sliceTo text stop).length : Int) ≤ stop := by
  have hlength := length_slice_le text.toList (Int.le_refl 0) hstop
  rw [sliceTo, String.length_ofList]
  omega

theorem slice_subset {α : Type} (xs : List α) (start stop : Int) : slice xs start stop ⊆ xs := by
  intro x hx
  exact List.mem_of_mem_take (List.mem_of_mem_drop hx)

end ReviewContext.Text
