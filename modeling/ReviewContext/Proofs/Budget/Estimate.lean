import Mathlib.Data.Rat.Floor
import Mathlib.Tactic.Linarith
import Mathlib.Tactic.NormNum.OfScientific
import ReviewContext.Budget.Tokens

/-!
# The estimate as a size

The tokens of a text are estimated by a sum over its characters that is rounded up once. Two texts
that are joined share one rounding, which saves at most one token and never costs one. A text from
which characters are taken out weighs no more than before, so a budget with room for the whole text
has room for what is left of it.
-/

namespace ReviewContext

def wideCount (text : String) : Nat :=
  text.toList.countP isWide

def narrowCount (text : String) : Nat :=
  text.length - wideCount text

/-- The estimate of a text before it is rounded up, with exact quotients. -/
def unroundedTokens (text : String) : Rat :=
  wideCount text / 1.5 + narrowCount text / 4

/-! ## Weights of characters -/

@[simp] theorem weightOf_nil : weightOf [] = 0 :=
  rfl

@[simp] theorem weightOf_cons (c : Char) (rest : List Char) :
    weightOf (c :: rest) = weight c + weightOf rest :=
  rfl

theorem weightOf_append (front rest : List Char) :
    weightOf (front ++ rest) = weightOf front + weightOf rest := by
  induction front with
  | nil => simp
  | cons c front ih => simp [ih, Nat.add_assoc]

theorem weightOf_le_of_sublist {part whole : List Char} (hpart : part.Sublist whole) :
    weightOf part ≤ weightOf whole := by
  induction hpart with
  | slnil => exact Nat.le_refl _
  | cons c _ ih =>
    rw [weightOf_cons]
    exact Nat.le_add_left_of_le ih
  | cons_cons c _ ih =>
    rw [weightOf_cons, weightOf_cons]
    exact Nat.add_le_add_left ih (weight c)

theorem weightOf_eq_countP (chars : List Char) :
    weightOf chars = 8 * chars.countP isWide + 3 * (chars.length - chars.countP isWide) := by
  induction chars with
  | nil => rfl
  | cons c rest ih =>
    have hcount : rest.countP isWide ≤ rest.length := List.countP_le_length
    by_cases hwide : isWide c
    · rw [weightOf_cons, ih, weight, if_pos hwide, List.countP_cons_of_pos hwide, List.length_cons]
      omega
    · rw [weightOf_cons, ih, weight, if_neg hwide, List.countP_cons_of_neg hwide, List.length_cons]
      omega

theorem weightOf_toList (text : String) :
    weightOf text.toList = 8 * wideCount text + 3 * narrowCount text := by
  rw [weightOf_eq_countP, String.length_toList]
  rfl

/-! ## The exact sum of quotients -/

theorem unroundedTokens_eq_weightOf (text : String) :
    unroundedTokens text = weightOf text.toList / 12 := by
  rw [weightOf_toList, unroundedTokens]
  push_cast
  ring

theorem unroundedTokens_append (left right : String) :
    unroundedTokens (left ++ right) = unroundedTokens left + unroundedTokens right := by
  simp only [unroundedTokens_eq_weightOf, String.toList_append, weightOf_append, Nat.cast_add]
  ring

theorem unroundedTokens_le_of_sublist {part whole : String}
    (hpart : part.toList.Sublist whole.toList) :
    unroundedTokens part ≤ unroundedTokens whole := by
  have hweight : (weightOf part.toList : Rat) ≤ weightOf whole.toList :=
    Nat.cast_le.mpr (weightOf_le_of_sublist hpart)
  rw [unroundedTokens_eq_weightOf, unroundedTokens_eq_weightOf]
  linarith

/-! ## The sum rounded up -/

theorem weightOf_le_estimateTokens (text : String) :
    weightOf text.toList ≤ 12 * estimateTokens text := by
  rw [estimateTokens]
  omega

theorem estimateTokens_lt_weightOf (text : String) :
    12 * estimateTokens text < weightOf text.toList + 12 := by
  rw [estimateTokens]
  omega

theorem estimateTokens_eq_ceil (text : String) :
    (estimateTokens text : Int) = ⌈unroundedTokens text⌉ := by
  have hupper : (weightOf text.toList : Rat) ≤ 12 * estimateTokens text := by
    exact_mod_cast weightOf_le_estimateTokens text
  have hlower : (12 * estimateTokens text : Rat) < weightOf text.toList + 12 := by
    exact_mod_cast estimateTokens_lt_weightOf text
  symm
  rw [Int.ceil_eq_iff, unroundedTokens_eq_weightOf, Int.cast_natCast]
  constructor <;> linarith

theorem estimateTokens_append_le (left right : String) :
    estimateTokens (left ++ right) ≤ estimateTokens left + estimateTokens right := by
  have hceil := Int.ceil_add_le (unroundedTokens left) (unroundedTokens right)
  rw [← unroundedTokens_append] at hceil
  simp only [← estimateTokens_eq_ceil] at hceil
  exact_mod_cast hceil

theorem add_le_estimateTokens_append (left right : String) :
    estimateTokens left + estimateTokens right ≤ estimateTokens (left ++ right) + 1 := by
  have hceil := Int.ceil_add_ceil_le (unroundedTokens left) (unroundedTokens right)
  rw [← unroundedTokens_append] at hceil
  simp only [← estimateTokens_eq_ceil] at hceil
  exact_mod_cast hceil

example : estimateTokens "a" + estimateTokens "b" = estimateTokens ("a" ++ "b") + 1 := by decide

theorem estimateTokens_le_of_sublist {part whole : String}
    (hpart : part.toList.Sublist whole.toList) :
    estimateTokens part ≤ estimateTokens whole := by
  have hceil := Int.ceil_le_ceil (unroundedTokens_le_of_sublist hpart)
  rw [← estimateTokens_eq_ceil, ← estimateTokens_eq_ceil] at hceil
  exact Int.ofNat_le.mp hceil

/-! ## Budgets -/

namespace Budget

theorem available_le_of_le (budget : Budget) {few many : Int} (hle : few ≤ many) :
    budget.available many ≤ budget.available few := by
  unfold available
  omega

/-- A text fits if it leaves something: a budget that is just used up is exceeded. -/
theorem fits_iff_available_pos (budget : Budget) (text : String) :
    budget.fits text = true ↔ 0 < budget.available (estimateTokens text) := by
  have hnonneg : 0 ≤ budget.available (estimateTokens text) := Int.le_max_left _ _
  rw [fits, isExceeded, Bool.not_eq_true', beq_eq_false_iff_ne]
  omega

theorem fits_of_estimateTokens_le {budget : Budget} {part whole : String}
    (hle : estimateTokens part ≤ estimateTokens whole)
    (hwhole : budget.fits whole = true) :
    budget.fits part = true := by
  rw [fits_iff_available_pos] at hwhole ⊢
  exact Int.lt_of_lt_of_le hwhole (budget.available_le_of_le (Int.ofNat_le.mpr hle))

end Budget

/-- The estimate is the exact sum rounded up. Two texts that are joined are estimated at what they
are estimated at one by one, or at one token less, so they leave at least the room that both would
leave. A text from which characters are taken out is estimated at no more than before, and it fits
where it fitted. -/
theorem estimateTokens_isSize {part whole : String} (left right : String) (budget : Budget)
    (hpart : part.toList.Sublist whole.toList) :
    (estimateTokens whole : Int) = ⌈unroundedTokens whole⌉ ∧
      (estimateTokens left + estimateTokens right - 1 : Int) ≤ estimateTokens (left ++ right) ∧
      estimateTokens (left ++ right) ≤ estimateTokens left + estimateTokens right ∧
      budget.available (estimateTokens left + estimateTokens right) ≤
        budget.available (estimateTokens (left ++ right)) ∧
      estimateTokens part ≤ estimateTokens whole ∧
      (budget.fits whole = true → budget.fits part = true) := by
  have hupper := estimateTokens_append_le left right
  have hlower := add_le_estimateTokens_append left right
  have hless := estimateTokens_le_of_sublist hpart
  refine ⟨estimateTokens_eq_ceil whole, by omega, hupper, ?_, hless, ?_⟩
  · exact budget.available_le_of_le (by omega)
  · exact Budget.fits_of_estimateTokens_le hless

/-- A text of both scripts that leaves one token of its budget, and a part of it; and two texts that
take one token each and one together. -/
theorem mixedText_isSize :
    "文b".toList.Sublist "中文ab".toList ∧
      (Budget.mk 5 2).fits "中文ab" = true ∧
      (2 : Int) = ⌈unroundedTokens "中文ab"⌉ ∧
      (1 + 1 - 1 : Int) ≤ estimateTokens ("注" ++ "a") ∧
      estimateTokens ("注" ++ "a") ≤ 1 + 1 ∧
      (Budget.mk 5 2).available (1 + 1) ≤ (Budget.mk 5 2).available 1 ∧
      estimateTokens "文b" ≤ 2 ∧
      (Budget.mk 5 2).fits "文b" = true := by
  have hpart : "文b".toList.Sublist "中文ab".toList := by decide
  have hwhole : (Budget.mk 5 2).fits "中文ab" = true := by decide
  obtain ⟨hceil, hlower, hupper, havailable, hless, hfits⟩ :=
    estimateTokens_isSize "注" "a" (Budget.mk 5 2) hpart
  exact ⟨hpart, hwhole, hceil, hlower, hupper, havailable, hless, hfits hwhole⟩

end ReviewContext
