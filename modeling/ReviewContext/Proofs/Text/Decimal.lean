import Mathlib.Algebra.Group.Int.Defs
import Mathlib.Algebra.Group.Nat.Defs
import ReviewContext.Text.Numeral

/-!
# Decimal digits written and read

The digits that write a natural number are digits of the first script of the table, and reading
them gives the number back.
-/

namespace ReviewContext.Text

theorem digitValue?_of_ascii {c : Char} (hlow : 48 ≤ c.toNat) (hhigh : c.toNat ≤ 57) :
    digitValue? c = some (c.toNat - 48) := by
  have hfirst : (decide (48 ≤ c.toNat) && decide (c.toNat < 48 + 10)) = true := by
    simp only [Bool.and_eq_true, decide_eq_true_eq]
    omega
  obtain ⟨others, hzeros⟩ : ∃ others, digitZeros = 48 :: others := ⟨_, rfl⟩
  rw [digitValue?, hzeros, List.find?_cons]
  simp only [hfirst, Option.map_some]

theorem ascii_of_mem_naturalDigits {n : Nat} {c : Char} (hc : c ∈ naturalDigits n) :
    48 ≤ c.toNat ∧ c.toNat ≤ 57 := by
  have hdigit : c.isDigit = true := Nat.isDigit_of_mem_toDigits (by decide) (by decide) hc
  exact Char.isDigit_iff_toNat.mp hdigit

theorem isDigit_of_mem_naturalDigits {n : Nat} {c : Char} (hc : c ∈ naturalDigits n) :
    isDigit c = true := by
  obtain ⟨hlow, hhigh⟩ := ascii_of_mem_naturalDigits hc
  rw [isDigit, digitValue?_of_ascii hlow hhigh, Option.isSome_some]

theorem feed_notMem_naturalDigits (n : Nat) : '\n' ∉ naturalDigits n := by
  intro hmem
  have hascii := (ascii_of_mem_naturalDigits hmem).1
  simp at hascii

theorem naturalDigits_ne_nil (n : Nat) : naturalDigits n ≠ [] :=
  Nat.toDigits_ne_nil

theorem foldl_digitValue_of_ascii
    {digits : List Char}
    (hascii : ∀ c ∈ digits, 48 ≤ c.toNat ∧ c.toNat ≤ 57)
    (start : Nat) :
    digits.foldl (fun value c => value * 10 + (digitValue? c).getD 0) start =
      Nat.ofDigitChars 10 digits start := by
  induction digits generalizing start with
  | nil => simp
  | cons c rest ih =>
    obtain ⟨hlow, hhigh⟩ := hascii c (by simp)
    have hzero : '0'.toNat = 48 := by decide
    rw [List.foldl_cons, ih (fun d hd => hascii d (by simp [hd])), Nat.ofDigitChars_cons,
      digitValue?_of_ascii hlow hhigh, Option.getD_some, hzero, Nat.mul_comm start 10]

theorem digitsValue_naturalDigits (n : Nat) : digitsValue (naturalDigits n) = n := by
  rw [digitsValue, foldl_digitValue_of_ascii fun c hc => ascii_of_mem_naturalDigits hc,
    naturalDigits, Nat.ofDigitChars_ten_toDigits]

theorem readDigits_naturalDigits {n : Nat} (hn : isWritable n = true) :
    readDigits (naturalDigits n) = .ok n := by
  have hlength : (naturalDigits n).length ≤ digitLimit := by
    simpa [isWritable] using hn
  rw [readDigits, if_pos hlength, digitsValue_naturalDigits]

/-! ## Numbers of digits -/

theorem length_naturalDigits_le_iff {n count : Nat} (hcount : 0 < count) :
    (naturalDigits n).length ≤ count ↔ n < 10 ^ count :=
  Nat.length_toDigits_le_iff (by decide) hcount

theorem length_naturalDigits_mono {m n : Nat} (hle : m ≤ n) :
    (naturalDigits m).length ≤ (naturalDigits n).length := by
  have hpos : 0 < (naturalDigits n).length := List.length_pos_iff.mpr (naturalDigits_ne_nil n)
  have hn : n < 10 ^ (naturalDigits n).length :=
    (length_naturalDigits_le_iff hpos).mp (Nat.le_refl _)
  exact (length_naturalDigits_le_iff hpos).mpr (Nat.lt_of_le_of_lt hle hn)

theorem isWritable_of_lt {n : Int} (hn : 0 ≤ n) (hlt : n < 10 ^ digitLimit) :
    isWritable n = true := by
  obtain ⟨m, rfl⟩ := Int.eq_ofNat_of_zero_le hn
  have hpos : 0 < digitLimit := by decide
  have hm : (m : Int) < ((10 ^ digitLimit : Nat) : Int) := by
    rw [Int.natCast_pow]
    exact hlt
  rw [isWritable, Int.natAbs_natCast, decide_eq_true_eq]
  exact (length_naturalDigits_le_iff hpos).mpr (Int.ofNat_lt.mp hm)

theorem lt_pow_digitLimit_of_le_ten {n : Int} (hn : n ≤ 10) : n < 10 ^ digitLimit := by
  have hpow : (10 : Int) ^ 1 < 10 ^ digitLimit := Int.pow_lt_pow_of_lt (by decide) (by decide)
  exact Int.lt_of_le_of_lt hn hpow

theorem length_numeral_mono {m n : Int} (hm : 0 ≤ m) (hle : m ≤ n) :
    (numeral m).length ≤ (numeral n).length := by
  have hnotM : ¬ m < 0 := by omega
  have hnotN : ¬ n < 0 := by omega
  have habs : m.natAbs ≤ n.natAbs := by omega
  simpa [numeral, integerDigits, hnotM, hnotN] using length_naturalDigits_mono habs

/-! ## Integers -/

theorem integerDigits_natCast (n : Nat) : integerDigits n = naturalDigits n := by
  simp [integerDigits]

theorem notMem_integerDigits {c : Char}
    (hsign : c ≠ '-')
    (hdigit : ¬ (48 ≤ c.toNat ∧ c.toNat ≤ 57))
    (n : Int) :
    c ∉ integerDigits n := by
  have hdigits : c ∉ naturalDigits n.natAbs := fun hc => hdigit (ascii_of_mem_naturalDigits hc)
  unfold integerDigits
  split
  · simp [hsign, hdigits]
  · exact hdigits

theorem feed_notMem_integerDigits (n : Int) : '\n' ∉ integerDigits n :=
  notMem_integerDigits (by decide) (by decide) n

theorem feed_notMem_numeral (n : Int) : '\n' ∉ (numeral n).toList := by
  rw [numeral, String.toList_ofList]
  exact feed_notMem_integerDigits n

end ReviewContext.Text
