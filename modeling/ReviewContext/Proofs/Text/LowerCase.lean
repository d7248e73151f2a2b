import ReviewContext.Text.Blank
import ReviewContext.Text.Lower

/-!
# Lower case as a form

Lower case turns every character into small ones, which it leaves alone wherever they stand, so a
text in lower case stays as it is. The images of the capitals lie apart from all capitals and from
all blanks, which is a matter of the table of runs, so that no blank arises either.
-/

namespace ReviewContext.Text

/-! ## The table of runs -/

/-- Capitals in a row: first, last, step, distance. -/
abbrev CaseRun := Nat × Nat × Nat × Int

namespace CaseRun

def firstImage (run : CaseRun) : Nat :=
  (run.1 + run.2.2.2).toNat

def lastImage (run : CaseRun) : Nat :=
  (run.2.1 + run.2.2.2).toNat

def holds (run : CaseRun) (code : Nat) : Bool :=
  run.1 ≤ code && code ≤ run.2.1 && (code - run.1) % run.2.2.1 == 0

-- Every run is checked against every other one, so the comparisons are those that evaluate fastest.

/-- No image of the run lies in a range. -/
def missesRange (run : CaseRun) (range : Nat × Nat) : Bool :=
  Nat.blt run.lastImage range.1 || Nat.blt range.2 run.firstImage

/-- No image of the run is a capital of another one: they lie apart, or between each other. -/
def missesRun (run other : CaseRun) : Bool :=
  run.missesRange (other.1, other.2.1) ||
    (Nat.beq other.2.2.1 2 && (Nat.beq run.2.2.1 2 || Nat.beq run.1 run.2.1) &&
      Nat.beq ((run.firstImage + other.1) % 2) 1)

variable {run other : CaseRun} {code : Nat}

theorem image_bounds (hholds : run.holds code = true) :
    run.firstImage ≤ (code + run.2.2.2).toNat ∧ (code + run.2.2.2).toNat ≤ run.lastImage := by
  simp only [holds, Bool.and_eq_true, decide_eq_true_eq] at hholds
  simp only [firstImage, lastImage]
  omega

theorem notMem_range_of_missesRange {range : Nat × Nat}
    (hholds : run.holds code = true)
    (hmisses : run.missesRange range = true) :
    ¬ (range.1 ≤ (code + run.2.2.2).toNat ∧ (code + run.2.2.2).toNat ≤ range.2) := by
  obtain ⟨hfirst, hlast⟩ := image_bounds hholds
  simp only [missesRange, Bool.or_eq_true, Nat.blt_eq] at hmisses
  omega

theorem holds_image_eq_false (hdistance : 0 ≤ run.1 + run.2.2.2)
    (hholds : run.holds code = true)
    (hmisses : run.missesRun other = true) :
    other.holds (code + run.2.2.2).toNat = false := by
  rw [missesRun, Bool.or_eq_true] at hmisses
  rcases hmisses with hapart | hbetween
  · have hrange := notMem_range_of_missesRange hholds hapart
    simp only [holds, Bool.and_eq_false_iff, decide_eq_false_iff_not]
    dsimp only at hrange
    omega
  · -- both runs take every second code, and the images start on the other parity
    simp only [Bool.and_eq_true, Bool.or_eq_true, Nat.beq_eq, firstImage] at hbetween
    obtain ⟨⟨hother, hstep⟩, hparity⟩ := hbetween
    simp only [holds, Bool.and_eq_true, decide_eq_true_eq, beq_iff_eq] at hholds
    obtain ⟨⟨hfirst, hlast⟩, hmod⟩ := hholds
    rw [Bool.eq_false_iff]
    intro hcapital
    simp only [holds, Bool.and_eq_true, decide_eq_true_eq, beq_iff_eq, hother] at hcapital
    rcases hstep with htwo | hsingle
    · rw [htwo] at hmod
      omega
    · omega

end CaseRun

/-- The dotted capital, which has no image in the table, and the blanks. -/
def unmappedRanges : CodeRanges :=
  (0x130, 0x130) :: blankRanges

/-- What the table has to be like. -/
theorem lowerRuns_apart :
    (lowerRuns.all fun run =>
      0 ≤ run.1 + run.2.2.2 && unmappedRanges.all (CaseRun.missesRange run) &&
        lowerRuns.all (CaseRun.missesRun run)) = true := by
  decide +kernel

theorem lowerCode_eq (code : Nat) :
    lowerCode code = code ∨
      ∃ run ∈ lowerRuns, CaseRun.holds run code = true ∧
        lowerCode code = (code + run.2.2.2).toNat := by
  unfold lowerCode
  split
  · rename_i first last step distance hfind
    have hholds : CaseRun.holds (first, last, step, distance) code = true := by
      simpa [CaseRun.holds] using List.find?_some hfind
    exact .inr ⟨_, List.mem_of_find?_eq_some hfind, hholds, rfl⟩
  · exact .inl rfl

theorem lowerCode_of_not_holds {code : Nat}
    (hnone : ∀ run ∈ lowerRuns, CaseRun.holds run code = false) :
    lowerCode code = code := by
  rcases lowerCode_eq code with hsame | ⟨run, hrun, hholds, -⟩
  · exact hsame
  · rw [hnone run hrun] at hholds
    cases hholds

/-- A code that lower case leaves alone, or a small form of one that it does not. -/
theorem lowerCode_cases (code : Nat) :
    lowerCode code = code ∨
      lowerCode (lowerCode code) = lowerCode code ∧
        ∀ range ∈ unmappedRanges, ¬ (range.1 ≤ lowerCode code ∧ lowerCode code ≤ range.2) := by
  rcases lowerCode_eq code with hsame | ⟨run, hrun, hholds, himage⟩
  · exact .inl hsame
  · have hapart := List.all_eq_true.mp lowerRuns_apart run hrun
    simp only [Bool.and_eq_true, decide_eq_true_eq, List.all_eq_true] at hapart
    obtain ⟨⟨hdistance, hranges⟩, hruns⟩ := hapart
    rw [himage]
    refine .inr ⟨?_, fun range hrange => ?_⟩
    · exact lowerCode_of_not_holds fun other hother =>
        CaseRun.holds_image_eq_false hdistance hholds (hruns other hother)
    · exact CaseRun.notMem_range_of_missesRange hholds (hranges range hrange)

/-! ## Small characters -/

/-- A character that lower case leaves alone wherever it stands. -/
structure IsSmall (c : Char) : Prop where
  ne_dottedCapitalI : c ≠ dottedCapitalI
  lowerCode_eq : lowerCode c.toNat = c.toNat

theorem IsSmall.ne_capitalSigma {c : Char} (hsmall : IsSmall c) : c ≠ capitalSigma := by
  rintro rfl
  exact absurd hsmall.lowerCode_eq (by decide +kernel)

theorem lowerCharIn_of_isSmall {c : Char} (hsmall : IsSmall c) (before after : List Char) :
    lowerCharIn before c after = [c] := by
  rw [lowerCharIn, if_neg hsmall.ne_capitalSigma, if_neg hsmall.ne_dottedCapitalI,
    hsmall.lowerCode_eq, Char.ofNat_toNat]

theorem lowerFrom_of_isSmall {chars : List Char} (hsmall : ∀ c ∈ chars, IsSmall c)
    (before : List Char) :
    lowerFrom before chars = chars := by
  induction chars generalizing before with
  | nil => rfl
  | cons c after ih =>
    rw [lowerFrom, lowerCharIn_of_isSmall (hsmall c List.mem_cons_self),
      ih fun other hother => hsmall other (List.mem_cons_of_mem _ hother)]
    rfl

theorem lowerChars_of_isSmall {chars : List Char} (hsmall : ∀ c ∈ chars, IsSmall c) :
    lowerChars chars = chars :=
  lowerFrom_of_isSmall hsmall []

/-- The character of a code that lower case leaves alone, apart from the unmapped ranges. -/
theorem isSmall_ofNat {code : Nat}
    (hstays : lowerCode code = code)
    (hapart : ∀ range ∈ unmappedRanges, ¬ (range.1 ≤ code ∧ code ≤ range.2)) :
    IsSmall (Char.ofNat code) ∧ isBlankChar (Char.ofNat code) = false := by
  by_cases hvalid : code.isValidChar
  · have hcode : (Char.ofNat code).toNat = code := by
      rw [Char.ofNat, dif_pos hvalid]
      rfl
    refine ⟨⟨?_, by rw [hcode, hstays]⟩, ?_⟩
    · rintro hdotted
      have hrange := hapart (0x130, 0x130) List.mem_cons_self
      rw [← hcode, hdotted] at hrange
      exact hrange (by decide)
    · rw [isBlankChar, CodeRanges.contains, hcode, List.any_eq_false]
      intro range hrange
      simpa using hapart range (List.mem_cons_of_mem _ hrange)
  · have hzero : Char.ofNat code = Char.ofNat 0 := by
      rw [Char.ofNat, dif_neg hvalid]
      rfl
    rw [hzero]
    exact ⟨⟨by decide, by decide +kernel⟩, by decide⟩

/-- What lower case may put in the place of a character: the character itself, or a small one that
is not blank. -/
theorem mem_lowerCharIn {before after : List Char} {c small : Char}
    (hmem : small ∈ lowerCharIn before c after) :
    IsSmall small ∧ (small = c ∨ isBlankChar small = false) := by
  unfold lowerCharIn at hmem
  split at hmem
  · have hsigma : small = finalSigma ∨ small = smallSigma := by
      rw [List.mem_singleton] at hmem
      split at hmem
      · exact .inl hmem
      · exact .inr hmem
    rcases hsigma with rfl | rfl <;> exact ⟨⟨by decide, by decide +kernel⟩, .inr (by decide)⟩
  · split at hmem
    · simp only [List.mem_cons, List.not_mem_nil, or_false] at hmem
      rcases hmem with rfl | rfl <;> exact ⟨⟨by decide, by decide +kernel⟩, .inr (by decide)⟩
    · rename_i hdotted
      rw [List.mem_singleton] at hmem
      rcases lowerCode_cases c.toNat with hsame | ⟨hstays, hapart⟩
      · rw [hsame, Char.ofNat_toNat] at hmem
        subst hmem
        exact ⟨⟨hdotted, hsame⟩, .inl rfl⟩
      · subst hmem
        obtain ⟨hsmall, hvisible⟩ := isSmall_ofNat hstays hapart
        exact ⟨hsmall, .inr hvisible⟩

theorem isSmall_of_mem_lowerFrom {before chars : List Char} {c : Char}
    (hmem : c ∈ lowerFrom before chars) :
    IsSmall c := by
  induction chars generalizing before with
  | nil => simp [lowerFrom] at hmem
  | cons first after ih =>
    rw [lowerFrom, List.mem_append] at hmem
    rcases hmem with hhead | hrest
    · exact (mem_lowerCharIn hhead).1
    · exact ih hrest

/-! ## The last character -/

theorem lowerCharIn_ne_nil (before : List Char) (c : Char) (after : List Char) :
    lowerCharIn before c after ≠ [] := by
  unfold lowerCharIn
  split
  · simp
  · split <;> simp

theorem lowerFrom_ne_nil (before : List Char) {chars : List Char} (hne : chars ≠ []) :
    lowerFrom before chars ≠ [] := by
  cases chars with
  | nil => exact absurd rfl hne
  | cons c after => simp [lowerFrom, lowerCharIn_ne_nil]

/-- Where the last character of a text is not blank, neither is the last one in lower case. -/
theorem isBlankChar_last_lowerFrom {before chars : List Char}
    (hlast : ∀ c ∈ chars.getLast?, isBlankChar c = false) :
    ∀ c ∈ (lowerFrom before chars).getLast?, isBlankChar c = false := by
  induction chars generalizing before with
  | nil => simp [lowerFrom]
  | cons first after ih =>
    intro c hc
    cases after with
    | nil =>
      rw [lowerFrom, lowerFrom, List.append_nil] at hc
      rcases (mem_lowerCharIn (List.mem_of_getLast? hc)).2 with rfl | hvisible
      · exact hlast c rfl
      · exact hvisible
    | cons second rest =>
      have hsome : (lowerFrom (first :: before) (second :: rest)).getLast?.isSome = true := by
        simpa using lowerFrom_ne_nil (first :: before) (List.cons_ne_nil second rest)
      rw [lowerFrom, List.getLast?_append, Option.or_of_isSome hsome] at hc
      exact ih hlast c hc

end ReviewContext.Text
