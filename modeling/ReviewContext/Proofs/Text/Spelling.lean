import Mathlib.Data.List.Forall2
import ReviewContext.Text.Caseless

/-!
# Words spelled regardless of case

A word of small letters is dropped from the head of some characters exactly when they begin with
letters that spell it in some case.
-/

namespace ReviewContext.Text

/-- The letters are those of the word, each in any case. -/
def Spells (letters word : List Char) : Prop :=
  List.Forall₂ (fun c letter => matchesLetter letter c = true) letters word

theorem dropWord?_eq_some_iff {word chars rest : List Char} :
    dropWord? word chars = some rest ↔ ∃ letters, Spells letters word ∧ chars = letters ++ rest := by
  induction word generalizing chars with
  | nil => simp [dropWord?, Spells]
  | cons letter word ih =>
    constructor
    · intro hdrop
      cases chars with
      | nil => cases hdrop
      | cons c chars =>
        simp only [dropWord?] at hdrop
        split at hdrop
        · rename_i hmatches
          obtain ⟨letters, hletters, rfl⟩ := ih.mp hdrop
          exact ⟨c :: letters, .cons hmatches hletters, rfl⟩
        · cases hdrop
    · rintro ⟨_, hspells, rfl⟩
      cases hspells with
      | cons hmatches hletters =>
        rw [List.cons_append, dropWord?, if_pos hmatches]
        exact ih.mpr ⟨_, hletters, rfl⟩

theorem Spells.notMem {letters word : List Char} {c : Char}
    (hspells : Spells letters word)
    (hword : ∀ letter ∈ word, matchesLetter letter c = false) :
    c ∉ letters := by
  induction hspells with
  | nil => simp
  | @cons other letter letters word hmatches _ ih =>
    have hother : c ≠ other := by
      rintro rfl
      simp [hword letter List.mem_cons_self] at hmatches
    have hletters := ih fun letter hletter => hword letter (List.mem_cons_of_mem _ hletter)
    simp [hother, hletters]

theorem spells_self (word : List Char) : Spells word word := by
  rw [Spells, List.forall₂_same]
  intro letter _
  simp [matchesLetter]

theorem dropWord?_append (word rest : List Char) : dropWord? word (word ++ rest) = some rest :=
  dropWord?_eq_some_iff.mpr ⟨word, spells_self word, rfl⟩

end ReviewContext.Text
