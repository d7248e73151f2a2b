import ReviewContext.Proofs.Text.LowerCase
import ReviewContext.Settings.Extension

/-!
# Normalized extensions

Normalizing trims an extension before it takes off the dots in front, so a blank behind these dots
stays and would be trimmed the second time, and an extension of dots alone becomes the empty one and
would be left out. Every other normalized extension is left as it is.
-/

namespace ReviewContext

open ReviewContext.Text

/-! ## Trimming -/

namespace Text

theorem dropWhile_eq_self {test : Char → Bool} {chars : List Char}
    (hhead : ∀ c ∈ chars.head?, test c = false) :
    chars.dropWhile test = chars := by
  cases chars with
  | nil => rfl
  | cons c rest =>
    have hc : test c = false := hhead c rfl
    rw [List.dropWhile_cons_of_neg (by simp [hc])]

theorem head?_dropWhile {test : Char → Bool} {chars : List Char} :
    ∀ c ∈ (chars.dropWhile test).head?, test c = false := by
  intro c hc
  have hhead := List.head?_dropWhile_not test chars
  rw [Option.mem_def.mp hc] at hhead
  exact hhead

theorem isBlankChar_last_trimChars (chars : List Char) :
    ∀ c ∈ (trimChars chars).getLast?, isBlankChar c = false := by
  rw [trimChars, List.getLast?_reverse]
  exact head?_dropWhile

theorem trimChars_eq_self {chars : List Char}
    (hhead : ∀ c ∈ chars.head?, isBlankChar c = false)
    (hlast : ∀ c ∈ chars.getLast?, isBlankChar c = false) :
    trimChars chars = chars := by
  rw [← List.head?_reverse] at hlast
  have hfront : trimLeftChars chars = chars := dropWhile_eq_self hhead
  have hback : trimLeftChars chars.reverse = chars.reverse := dropWhile_eq_self hlast
  rw [trimChars, hfront, hback, List.reverse_reverse]

theorem trimLeftChars_sublist (chars : List Char) : (trimLeftChars chars).Sublist chars :=
  (List.dropWhile_suffix isBlankChar).sublist

theorem trimChars_sublist (chars : List Char) :
    (trimChars chars).Sublist (trimLeftChars chars) := by
  have hback := (trimLeftChars_sublist (trimLeftChars chars).reverse).reverse
  rwa [List.reverse_reverse] at hback

theorem trimChars_cons_sublist {c : Char} (hblank : isBlankChar c = true) (rest : List Char) :
    (trimChars (c :: rest)).Sublist rest := by
  have hfront : trimLeftChars (c :: rest) = trimLeftChars rest := by
    rw [trimLeftChars, List.dropWhile_cons_of_pos hblank]
    rfl
  have htrim := trimChars_sublist (c :: rest)
  rw [hfront] at htrim
  exact htrim.trans (trimLeftChars_sublist rest)

end Text

namespace Extension

/-- The extension is not empty and does not begin with a blank. -/
def beginsVisibly (extension : String) : Bool :=
  extension.toList.head?.any fun c => !isBlankChar c

/-- What normalizing makes of a text: small characters without a dot in front and without a blank
behind. -/
structure IsNormalized (extension : String) : Prop where
  small : ∀ c ∈ extension.toList, IsSmall c
  undotted : ∀ c ∈ extension.toList.head?, c ≠ '.'
  trimmed : ∀ c ∈ extension.toList.getLast?, isBlankChar c = false

theorem isNormalized_normalize (text : String) : IsNormalized (normalize text) := by
  have hsuffix := List.dropWhile_suffix (fun c => c == '.') (l := lowerChars (trimChars text.toList))
  have hchars : (normalize text).toList =
      (lowerChars (trimChars text.toList)).dropWhile fun c => c == '.' := by
    rw [normalize, String.toList_ofList]
  constructor
  · intro c hc
    rw [hchars] at hc
    exact isSmall_of_mem_lowerFrom (hsuffix.subset hc)
  · intro c hc
    rw [hchars] at hc
    simpa using head?_dropWhile c hc
  · intro c hc
    rw [hchars] at hc
    have hlast : c ∈ (lowerChars (trimChars text.toList)).getLast? := by
      obtain ⟨front, hfront⟩ := hsuffix
      rw [← hfront, List.getLast?_append, Option.mem_def.mp hc]
      rfl
    exact isBlankChar_last_lowerFrom (isBlankChar_last_trimChars _) c hlast

section Normalized

variable {extension : String}

theorem exists_cons_of_beginsVisibly (hvisible : beginsVisibly extension = true) :
    ∃ c rest, extension.toList = c :: rest ∧ isBlankChar c = false := by
  unfold beginsVisibly at hvisible
  cases hchars : extension.toList with
  | nil => simp [hchars] at hvisible
  | cons c rest => exact ⟨c, rest, rfl, by simpa [hchars] using hvisible⟩

theorem isBlank_of_beginsVisibly (hvisible : beginsVisibly extension = true) :
    isBlank extension = false := by
  obtain ⟨c, rest, hchars, hc⟩ := exists_cons_of_beginsVisibly hvisible
  simp [isBlank, hchars, hc]

theorem IsNormalized.normalize_eq_self (hnormalized : IsNormalized extension)
    (hvisible : beginsVisibly extension = true) :
    normalize extension = extension := by
  obtain ⟨c, rest, hchars, hc⟩ := exists_cons_of_beginsVisibly hvisible
  have hhead : ∀ first ∈ extension.toList.head?, isBlankChar first = false := by
    simp [hchars, hc]
  have hundotted : ∀ first ∈ extension.toList.head?, (first == '.') = false := by
    simpa using hnormalized.undotted
  rw [normalize, trimChars_eq_self hhead hnormalized.trimmed,
    lowerChars_of_isSmall hnormalized.small, dropWhile_eq_self hundotted, String.ofList_toList]

/-- A blank in front would be lost. -/
theorem IsNormalized.beginsVisibly_of_normalize_eq_self (hnormalized : IsNormalized extension)
    (hsame : normalize extension = extension)
    (hblank : isBlank extension = false) :
    beginsVisibly extension = true := by
  unfold beginsVisibly
  cases hchars : extension.toList with
  | nil => simp [isBlank, hchars] at hblank
  | cons c rest =>
    rw [List.head?_cons, Option.any_some, Bool.not_eq_true']
    rw [Bool.eq_false_iff]
    intro hc
    have htrim := trimChars_cons_sublist hc rest
    have hsmall : ∀ other ∈ trimChars (c :: rest), IsSmall other := by
      intro other hother
      apply hnormalized.small
      rw [hchars]
      exact List.mem_cons_of_mem c (htrim.subset hother)
    have hkept : (trimChars (c :: rest)).dropWhile (fun other => other == '.') = c :: rest := by
      have hlist := congrArg String.toList hsame
      rwa [normalize, String.toList_ofList, hchars, lowerChars_of_isSmall hsmall] at hlist
    have hlength := ((List.dropWhile_suffix fun other => other == '.').sublist.trans htrim).length_le
    rw [hkept, List.length_cons] at hlength
    omega

end Normalized

theorem isNormalized_of_mem_normalizeAll {texts : List String} {extension : String}
    (hmem : extension ∈ normalizeAll texts) :
    IsNormalized extension := by
  obtain ⟨text, -, rfl⟩ := List.mem_map.mp hmem
  exact isNormalized_normalize text

/-- A normalized list is left as it is exactly if each of its extensions begins visibly. -/
theorem normalizeAll_eq_self_iff {extensions : List String}
    (hnormalized : ∀ extension ∈ extensions, IsNormalized extension) :
    normalizeAll extensions = extensions ↔
      ∀ extension ∈ extensions, beginsVisibly extension = true := by
  constructor
  · intro hsame
    have hlength := congrArg List.length hsame
    rw [normalizeAll, List.length_map] at hlength
    have hall : extensions.filter (fun text => !isBlank text) = extensions :=
      List.filter_sublist.eq_of_length hlength
    have hmap : extensions.map normalize = extensions.map id := by
      rw [List.map_id]
      rwa [normalizeAll, hall] at hsame
    intro extension hmem
    have hkept : normalize extension = extension := List.map_inj_left.mp hmap extension hmem
    have hblank : isBlank extension = false := by
      simpa using List.filter_eq_self.mp hall extension hmem
    exact (hnormalized extension hmem).beginsVisibly_of_normalize_eq_self hkept hblank
  · intro hvisible
    have hall : extensions.filter (fun text => !isBlank text) = extensions := by
      rw [List.filter_eq_self]
      intro extension hmem
      simp [isBlank_of_beginsVisibly (hvisible extension hmem)]
    rw [normalizeAll, hall]
    have hkept : ∀ extension ∈ extensions, normalize extension = extension :=
      fun extension hmem => (hnormalized extension hmem).normalize_eq_self (hvisible extension hmem)
    rw [List.map_congr_left hkept, List.map_id']

end Extension

end ReviewContext
