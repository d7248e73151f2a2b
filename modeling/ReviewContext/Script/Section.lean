import ReviewContext.Text.Blank
import ReviewContext.Text.Caseless
import ReviewContext.Text.Lower
import ReviewContext.Text.Word

/-!
# Script sections of component files

A component file holds code in script sections: an opening tag with attributes, a body, and the
first closing tag behind it. Sections are found one after another; the search for the next one goes
on behind the closing tag. A section without a closing tag is none, and a blank body is passed over.
The attributes may name a language and mark the section as a setup script.
-/

namespace ReviewContext.Script

open ReviewContext.Text

structure Section where
  content : String
  /-- The line, counted from one, on which the content starts. -/
  startLine : Nat
  language : String
  isSetup : Bool
  deriving DecidableEq, Repr

def tagName : List Char := ['s', 'c', 'r', 'i', 'p', 't']

/-- The attributes of an opening tag at the head, and what follows the tag. -/
def openTag? : List Char → Option (List Char × List Char)
  | '<' :: chars =>
    match dropWord? tagName chars with
    | some rest =>
      if rest.head?.any isWordChar then none
      else
        match rest.dropWhile fun c => c != '>' with
        | _ :: body => some (rest.takeWhile fun c => c != '>', body)
        | [] => none
    | none => none
  | _ => none

/-- What follows a closing tag at the head. -/
def closeTag? : List Char → Option (List Char)
  | '<' :: '/' :: chars =>
    match dropWord? tagName chars with
    | some rest =>
      match rest.dropWhile isBlankChar with
      | '>' :: after => some after
      | _ => none
    | none => none
  | _ => none

/-- The characters before the first closing tag, and what follows the tag. -/
def splitBody? : List Char → Option (List Char × List Char)
  | [] => none
  | c :: rest =>
    match closeTag? (c :: rest) with
    | some after => some ([], after)
    | none => (splitBody? rest).map fun (body, after) => (c :: body, after)

/-- The attributes and the body of a section at the head, and what follows the section. -/
def splitSection? (chars : List Char) : Option (List Char × List Char × List Char) :=
  (openTag? chars).bind fun (attributes, inner) =>
    (splitBody? inner).map fun (body, after) => (attributes, body, after)

theorem length_dropWord?
    {word chars rest : List Char}
    (h : dropWord? word chars = some rest) :
    rest.length ≤ chars.length := by
  induction word generalizing chars with
  | nil =>
    simp only [dropWord?, Option.some.injEq] at h
    simp [h]
  | cons letter word ih =>
    cases chars with
    | nil => simp [dropWord?] at h
    | cons c chars =>
      simp only [dropWord?] at h
      split at h
      · have := ih h
        simp only [List.length_cons]
        omega
      · simp at h

theorem length_openTag?
    {chars attributes inner : List Char}
    (h : openTag? chars = some (attributes, inner)) :
    inner.length < chars.length := by
  unfold openTag? at h
  split at h
  · rename_i tail
    split at h
    · rename_i rest hrest
      have hle := length_dropWord? hrest
      split at h
      · simp at h
      · split at h
        · rename_i c body hbody
          simp only [Option.some.injEq, Prod.mk.injEq] at h
          have hdrop := (List.dropWhile_suffix (l := rest) fun c => c != '>').length_le
          rw [hbody] at hdrop
          simp only [List.length_cons] at hdrop ⊢
          rw [← h.2]
          omega
        · simp at h
    · simp at h
  · simp at h

theorem length_closeTag?
    {chars after : List Char}
    (h : closeTag? chars = some after) :
    after.length < chars.length := by
  unfold closeTag? at h
  split at h
  · rename_i tail
    split at h
    · rename_i rest hrest
      have hle := length_dropWord? hrest
      split at h
      · rename_i behind hbehind
        simp only [Option.some.injEq] at h
        have hdrop := (List.dropWhile_suffix (l := rest) isBlankChar).length_le
        rw [hbehind] at hdrop
        simp only [List.length_cons] at hdrop ⊢
        rw [← h]
        omega
      · simp at h
    · simp at h
  · simp at h

theorem length_splitBody?
    {chars body after : List Char}
    (h : splitBody? chars = some (body, after)) :
    after.length < chars.length := by
  induction chars generalizing body with
  | nil => simp [splitBody?] at h
  | cons c rest ih =>
    simp only [splitBody?] at h
    split at h
    · rename_i found hfound
      simp only [Option.some.injEq, Prod.mk.injEq] at h
      rw [← h.2]
      exact length_closeTag? hfound
    · simp only [Option.map_eq_some_iff, Prod.mk.injEq, Prod.exists] at h
      obtain ⟨inner, found, hfound, _, rfl⟩ := h
      have := ih hfound
      simp only [List.length_cons]
      omega

theorem length_splitSection?
    {chars attributes body after : List Char}
    (h : splitSection? chars = some (attributes, body, after)) :
    after.length < chars.length := by
  simp only [splitSection?, Option.bind_eq_some_iff, Option.map_eq_some_iff, Prod.exists,
    Prod.mk.injEq] at h
  obtain ⟨attributes', inner, hopen, body', after', hbody, _, _, rfl⟩ := h
  exact Nat.lt_trans (length_splitBody? hbody) (length_openTag? hopen)

def languageWord : List Char := ['l', 'a', 'n', 'g']

def setupWord : List Char := ['s', 'e', 't', 'u', 'p']

def isQuoteMark (c : Char) : Bool :=
  c.toNat == 0x22 || c.toNat == 0x27

def dropQuoteMark : List Char → List Char
  | c :: rest => if isQuoteMark c then rest else c :: rest
  | [] => []

/-- The value of a language attribute at the head. -/
def languageAt? (chars : List Char) : Option (List Char) :=
  match dropWord? languageWord chars with
  | none => none
  | some rest =>
    match rest.dropWhile isBlankChar with
    | '=' :: value =>
      let letters := (dropQuoteMark (value.dropWhile isBlankChar)).takeWhile isCaselessLetter
      if letters.isEmpty then none else some letters
    | _ => none

/-- The first language attribute, with the character before the head. -/
def findLanguage? (before : Option Char) : List Char → Option (List Char)
  | [] => none
  | c :: rest =>
    if atWordBoundary before (some c) && (languageAt? (c :: rest)).isSome then
      languageAt? (c :: rest)
    else findLanguage? (some c) rest

/-- Whether the word for a setup script stands alone at the head. -/
def isSetupAt (before : Option Char) (chars : List Char) : Bool :=
  atWordBoundary before chars.head? &&
    match dropWord? setupWord chars with
    | some rest => !rest.head?.any isWordChar
    | none => false

def hasSetup (before : Option Char) : List Char → Bool
  | [] => false
  | c :: rest => isSetupAt before (c :: rest) || hasSetup (some c) rest

def lineFeeds (chars : List Char) : Nat :=
  chars.count '\n'

/-- The section with the given parts, none if the body is blank. -/
def sectionOf (line : Nat) (attributes body : List Char) : List Section :=
  if body.all isBlankChar then []
  else
    [⟨String.ofList body, line + lineFeeds attributes,
      String.ofList (((findLanguage? none attributes).map lowerChars).getD []),
      hasSetup none attributes⟩]

/-- The sections of some characters that begin on the given line. -/
def sectionsFrom (line : Nat) : List Char → List Section
  | [] => []
  | c :: rest =>
    match _hsplit : splitSection? (c :: rest) with
    | some (attributes, body, after) =>
      sectionOf line attributes body ++
        sectionsFrom (line + (lineFeeds (c :: rest) - lineFeeds after)) after
    | none => sectionsFrom (line + lineFeeds [c]) rest
  termination_by chars => chars.length
  decreasing_by
    · exact length_splitSection? _hsplit
    · simp

/-- The script sections of a component file. -/
def sections (source : String) : List Section :=
  sectionsFrom 1 source.toList

end ReviewContext.Script
