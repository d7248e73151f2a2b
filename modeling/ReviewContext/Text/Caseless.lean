/-!
# Letters regardless of case

Markup names are compared without regard to case. Besides its capital, the letter s matches the
long s, the letter k the Kelvin sign, and the letter i both the dotted capital and the dotless
small i, since case mappings join these letters.
-/

namespace ReviewContext.Text

/-- The letters outside ASCII that case mappings join with a small ASCII letter. -/
def caseVariants : Char → List Char
  | 's' => [Char.ofNat 0x17f]
  | 'k' => [Char.ofNat 0x212a]
  | 'i' => [Char.ofNat 0x130, Char.ofNat 0x131]
  | _ => []

/-- Whether a character is the given small ASCII letter in any case. -/
def matchesLetter (letter c : Char) : Bool :=
  c == letter || c == letter.toUpper || (caseVariants letter).contains c

/-- Whether a character is some ASCII letter in any case. -/
def isCaselessLetter (c : Char) : Bool :=
  c.isAlpha || ['s', 'k', 'i'].any fun letter => (caseVariants letter).contains c

/-- What follows a word of small ASCII letters at the head of some characters. -/
def dropWord? : List Char → List Char → Option (List Char)
  | [], chars => some chars
  | _ :: _, [] => none
  | letter :: word, c :: chars => if matchesLetter letter c then dropWord? word chars else none

end ReviewContext.Text
