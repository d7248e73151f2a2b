import ReviewContext.Parsing.Parser

/-!
# Texts with lone surrogates

A text can hold code points that are no characters: lone surrogates. A grammar is given the bytes of
a text, and they have none, so it is given a question mark in the place of each. Before that it
makes no difference which of the two stands there: neither is a blank, a letter or a part of a tag.
-/

namespace ReviewContext

/-- A code point of a text. A lone surrogate is given by its place among the surrogates. -/
inductive CodePoint where
  | char (c : Char)
  | surrogate (index : Fin 0x800)
  deriving DecidableEq, Repr

/-- The character by which a code point is written. -/
def CodePoint.written : CodePoint → Char
  | char c => c
  | surrogate _ => '?'

abbrev LooseText := List CodePoint

namespace LooseText

def ofString (text : String) : LooseText :=
  text.toList.map CodePoint.char

/-- The text as it is written, with question marks for lone surrogates. -/
def written (text : LooseText) : String :=
  String.ofList (text.map CodePoint.written)

end LooseText

/-- Parses a text that may hold lone surrogates. -/
def Parser.tryParseLoose (parser : Parser) (code : LooseText) (extension : String) (budget : Int) :
    Traced ParseOutcome :=
  parser.tryParse code.written extension budget

end ReviewContext
