import ReviewContext.Json.Value
import ReviewContext.Text.Numeral
import ReviewContext.Text.Quoted

/-!
# JSON texts

A value is written on one row or laid out over several, with members and items on rows of their own
and two blanks for each level. On one row, blanks may follow the separators. Strings escape the
quote, the backslash and control characters; where only ASCII is wanted, all other characters are
escaped as well, those beyond the basic plane as a pair of surrogates.
-/

namespace ReviewContext.Json

open ReviewContext.Text

inductive Charset where
  | unicode
  | ascii
  deriving DecidableEq, Repr

def escapeUnit (unit : Nat) : List Char :=
  '\\' :: 'u' :: hexDigits 4 unit

def escapeCode (code : Nat) : List Char :=
  if code < 0x10000 then escapeUnit code
  else
    let offset := code - 0x10000
    escapeUnit (0xd800 + offset / 0x400) ++ escapeUnit (0xdc00 + offset % 0x400)

def isEscaped (charset : Charset) (c : Char) : Bool :=
  c.toNat < 0x20 || (charset == .ascii && 0x7f ≤ c.toNat)

def escapeChar (charset : Charset) (c : Char) : List Char :=
  if c.toNat = 0x22 ∨ c = '\\' then ['\\', c]
  else if c = '\n' then ['\\', 'n']
  else if c = '\r' then ['\\', 'r']
  else if c = '\t' then ['\\', 't']
  else if c.toNat = 0x08 then ['\\', 'b']
  else if c.toNat = 0x0c then ['\\', 'f']
  else if isEscaped charset c then escapeCode c.toNat
  else [c]

def quoteMark : Char := Char.ofNat 0x22

def stringText (charset : Charset) (text : String) : List Char :=
  quoteMark :: text.toList.flatMap (escapeChar charset) ++ [quoteMark]

/-- The separators of a text on one row. -/
structure Style where
  charset : Charset
  item : List Char
  member : List Char
  deriving DecidableEq, Repr

/-- No blanks at all. -/
def Style.compact : Style :=
  ⟨.unicode, [','], [':']⟩

/-- ASCII only, with a blank behind each separator. -/
def Style.spaced : Style :=
  ⟨.ascii, [',', ' '], [':', ' ']⟩

def atomText (charset : Charset) : Json → List Char
  | null => "null".toList
  | bool value => (if value then "true" else "false").toList
  | int value => integerDigits value
  | text value => stringText charset value
  | list _ => ['[', ']']
  | object _ => [Char.ofNat 0x7b, Char.ofNat 0x7d]

mutual

/-- The text on one row. -/
def rowText (style : Style) : Json → List Char
  | list (item :: items) =>
    '[' :: rowText style item ++ itemTexts style items ++ [']']
  | object ((key, value) :: members) =>
    Char.ofNat 0x7b :: stringText style.charset key ++ style.member ++ rowText style value ++
      memberTexts style members ++ [Char.ofNat 0x7d]
  | null => atomText style.charset null
  | bool value => atomText style.charset (bool value)
  | int value => atomText style.charset (int value)
  | text value => atomText style.charset (text value)
  | list [] => atomText style.charset (list [])
  | object [] => atomText style.charset (object [])

def itemTexts (style : Style) : List Json → List Char
  | [] => []
  | item :: items => style.item ++ rowText style item ++ itemTexts style items

def memberTexts (style : Style) : List (String × Json) → List Char
  | [] => []
  | (key, value) :: members =>
    style.item ++ stringText style.charset key ++ style.member ++ rowText style value ++
      memberTexts style members

end

def breakRow (level : Nat) : List Char :=
  '\n' :: List.replicate (2 * level) ' '

mutual

/-- The text laid out over rows, inside so many levels. -/
def laidOutText (level : Nat) : Json → List Char
  | list (item :: items) =>
    '[' :: breakRow (level + 1) ++ laidOutText (level + 1) item ++ laidOutItems level items ++
      breakRow level ++ [']']
  | object ((key, value) :: members) =>
    Char.ofNat 0x7b :: breakRow (level + 1) ++ stringText .unicode key ++ [':', ' '] ++
      laidOutText (level + 1) value ++ laidOutMembers level members ++ breakRow level ++
      [Char.ofNat 0x7d]
  | null => atomText .unicode null
  | bool value => atomText .unicode (bool value)
  | int value => atomText .unicode (int value)
  | text value => atomText .unicode (text value)
  | list [] => atomText .unicode (list [])
  | object [] => atomText .unicode (object [])

def laidOutItems (level : Nat) : List Json → List Char
  | [] => []
  | item :: items =>
    ',' :: breakRow (level + 1) ++ laidOutText (level + 1) item ++ laidOutItems level items

def laidOutMembers (level : Nat) : List (String × Json) → List Char
  | [] => []
  | (key, value) :: members =>
    ',' :: breakRow (level + 1) ++ stringText .unicode key ++ [':', ' '] ++
      laidOutText (level + 1) value ++ laidOutMembers level members

end

def render (style : Style) (value : Json) : String :=
  String.ofList (rowText style value)

def renderLaidOut (value : Json) : String :=
  String.ofList (laidOutText 0 value)

end ReviewContext.Json
