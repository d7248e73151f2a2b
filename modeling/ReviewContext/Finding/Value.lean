import ReviewContext.Number.Shortest
import ReviewContext.Report.Failure

/-!
# Loose values

A model's findings arrive as loose values: a field may hold anything. Such a value counts as absent
when it is empty, zero or null. It can perhaps be turned into an integer, and mostly into text, in
which texts inside lists and mappings are quoted. An integer of too many digits has no text, nor has
a value that holds one; and values that nest deeper than there is room for have none either.
-/

namespace ReviewContext

open ReviewContext.Text
open ReviewContext.Number (Binary Decimal)

inductive Value where
  | null
  | bool (value : Bool)
  | int (value : Int)
  | float (value : Binary)
  | text (value : String)
  | list (items : List Value)
  | mapping (members : List (Value × Value))
  deriving Inhabited

namespace Value

def isPresent : Value → Bool
  | null => false
  | bool value => value
  | int value => value != 0
  | float value => !value.isZero
  | text value => !value.isEmpty
  | list items => !items.isEmpty
  | mapping members => !members.isEmpty

/-- Points from which and up to which a number is written without an exponent. -/
def positionalPoints : Int × Int := (-3, 16)

def zeros (count : Nat) : List Char :=
  List.replicate count '0'

def positionalChars (decimal : Decimal) : List Char :=
  if decimal.point ≤ 0 then
    ['0', '.'] ++ zeros (-decimal.point).toNat ++ decimal.digits
  else if decimal.digits.length ≤ decimal.point then
    decimal.digits ++ zeros (decimal.point.toNat - decimal.digits.length) ++ ['.', '0']
  else
    decimal.digits.take decimal.point.toNat ++ '.' :: decimal.digits.drop decimal.point.toNat

/-- An exponent with its sign and at least two digits. -/
def exponentChars (exponent : Int) : List Char :=
  let digits := naturalDigits exponent.natAbs
  (if exponent < 0 then '-' else '+') :: zeros (2 - digits.length) ++ digits

def scientificChars (decimal : Decimal) : List Char :=
  decimal.digits.take 1 ++
    (if 1 < decimal.digits.length then '.' :: decimal.digits.drop 1 else []) ++
    'e' :: exponentChars (decimal.point - 1)

def magnitudeChars (mantissa : Nat) (exponent : Int) : List Char :=
  if mantissa = 0 then ['0', '.', '0']
  else
    let decimal := Decimal.shortest mantissa exponent
    if positionalPoints.1 ≤ decimal.point ∧ decimal.point ≤ positionalPoints.2 then
      positionalChars decimal
    else scientificChars decimal

def floatChars : Binary → List Char
  | .nan => "nan".toList
  | .infinite negative => (if negative then "-inf" else "inf").toList
  | .finite negative mantissa exponent =>
    (if negative then ['-'] else []) ++ magnitudeChars mantissa exponent

mutual

/-- The value as it is shown inside other values, in which others may nest as deep as there is
room. -/
def shownChars : Nat → Value → Except Failure (List Char)
  | _, null => .ok "None".toList
  | _, bool value => .ok (if value then "True" else "False").toList
  | _, int value =>
    if isWritable value then .ok (integerDigits value) else .error (.number .tooLongToWrite)
  | _, float value => .ok (floatChars value)
  | _, text value => .ok (quoted value).toList
  | _, list [] => .ok ['[', ']']
  | _, mapping [] => .ok [Char.ofNat 0x7b, Char.ofNat 0x7d]
  | 0, list (_ :: _) => .error .nestedTooDeep
  | 0, mapping (_ :: _) => .error .nestedTooDeep
  | room + 1, list (item :: items) => do
    let chars ← shownChars room item
    let others ← shownItems room items
    return '[' :: chars ++ others ++ [']']
  | room + 1, mapping ((key, value) :: members) => do
    let keyChars ← shownChars room key
    let chars ← shownChars room value
    let others ← shownMembers room members
    return Char.ofNat 0x7b :: keyChars ++ [':', ' '] ++ chars ++ others ++ [Char.ofNat 0x7d]

def shownItems : Nat → List Value → Except Failure (List Char)
  | _, [] => .ok []
  | room, item :: items => do
    let chars ← shownChars room item
    let others ← shownItems room items
    return [',', ' '] ++ chars ++ others

def shownMembers : Nat → List (Value × Value) → Except Failure (List Char)
  | _, [] => .ok []
  | room, (key, value) :: members => do
    let keyChars ← shownChars room key
    let chars ← shownChars room value
    let others ← shownMembers room members
    return [',', ' '] ++ keyChars ++ [':', ' '] ++ chars ++ others

end

/-- The value as text; a text stands for itself. -/
def toText (room : Nat) : Value → Except Failure String
  | text value => .ok value
  | value => (shownChars room value).map String.ofList

end Value

end ReviewContext
