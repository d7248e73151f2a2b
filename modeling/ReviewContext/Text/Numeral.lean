import ReviewContext.Text.Blank
import ReviewContext.Text.Digit

/-!
# Decimal numerals

Integers are written in decimal and read from decimal digits of any script. A numeral of more than
4300 digits is refused in both directions. Settings and findings allow blanks around a numeral, a
sign in front and single low lines between digits.
-/

namespace ReviewContext.Text

/-- The most digits that a numeral may have. -/
def digitLimit : Nat := 4300

inductive NumeralFault where
  | tooLongToRead (digits : Nat)
  | tooLongToWrite
  deriving DecidableEq, Repr

def NumeralFault.message : NumeralFault → String
  | .tooLongToRead digits =>
    s!"Exceeds the limit ({digitLimit} digits) for integer string conversion: " ++
      s!"value has {digits} digits; use sys.set_int_max_str_digits() to increase the limit"
  | .tooLongToWrite =>
    s!"Exceeds the limit ({digitLimit} digits) for integer string conversion; " ++
      "use sys.set_int_max_str_digits() to increase the limit"

def naturalDigits (n : Nat) : List Char :=
  Nat.toDigits 10 n

def integerDigits (n : Int) : List Char :=
  if n < 0 then '-' :: naturalDigits n.natAbs else naturalDigits n.natAbs

def numeral (n : Int) : String :=
  String.ofList (integerDigits n)

/-- Whether the integer can be written within the limit. -/
def isWritable (n : Int) : Bool :=
  (naturalDigits n.natAbs).length ≤ digitLimit

/-- The number that a run of digits denotes, most significant digit first. -/
def digitsValue (digits : List Char) : Nat :=
  digits.foldl (fun value c => value * 10 + (digitValue? c).getD 0) 0

/-- Reads a run of digits within the limit. -/
def readDigits (digits : List Char) : Except NumeralFault Nat :=
  if digits.length ≤ digitLimit then .ok (digitsValue digits)
  else .error (.tooLongToRead digits.length)

/-- Blanks that may surround a numeral: all but the four separators of records. -/
def isNumeralBlank (c : Char) : Bool :=
  isBlankChar c && !(0x1c ≤ c.toNat && c.toNat ≤ 0x1f)

/-- The digits of groups that single low lines separate, or none when a group is empty. -/
def ungroupDigits? (chars : List Char) : Option (List Char) :=
  let groups := chars.splitOn '_'
  if groups.all fun group => !group.isEmpty && group.all isDigit then some groups.flatten else none

def readNatural? (chars : List Char) : Option Nat :=
  (ungroupDigits? chars).bind fun digits => (readDigits digits).toOption

def readInteger? (text : String) : Option Int :=
  let inner := text.toList.dropWhile isNumeralBlank
  match (inner.reverse.dropWhile isNumeralBlank).reverse with
  | '-' :: chars => (readNatural? chars).map fun n => -(n : Int)
  | '+' :: chars => (readNatural? chars).map fun n => (n : Int)
  | chars => (readNatural? chars).map fun n => (n : Int)

end ReviewContext.Text
