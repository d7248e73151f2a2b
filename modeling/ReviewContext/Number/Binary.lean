/-!
# Binary floating-point numbers

A finite number is a sign, a mantissa below `2 ^ 53` and a power of two not below `2 ^ (-1074)`.
Reading a decimal takes the nearest such number, the even mantissa on a tie, and an infinity beyond
the largest. All arithmetic is exact, on natural numbers.
-/

namespace ReviewContext.Number

inductive Binary where
  | nan
  | infinite (negative : Bool)
  /-- The number `mantissa * 2 ^ exponent` with a sign. -/
  | finite (negative : Bool) (mantissa : Nat) (exponent : Int)
  deriving DecidableEq, Repr

namespace Binary

def leastExponent : Int := -1074

def greatestExponent : Int := 971

def mantissaBits : Nat := 53

def zero (negative : Bool) : Binary :=
  .finite negative 0 leastExponent

def isZero : Binary → Bool
  | .finite _ mantissa _ => mantissa == 0
  | _ => false

/-- The nearest integer to a quotient, the even one on a tie. -/
def nearestQuotient (num den : Nat) : Nat :=
  let quotient := num / den
  let rest := num % den
  if 2 * rest < den then quotient
  else if den < 2 * rest then quotient + 1
  else quotient + quotient % 2

/-- A quotient of two positive numbers times a power of two, as a quotient. -/
def scaleByPower (num den : Nat) (power : Int) : Nat × Nat :=
  if power < 0 then (num, den * Nat.pow 2 (-power).toNat) else (num * Nat.pow 2 power.toNat, den)

/-- The exponent of the greatest power of two that is not above a positive quotient. -/
def quotientLog (num den : Nat) : Int :=
  let guess : Int := (Nat.log2 num : Int) - (Nat.log2 den : Int)
  let (scaledNum, scaledDen) := scaleByPower num den (-guess)
  if scaledNum < scaledDen then guess - 1 else guess

/-- The number nearest to a quotient. -/
def ofQuotient (negative : Bool) (num den : Nat) : Binary :=
  if num = 0 then zero negative
  else
    let exponent := max leastExponent (quotientLog num den - (mantissaBits - 1 : Nat))
    let (scaledNum, scaledDen) := scaleByPower num den (-exponent)
    let mantissa := nearestQuotient scaledNum scaledDen
    let (mantissa, exponent) :=
      if mantissa = Nat.pow 2 mantissaBits then (Nat.pow 2 (mantissaBits - 1), exponent + 1)
      else (mantissa, exponent)
    if greatestExponent < exponent then .infinite negative
    else .finite negative mantissa exponent

/-- Decimal exponents beyond these give an infinity and a zero. -/
def decimalBounds : Int × Int := (-400, 400)

/-- The number nearest to `digits * 10 ^ power`. -/
def ofDecimal (negative : Bool) (digits : Nat) (power : Int) : Binary :=
  let magnitude := power + (Nat.toDigits 10 digits).length
  if digits = 0 ∨ magnitude < decimalBounds.1 then zero negative
  else if decimalBounds.2 < magnitude then .infinite negative
  else if power < 0 then ofQuotient negative digits (Nat.pow 10 (-power).toNat)
  else ofQuotient negative (digits * Nat.pow 10 power.toNat) 1

def readDigits? (chars : List Char) : Option Nat :=
  if !chars.isEmpty && chars.all Char.isDigit then some (Nat.ofDigitChars 10 chars 0) else none

/-- Reads an exponent with an optional sign. -/
def readExponent? : List Char → Option Int
  | '-' :: chars => (readDigits? chars).map fun n => -(n : Int)
  | '+' :: chars => (readDigits? chars).map fun n => (n : Int)
  | chars => (readDigits? chars).map fun n => (n : Int)

/-- Reads digits with an optional point among them and an optional exponent behind. -/
def readUnsigned? (negative : Bool) (chars : List Char) : Option Binary :=
  let significand := chars.takeWhile fun c => c != 'e'
  let whole := significand.takeWhile fun c => c != '.'
  let places := (significand.dropWhile fun c => c != '.').drop 1
  let power? :=
    match chars.dropWhile fun c => c != 'e' with
    | [] => some 0
    | _ :: exponent => readExponent? exponent
  match readDigits? (whole ++ places), power? with
  | some digits, some power => some (ofDecimal negative digits (power - places.length))
  | _, _ => none

def readMagnitude? (negative : Bool) (chars : List Char) : Option Binary :=
  match String.ofList chars with
  | "inf" | "infinity" => some (.infinite negative)
  | "nan" => some .nan
  | _ => readUnsigned? negative chars

/-- Reads a decimal, an infinity or the text of no number, regardless of case. -/
def read? (text : String) : Option Binary :=
  match text.toList.map Char.toLower with
  | '-' :: chars => readMagnitude? true chars
  | '+' :: chars => readMagnitude? false chars
  | chars => readMagnitude? false chars

/-- The integer next to a finite number in the direction of zero. -/
def truncate (negative : Bool) (mantissa : Nat) (exponent : Int) : Int :=
  let size :=
    if exponent < 0 then mantissa / Nat.pow 2 (-exponent).toNat
    else mantissa * Nat.pow 2 exponent.toNat
  if negative then -(size : Int) else size

end Binary

end ReviewContext.Number
