import ReviewContext.Number.Binary

/-!
# Shortest decimals

Among the decimals that are read back as a given binary number, the shortest one is chosen, and of
those with equally many digits the one nearest to the number. A decimal grid is tried for each
number of digits from one to seventeen; on each grid only the two neighbours of the number can be
nearest.
-/

namespace ReviewContext.Number

/-- A decimal `0.d₁d₂… * 10 ^ point`, kept as its digits without trailing zeros. -/
structure Decimal where
  digits : List Char
  point : Int
  deriving DecidableEq, Repr

namespace Decimal

/-- An interval of quotients with one denominator, closed or open at both ends. -/
structure Interval where
  low : Nat
  high : Nat
  den : Nat
  closed : Bool

def Interval.contains (interval : Interval) (num den : Nat) : Bool :=
  if interval.closed then
    interval.low * den ≤ num * interval.den && num * interval.den ≤ interval.high * den
  else
    interval.low * den < num * interval.den && num * interval.den < interval.high * den

/-- The quotients that are read as the number `mantissa * 2 ^ exponent`. -/
def readingInterval (mantissa : Nat) (exponent : Int) : Interval :=
  let below :=
    if mantissa = Nat.pow 2 (Binary.mantissaBits - 1) ∧ Binary.leastExponent < exponent then 1
    else 2
  let (unit, den) := Binary.scaleByPower 1 4 exponent
  ⟨(4 * mantissa - below) * unit, (4 * mantissa + 2) * unit, den, mantissa % 2 == 0⟩

/-- A quotient over `10 ^ power`, as a quotient. -/
def scaleByTen (num den : Nat) (power : Int) : Nat × Nat :=
  if power < 0 then (num * Nat.pow 10 (-power).toNat, den)
  else (num, den * Nat.pow 10 power.toNat)

/-- The number of digits in front of the point of a positive quotient, negative for leading
zeros behind it. -/
def pointOf (num den : Nat) : Int :=
  let guess : Int := (Nat.toDigits 10 num).length - (Nat.toDigits 10 den).length
  let (scaledNum, scaledDen) := scaleByTen num den guess
  if scaledNum < scaledDen then guess else guess + 1

/-- The multiple of `10 ^ power` that lies in the interval and is nearest to the quotient, the even
one on a tie. -/
def nearestOnGrid? (interval : Interval) (num den : Nat) (power : Int) : Option Nat :=
  let (scaledNum, scaledDen) := scaleByTen num den power
  let lower := scaledNum / scaledDen
  let inside (multiple : Nat) : Bool :=
    if power < 0 then interval.contains multiple (Nat.pow 10 (-power).toNat)
    else interval.contains (multiple * Nat.pow 10 power.toNat) 1
  let nearest := Binary.nearestQuotient scaledNum scaledDen
  if inside nearest then some nearest
  else [lower, lower + 1].find? inside

def dropTrailingZeros (digits : List Char) : List Char :=
  (digits.reverse.dropWhile fun c => c == '0').reverse

/-- Tries grids of so many and more digits. -/
def search (interval : Interval) (num den : Nat) (point : Int) : Nat → Nat → Decimal
  | 0, count => ⟨Nat.toDigits 10 (num / den), point + count⟩
  | fuel + 1, count =>
    match nearestOnGrid? interval num den (point - count) with
    | some multiple =>
      let digits := Nat.toDigits 10 multiple
      ⟨dropTrailingZeros digits, point - count + digits.length⟩
    | none => search interval num den point fuel (count + 1)

/-- The shortest decimal of a positive finite number. -/
def shortest (mantissa : Nat) (exponent : Int) : Decimal :=
  let (num, den) := Binary.scaleByPower mantissa 1 exponent
  search (readingInterval mantissa exponent) num den (pointOf num den) 17 1

end Decimal

end ReviewContext.Number
