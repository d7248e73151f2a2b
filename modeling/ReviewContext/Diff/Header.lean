import ReviewContext.Text.Numeral

/-!
# Hunk headers

A hunk header is a row that begins with the marks of a hunk: where it starts in the old and in the
new file, each start with an optional count of lines, and anything behind the closing mark. Digits
of every script are digits here. A count that is left out is zero. A row with these marks is a
header whatever the size of its numbers, but a number beyond the limit cannot be read.
-/

namespace ReviewContext.Diff

open ReviewContext.Text

structure Header where
  oldStart : Nat
  oldCount : Nat
  newStart : Nat
  newCount : Nat
  deriving DecidableEq, Repr

/-- The digits of one side of a header: a start and perhaps a count. -/
structure SideDigits where
  start : List Char
  count : Option (List Char)
  deriving DecidableEq, Repr

structure HeaderDigits where
  old : SideDigits
  new : SideDigits
  deriving DecidableEq, Repr

/-- A run of at least one digit, and what follows it. -/
def scanDigits? (chars : List Char) : Option (List Char × List Char) :=
  let digits := chars.takeWhile isDigit
  if digits.isEmpty then none else some (digits, chars.dropWhile isDigit)

def scanCount (chars : List Char) : Option (List Char) × List Char :=
  match chars with
  | ',' :: rest =>
    match scanDigits? rest with
    | some (digits, rest) => (some digits, rest)
    | none => (none, chars)
  | _ => (none, chars)

def scanSide? (chars : List Char) : Option (SideDigits × List Char) :=
  (scanDigits? chars).map fun (start, rest) =>
    let (count, rest) := scanCount rest
    (⟨start, count⟩, rest)

namespace HeaderDigits

/-- Finds the digits of a header at the head of a row. -/
def scan? (chars : List Char) : Option HeaderDigits := do
  let chars ← ['@', '@', ' ', '-'].isPrefixOf? chars
  let (old, chars) ← scanSide? chars
  let chars ← [' ', '+'].isPrefixOf? chars
  let (new, chars) ← scanSide? chars
  let _ ← [' ', '@', '@'].isPrefixOf? chars
  return ⟨old, new⟩

/-- All runs of digits in the order in which they are read. -/
def runs (digits : HeaderDigits) : List (List Char) :=
  [digits.old.start, digits.old.count.getD [], digits.new.start, digits.new.count.getD []]

def header (digits : HeaderDigits) : Header where
  oldStart := digitsValue digits.old.start
  oldCount := digitsValue (digits.old.count.getD [])
  newStart := digitsValue digits.new.start
  newCount := digitsValue (digits.new.count.getD [])

/-- Why the first number beyond the limit cannot be read. -/
def fault? (digits : HeaderDigits) : Option NumeralFault :=
  digits.runs.findSome? fun run =>
    match readDigits run with
    | .ok _ => none
    | .error fault => some fault

end HeaderDigits

def isHeader (row : String) : Bool :=
  (HeaderDigits.scan? row.toList).isSome

def header? (row : String) : Option Header :=
  (HeaderDigits.scan? row.toList).map HeaderDigits.header

def headerFault? (row : String) : Option NumeralFault :=
  (HeaderDigits.scan? row.toList).bind HeaderDigits.fault?

/-- Reads a row as a header if it is one. -/
def readHeader (row : String) : Except NumeralFault (Option Header) :=
  match headerFault? row with
  | some fault => .error fault
  | none => .ok (header? row)

end ReviewContext.Diff
