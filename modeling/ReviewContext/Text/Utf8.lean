/-!
# UTF-8

Bytes are read as UTF-8 from left to right. At each place stands either a character or an
ill-formed run: the longest beginning of a character that the next byte, or the end, cuts short, or
else a single byte. Strict reading stops at the first such run and says where and why; lenient
reading puts one replacement character in place of each.
-/

namespace ReviewContext.Text.Utf8

inductive Flaw where
  | badStart
  | badContinuation
  | endOfData
  deriving DecidableEq, Repr

def Flaw.reason : Flaw → String
  | .badStart => "invalid start byte"
  | .badContinuation => "invalid continuation byte"
  | .endOfData => "unexpected end of data"

/-- An ill-formed run: where it starts, its length and its first byte. -/
structure Fault where
  flaw : Flaw
  position : Nat
  length : Nat
  byte : UInt8
  deriving DecidableEq, Repr

def hexByte (byte : UInt8) : String :=
  String.ofList [Nat.digitChar (byte.toNat / 16), Nat.digitChar (byte.toNat % 16)]

def Fault.message (fault : Fault) : String :=
  if fault.length = 1 then
    "'utf-8' codec can't decode byte 0x" ++ hexByte fault.byte ++
      " in position " ++ toString fault.position ++ ": " ++ fault.flaw.reason
  else
    "'utf-8' codec can't decode bytes in position " ++ toString fault.position ++ "-" ++
      toString (fault.position + fault.length - 1) ++ ": " ++ fault.flaw.reason

/-- What stands at the head of some bytes, with the number of bytes after the first. -/
inductive Head where
  | character (c : Char) (more : Nat)
  | illFormed (flaw : Flaw) (more : Nat)

/-- The bytes that may follow a lead byte directly. -/
def secondRange (lead : Nat) : Nat × Nat :=
  if lead = 0xe0 then (0xa0, 0xbf)
  else if lead = 0xed then (0x80, 0x9f)
  else if lead = 0xf0 then (0x90, 0xbf)
  else if lead = 0xf4 then (0x80, 0x8f)
  else (0x80, 0xbf)

/-- Reads the remaining bytes of a character, the first of them in a range of its own. -/
def readTail (range : Nat × Nat) (value more : Nat) : Nat → List UInt8 → Head
  | 0, _ => .character (Char.ofNat value) more
  | _ + 1, [] => .illFormed .endOfData more
  | owed + 1, byte :: rest =>
    if range.1 ≤ byte.toNat ∧ byte.toNat ≤ range.2 then
      readTail (0x80, 0xbf) (value * 64 + (byte.toNat - 0x80)) (more + 1) owed rest
    else
      .illFormed .badContinuation more

def readHead (byte : UInt8) (rest : List UInt8) : Head :=
  let lead := byte.toNat
  if lead < 0x80 then .character (Char.ofNat lead) 0
  else if lead < 0xc2 then .illFormed .badStart 0
  else if lead < 0xe0 then readTail (secondRange lead) (lead - 0xc0) 0 1 rest
  else if lead < 0xf0 then readTail (secondRange lead) (lead - 0xe0) 0 2 rest
  else if lead < 0xf5 then readTail (secondRange lead) (lead - 0xf0) 0 3 rest
  else .illFormed .badStart 0

/-- Strict reading of bytes that begin at a position of a longer sequence. -/
def decodeFrom (position : Nat) : List UInt8 → Except Fault (List Char)
  | [] => .ok []
  | byte :: rest =>
    match readHead byte rest with
    | .character c more =>
      (decodeFrom (position + more + 1) (rest.drop more)).map (c :: ·)
    | .illFormed flaw more => .error ⟨flaw, position, more + 1, byte⟩
  termination_by bytes => bytes.length

def decode (bytes : List UInt8) : Except Fault (List Char) :=
  decodeFrom 0 bytes

def replacementChar : Char := Char.ofNat 0xfffd

/-- Lenient reading. -/
def decodeLeniently : List UInt8 → List Char
  | [] => []
  | byte :: rest =>
    match readHead byte rest with
    | .character c more => c :: decodeLeniently (rest.drop more)
    | .illFormed _ more => replacementChar :: decodeLeniently (rest.drop more)
  termination_by bytes => bytes.length

def encode (text : String) : List UInt8 :=
  text.toUTF8.toList

end ReviewContext.Text.Utf8
