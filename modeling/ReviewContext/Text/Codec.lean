import ReviewContext.Text.Utf8

/-!
# Codecs

A codec turns bytes into characters and texts into bytes. Either may be refused, with a message. The
strict codec for UTF-8 refuses ill-formed bytes. The escaping one lets every byte pass that belongs
to no character: a character of its own stands for such a byte, and is written as the byte again.
-/

namespace ReviewContext.Text

structure Codec where
  decode : List UInt8 → Except String (List Char)
  encode : String → Except String (List UInt8)

namespace Utf8

/-- Reading with a character in place of each byte that belongs to no other. -/
def decodeEscaping (standIn : UInt8 → Char) : List UInt8 → List Char
  | [] => []
  | byte :: rest =>
    match readHead byte rest with
    | .character c more => c :: decodeEscaping standIn (rest.drop more)
    | .illFormed _ more =>
      (byte :: rest.take more).map standIn ++ decodeEscaping standIn (rest.drop more)
  termination_by bytes => bytes.length

/-- The bytes above the range of plain characters. -/
def highBytes : List UInt8 :=
  (List.range 0x80).map fun n => (n + 0x80).toUInt8

/-- The bytes of a character: the byte that it stands for, or its own. -/
def encodeEscaping (standIn : UInt8 → Char) (c : Char) : List UInt8 :=
  match highBytes.find? fun byte => standIn byte == c with
  | some byte => [byte]
  | none => encode c.toString

end Utf8

namespace Codec

def utf8 : Codec where
  decode bytes := (Utf8.decode bytes).mapError Utf8.Fault.message
  encode text := .ok (Utf8.encode text)

def utf8Escaping (standIn : UInt8 → Char) : Codec where
  decode bytes := .ok (Utf8.decodeEscaping standIn bytes)
  encode text := .ok (text.toList.flatMap (Utf8.encodeEscaping standIn))

end Codec

end ReviewContext.Text
