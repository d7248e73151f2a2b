import ReviewContext.Text.CodeRanges

/-!
# Blank characters

A character is blank when Unicode counts it as white space or as a separator of paragraphs,
segments or records. A text is blank when all its characters are, the empty text included.
Trimming removes blank characters from both ends.
-/

namespace ReviewContext.Text

def blankRanges : CodeRanges :=
  [(0x9, 0xd), (0x1c, 0x20), (0x85, 0x85), (0xa0, 0xa0), (0x1680, 0x1680), (0x2000, 0x200a),
   (0x2028, 0x2029), (0x202f, 0x202f), (0x205f, 0x205f), (0x3000, 0x3000)]

def isBlankChar (c : Char) : Bool :=
  blankRanges.contains c

def trimLeftChars (chars : List Char) : List Char :=
  chars.dropWhile isBlankChar

def trimChars (chars : List Char) : List Char :=
  (trimLeftChars (trimLeftChars chars).reverse).reverse

def trim (text : String) : String :=
  String.ofList (trimChars text.toList)

def isBlank (text : String) : Bool :=
  text.toList.all isBlankChar

end ReviewContext.Text
