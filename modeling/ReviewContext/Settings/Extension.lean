import ReviewContext.Text.Lower
import ReviewContext.Text.Blank

/-!
# File extensions

The extension of a path is what follows the last dot of its last part, in lower case; slashes and
backslashes both separate parts. A name without a dot has the empty extension, which no list of
supported extensions admits. Listed extensions are written with or without blanks and dots in front.
-/

namespace ReviewContext

open ReviewContext.Text

namespace Extension

/-- The characters behind the last one that satisfies a test, all of them if none does. -/
def behindLast (test : Char → Bool) (chars : List Char) : List Char :=
  (chars.reverse.takeWhile fun c => !test c).reverse

def fileName (path : List Char) : List Char :=
  behindLast (fun c => c == '/' || c == '\\') path

def ofPath (path : String) : String :=
  let name := fileName path.toList
  if name.contains '.' then String.ofList (lowerChars (behindLast (fun c => c == '.') name))
  else ""

/-- A listed extension without surrounding blanks, in lower case, without dots in front. -/
def normalize (text : String) : String :=
  String.ofList ((lowerChars (trimChars text.toList)).dropWhile fun c => c == '.')

/-- Normalizes a list, blank entries left out. -/
def normalizeAll (texts : List String) : List String :=
  (texts.filter fun text => !isBlank text).map normalize

/-- The parts of a list separated by commas, blank ones left out. -/
def splitList (text : String) : List String :=
  ((text.toList.splitOn ',').map String.ofList).filter fun part => !isBlank part

def isSupported (path : String) (extensions : List String) : Bool :=
  !(ofPath path).isEmpty && extensions.contains (ofPath path)

end Extension

end ReviewContext
