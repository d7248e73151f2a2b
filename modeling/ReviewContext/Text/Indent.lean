import ReviewContext.Text.Rows

/-!
# Common indentation

The margin of a text is the longest run of spaces and tabs with which all its rows begin, rows of
nothing but spaces and tabs left aside. Dedenting empties those rows and takes the margin off the
others; it never joins or splits rows.
-/

namespace ReviewContext.Text

def isIndentChar (c : Char) : Bool :=
  c == ' ' || c == '\t'

def clearIndentOnly (row : List Char) : List Char :=
  if row.all isIndentChar then [] else row

def commonHead : List Char → List Char → List Char
  | a :: as, b :: bs => if a = b then a :: commonHead as bs else []
  | _, _ => []

def margin (rows : List (List Char)) : List Char :=
  match (rows.filter fun row => !row.isEmpty).map fun row => row.takeWhile isIndentChar with
  | [] => []
  | first :: others => others.foldl commonHead first

def dedentRows (rows : List (List Char)) : List (List Char) :=
  let cleared := rows.map clearIndentOnly
  cleared.map fun row => row.drop (margin cleared).length

def dedent (text : String) : String :=
  joinRows ((dedentRows ((rows text).map String.toList)).map String.ofList)

end ReviewContext.Text
