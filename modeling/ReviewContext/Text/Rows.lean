/-!
# Rows of a text

A text is a list of rows with a line feed between neighbours. Every text has at least one row, and
joining its rows gives it back. Texts from outside may end their rows in a carriage return, with or
without a line feed; reading such a text turns each of these ends into one line feed.
-/

namespace ReviewContext.Text

def rows (text : String) : List String :=
  (text.toList.splitOn '\n').map String.ofList

def joinRows (rows : List String) : String :=
  "\n".intercalate rows

def unifyRowEnds : List Char → List Char
  | [] => []
  | '\r' :: '\n' :: rest => '\n' :: unifyRowEnds rest
  | c :: rest => (if c = '\r' then '\n' else c) :: unifyRowEnds rest

/-- The row without the carriage returns at its end. -/
def dropCarriageReturns (row : String) : String :=
  String.ofList ((row.toList.reverse.dropWhile fun c => c == '\r').reverse)

theorem joinRows_rows (text : String) : joinRows (rows text) = text := by
  apply String.toList_injective
  have hmap :
      ((text.toList.splitOn '\n').map String.ofList).map String.toList =
        text.toList.splitOn '\n' := by
    simp [Function.comp_def]
  have hsep : "\n".toList = ['\n'] := by decide
  simp only [joinRows, rows, String.toList_intercalate, hmap, hsep, List.intercalate_splitOn]

end ReviewContext.Text
