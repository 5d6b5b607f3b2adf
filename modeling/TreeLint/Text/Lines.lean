/-! The lines of a text.  A line ends at a line feed; a carriage return before the line feed
belongs to the end. -/

namespace TreeLint.Text

private def dropReturn : List Char → List Char
  | '\r' :: rest => rest
  | other => other

/-- The lines of a text of which the given part of the first line is behind, reversed. -/
def linesFrom (behind : List Char) : List Char → List (List Char)
  | [] => if behind.isEmpty then [] else [behind.reverse]
  | '\n' :: rest => (dropReturn behind).reverse :: linesFrom [] rest
  | c :: rest => linesFrom (c :: behind) rest

@[simp] theorem linesFrom_returnFeed (behind rest : List Char) :
    linesFrom ('\r' :: behind) ('\n' :: rest) = behind.reverse :: linesFrom [] rest := rfl

theorem linesFrom_feed {behind : List Char} (bare : behind.head? ≠ some '\r') (rest : List Char) :
    linesFrom behind ('\n' :: rest) = behind.reverse :: linesFrom [] rest := by
  rw [linesFrom, dropReturn.eq_def]
  split
  next => exact absurd rfl bare
  next => rfl

/-- An empty last line does not count. -/
def lines (text : String) : List (List Char) := linesFrom [] text.toList

end TreeLint.Text
