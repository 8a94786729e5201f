import PathExpr.Unicode.Letter

/-!
# PathExpr/Text/Line — the last line of a text

Errors in many lines are told by their last one.
-/

namespace PathExpr

/-- The text without blanks at either end. -/
def trimmed (text : List Char) : List Char :=
  ((text.dropWhile isBlankSpace).reverse.dropWhile isBlankSpace).reverse

/-- The last line of a text; a line feed at the end of the text ends that line and begins no
other. -/
def lastLine (text : List Char) : List Char :=
  let whole := if text.getLast? = some '\n' then text.dropLast else text
  (whole.reverse.takeWhile (· ≠ '\n')).reverse

example : lastLine "first\nlast\n".toList = "last".toList := by decide

end PathExpr
