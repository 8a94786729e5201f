import PathExpr.Text.Digit

/-!
# PathExpr/Number/Literal — the parts that number literals share

A literal may begin with a sign, and single underscores may stand between its digits.
-/

namespace PathExpr

/-- A leading sign, if there is one, and the rest: whether the sign is a minus. -/
def splitSign : List Char → Bool × List Char
  | '-' :: rest => (true, rest)
  | '+' :: rest => (false, rest)
  | text => (false, text)

/-- Whether the text begins with a digit of the radix. -/
def startsWithDigit (radix : Nat) : List Char → Bool
  | [] => false
  | c :: _ => isDigitOf radix c

/-- Whether every underscore stands between two digits of the radix; `afterDigit` says whether the
character before the text is a digit. -/
def separatedAfter (radix : Nat) : (afterDigit : Bool) → List Char → Bool
  | _, [] => true
  | afterDigit, c :: rest =>
    if c = '_' then afterDigit && startsWithDigit radix rest && separatedAfter radix false rest
    else separatedAfter radix (isDigitOf radix c) rest

/-- Whether every underscore of a literal stands between two digits of the radix. -/
def separated (radix : Nat) (text : List Char) : Bool := separatedAfter radix false text

/-- The text without its underscores. -/
def withoutSeparators (text : List Char) : List Char := text.filter (· ≠ '_')

/-- The same literal with the opposite sign: a minus is dropped, a plus turned, and a missing sign
written as a minus. -/
def negateText : List Char → List Char
  | '-' :: rest => rest
  | '+' :: rest => '-' :: rest
  | text => '-' :: text

end PathExpr
