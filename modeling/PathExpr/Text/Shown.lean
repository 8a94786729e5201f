import PathExpr.Unicode.Letter

/-!
# PathExpr/Text/Shown — characters and texts as messages show them

A message shows a character between apostrophes and a text between quotation marks.  The enclosing
mark, the backslash and the common control codes are escaped by a backslash and a letter, every
other hidden character by its code in hexadecimal between braces, as in `\u{301}`.
-/

namespace PathExpr

/-- The digits of `n` in hexadecimal, in lower case and without leading zeros. -/
def hexDigits (n : Nat) : List Char := Nat.toDigits 16 n

/-- The code of `c` between braces. -/
def codeEscape (c : Char) : List Char :=
  ['\\', 'u', '\x7b'] ++ hexDigits c.toNat ++ ['\x7d']

/-- One character of a shown text that is enclosed by `mark`. -/
def shownChar (mark c : Char) : List Char :=
  if c = '\x00' then ['\\', '0']
  else if c = '\t' then ['\\', 't']
  else if c = '\r' then ['\\', 'r']
  else if c = '\n' then ['\\', 'n']
  else if c = '\\' ∨ c = mark then ['\\', c]
  else if isHidden c then codeEscape c
  else [c]

/-- A character as a message shows it. -/
def showChar (c : Char) : String := String.ofList (['\''] ++ shownChar '\'' c ++ ['\''])

/-- A text as a message shows it. -/
def showText (s : String) : String :=
  String.ofList (['"'] ++ s.toList.flatMap (shownChar '"') ++ ['"'])

end PathExpr
