import PathExpr.Number.Literal
import PathExpr.Number.Word
import PathExpr.Token.Fault

/-!
# PathExpr/Number/Integer — integer literals

An integer literal is a sign, a radix mark and digits, of which only the digits must be there.
`readInteger?` gives its value, when that is a signed number of 64 bits.
-/

namespace PathExpr

/-- The radix that the mark at the front of a literal names, and the rest; ten without a mark. -/
def splitRadix : List Char → Nat × List Char
  | '0' :: mark :: rest =>
    match Radix.ofMark? mark with
    | some radix => (radix.base, rest)
    | none => (10, '0' :: mark :: rest)
  | text => (10, text)

/-- The value of an integer literal. -/
def readInteger? (text : List Char) : Option Int :=
  let (negative, unsigned) := splitSign text
  let (radix, digits) := splitRadix unsigned
  if digits ≠ [] ∧ digits.all (fun c => c = '_' || isDigitOf radix c) ∧ separated radix digits then
    let magnitude : Int := natOfDigits radix (withoutSeparators digits)
    let value := if negative then -magnitude else magnitude
    if minInteger ≤ value ∧ value ≤ maxInteger then some value else none
  else none

/-- An integer literal: the text and its value. -/
structure Integer where
  literal : String
  value : Int
  reads : readInteger? literal.toList = some value
deriving DecidableEq

namespace Integer

/-- The integer literal that a text writes. -/
def ofText? (text : String) : Option Integer :=
  match h : readInteger? text.toList with
  | some value => some ⟨text, value, h⟩
  | none => none

/-- The value in decimal. -/
def canonical (i : Integer) : String := toString i.value

/-- The literal with the opposite sign, if its value is in range. -/
def negated? (i : Integer) : Option Integer := ofText? (String.ofList (negateText i.literal.toList))

end Integer

end PathExpr
