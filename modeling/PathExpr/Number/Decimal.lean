import PathExpr.Number.Binary64
import PathExpr.Number.Literal
import PathExpr.Number.Word

/-!
# PathExpr/Number/Decimal — decimal literals

A decimal literal has digits before or after a point, or on both sides, and perhaps an exponent.
`Decimal.read?` takes it apart, `Decimal.canonical` writes its exact value without exponent and
without zeros that do not count, and `Decimal.binary64?` gives the nearest number of the binary64
format.  A literal is of use when that number is finite and is zero only if all its digits are.

Up to two signs may stand before the digits: one belongs to the literal, and one more to its digits.
The canonical text keeps the second sign in front of the digits, as though it were one of them.

The place of the point is counted in numbers of 64 bits, and `Decimal.canonical64?` has no text
where a count leaves their range.  That never happens to a literal with one sign at most, so its
text is said without them; but a sign in front of zeros keeps their exponent, however large, in the
text.
-/

namespace PathExpr

/-- A decimal literal in its parts: whether its sign is a minus, the sign of its digits, the digits
before and after the point, and the exponent. -/
structure Decimal where
  negative : Bool
  innerSign : List Char
  whole : List Char
  fraction : List Char
  exponent : Int

namespace Decimal

/-- The sign at the front of the digits, as it is written. -/
def splitInnerSign : List Char → List Char × List Char
  | '-' :: rest => (['-'], rest)
  | '+' :: rest => (['+'], rest)
  | text => ([], text)

/-- The exponent that the whole text writes: nothing at all, or a mark, perhaps a sign, and
digits. -/
def readExponent? : List Char → Option Int
  | [] => some 0
  | mark :: rest =>
    let (negative, digits) := splitSign rest
    if (mark = 'e' ∨ mark = 'E') ∧ digits ≠ [] ∧ digits.all isDecimalDigit then
      let n : Int := natOfDigits 10 digits
      some (if negative then -n else n)
    else none

/-- The digits after the point, if there is one, and what follows them. -/
def splitFraction : List Char → List Char × List Char
  | '.' :: rest => (rest.takeWhile isDecimalDigit, rest.dropWhile isDecimalDigit)
  | text => ([], text)

/-- The parts of a literal without separators, its first sign taken off. -/
def readDigits? (negative : Bool) (text : List Char) : Option Decimal :=
  let (innerSign, unsigned) := splitInnerSign text
  let whole := unsigned.takeWhile isDecimalDigit
  let (fraction, rest) := splitFraction (unsigned.dropWhile isDecimalDigit)
  if whole = [] ∧ fraction = [] then none
  else (readExponent? rest).map fun exponent => ⟨negative, innerSign, whole, fraction, exponent⟩

/-- The parts of a decimal literal. -/
def read? (text : List Char) : Option Decimal :=
  let (negative, rest) := splitSign text
  if separated 10 rest then readDigits? negative (withoutSeparators rest) else none

/-- The digits on both sides of the point. -/
def digits (d : Decimal) : List Char := d.whole ++ d.fraction

/-- The digits as a number. -/
def mantissa (d : Decimal) : Nat := natOfDigits 10 d.digits

/-- The power of ten that the last digit counts. -/
def scale (d : Decimal) : Int := d.exponent - d.fraction.length

/-- Whether the value, with both signs, is not above zero. -/
def isNegative (d : Decimal) : Bool := d.negative != (d.innerSign = ['-'])

/-- The least `n` for which the value is below `10 ^ n`, when it is not zero. -/
def magnitude (d : Decimal) : Int :=
  d.scale + (d.digits.dropWhile (· = '0')).length

/-- A bound on the magnitude of finite numbers, and on that of numbers other than zero from
below. -/
def magnitudeLimit : Int := 400

/-- The nearest binary64 number, if it is finite. -/
def nearest? (d : Decimal) : Option Binary64 :=
  if d.mantissa = 0 ∨ d.magnitude < -magnitudeLimit then
    some ⟨d.isNegative, 0, Binary64.minExponent⟩
  else if magnitudeLimit < d.magnitude then none
  else if d.scale < 0 then Binary64.ofRatio? d.isNegative d.mantissa (Nat.pow 10 d.scale.natAbs)
  else Binary64.ofRatio? d.isNegative (d.mantissa * Nat.pow 10 d.scale.natAbs) 1

/-- The nearest binary64 number, if it is finite and is no zero that stands for another value. -/
def binary64? (d : Decimal) : Option Binary64 :=
  d.nearest?.filter fun x => !x.isZero || d.mantissa = 0

/-- The text without the zeros at its end. -/
def dropTrailingZeros (text : List Char) : List Char :=
  (text.reverse.dropWhile (· = '0')).reverse

/-- `digits` with a decimal point before the digit number `point`; zeros fill the gap where the
point lies outside the digits. -/
def placePoint (digits : List Char) (point : Int) : List Char :=
  if point ≤ 0 then '0' :: '.' :: List.replicate point.natAbs '0' ++ digits
  else if (digits.length : Int) ≤ point then
    digits ++ List.replicate (point.natAbs - digits.length) '0'
  else digits.take point.natAbs ++ '.' :: digits.drop point.natAbs

/-- The exact value without separators, exponent and zeros that do not count; a zero has no
sign. -/
def canonical (d : Decimal) : List Char :=
  let whole := d.innerSign ++ d.whole
  let leading := (whole ++ d.fraction).dropWhile (· = '0')
  let skipped := (whole ++ d.fraction).length - leading.length
  match dropTrailingZeros leading with
  | [] => ['0']
  | significant =>
    let point : Int := whole.length + d.exponent - skipped
    (if d.negative then ['-'] else []) ++ placePoint significant point

/-! ### The same in numbers of 64 bits -/

/-- Where the point stands, counted from the first digit that is not skipped. -/
def point64? (whole : Nat) (exponent : Int) (skipped : Nat) : Option Int := do
  let exponent ← int64? exponent
  let whole ← int64? whole
  let moved ← int64? (whole + exponent)
  let skipped ← int64? skipped
  int64? (moved - skipped)

/-- `placePoint` with a count of 64 bits for the zeros that fill the gap. -/
def placePoint64? (digits : List Char) (point : Int) : Option (List Char) := do
  let length ← int64? digits.length
  if point ≤ 0 then
    let opposite ← int64? (-point)
    let zeros ← count64? opposite
    some ('0' :: '.' :: List.replicate zeros '0' ++ digits)
  else if length ≤ point then
    let gap ← int64? (point - length)
    let zeros ← count64? gap
    some (digits ++ List.replicate zeros '0')
  else
    let before ← count64? point
    some (digits.take before ++ '.' :: digits.drop before)

/-- `canonical` with every number in 64 bits. -/
def canonical64? (d : Decimal) : Option (List Char) := do
  let whole := d.innerSign ++ d.whole
  let leading := (whole ++ d.fraction).dropWhile (· = '0')
  let skipped ← count64? ((whole ++ d.fraction).length - leading.length)
  match dropTrailingZeros leading with
  | [] => some ['0']
  | significant =>
    let point ← point64? whole.length d.exponent skipped
    let text ← placePoint64? significant point
    some ((if d.negative then ['-'] else []) ++ text)

/-- The canonical text, if it can be written.  Only behind a sign in front of the digits can a count
leave the range of 64 bits. -/
def formatted? (d : Decimal) : Option (List Char) :=
  if d.innerSign = [] then some d.canonical else d.canonical64?

/-- The canonical text of a decimal literal and the nearest binary64 number, if the literal has a
value and its text can be written. -/
def evaluate? (text : List Char) : Option (List Char × Binary64) :=
  (read? text).bind fun d =>
    d.binary64?.bind fun value => d.formatted?.map fun canonical => (canonical, value)

end Decimal

/-- A decimal literal that has a value: the text, its canonical form and the nearest binary64
number. -/
structure Numeric where
  literal : String
  canonical : String
  value : Binary64
  reads : Decimal.evaluate? literal.toList = some (canonical.toList, value)
deriving DecidableEq

namespace Numeric

/-- The decimal literal that a text writes, if it has a value. -/
def ofText? (text : String) : Option Numeric :=
  match h : Decimal.evaluate? text.toList with
  | some (canonical, value) => some ⟨text, String.ofList canonical, value, by simp [h]⟩
  | none => none

/-- The literal with the opposite sign. -/
def negated? (n : Numeric) : Option Numeric := ofText? (String.ofList (negateText n.literal.toList))

end Numeric

end PathExpr
