import PathExpr.Number.Decimal
import PathExpr.Number.Integer
import PathExpr.Token

/-!
# PathExpr/Token/Numeral — number tokens

How far a number reaches: digits with single underscores between them, a point with the digits after
it, and an exponent.  A point without digits belongs to the number only before another point or
before an exponent, as otherwise it begins an accessor.  A letter, digit or underscore that touches
the end spoils the number, and a number that is no integer literal of 64 bits is a decimal one.
-/

namespace PathExpr

/-- Whether `c` can be part of a name. -/
def isNameChar (c : Char) : Bool := isAlphanumeric c || c = '_'

/-- The run of digits at the front of the text, with single underscores between digits;
`afterDigit` says whether a digit comes right before it. -/
def digitRun (radix : Nat) : (afterDigit : Bool) → List Char → List Char
  | _, [] => []
  | afterDigit, c :: rest =>
    if isDigitOf radix c then c :: digitRun radix true rest
    else if c = '_' ∧ afterDigit ∧ startsWithDigit radix rest then c :: digitRun radix false rest
    else []

/-- The mark and the sign of the exponent at the front of the text; nothing if no digit follows. -/
def exponentMark : List Char → List Char
  | mark :: rest =>
    if mark = 'e' ∨ mark = 'E' then
      match rest with
      | '+' :: more => if startsWithDigit 10 more then [mark, '+'] else []
      | '-' :: more => if startsWithDigit 10 more then [mark, '-'] else []
      | _ => if startsWithDigit 10 rest then [mark] else []
    else []
  | [] => []

/-- The exponent at the front of the text. -/
def exponentPart (text : List Char) : List Char :=
  match exponentMark text with
  | [] => []
  | mark => mark ++ digitRun 10 false (text.drop mark.length)

/-- The point at the front of the text and the digits after it. -/
def fractionPart : List Char → List Char
  | '.' :: rest =>
    if startsWithDigit 10 rest then '.' :: digitRun 10 false rest
    else if rest.head? = some '.' ∨ exponentMark rest ≠ [] then ['.']
    else []
  | _ => []

/-- The rest of a decimal number after its first character, and whether it has a point or an
exponent. -/
def decimalTail (first : Char) (text : List Char) : List Char × Bool :=
  let whole :=
    if first = '.' then digitRun 10 false text
    else if first = '0' then []
    else digitRun 10 true text
  let fraction := if first = '.' then [] else fractionPart (text.drop whole.length)
  let mantissa := whole ++ fraction
  let exponent := exponentPart (text.drop mantissa.length)
  (mantissa ++ exponent, first = '.' || fraction ≠ [] || exponent ≠ [])

/-- The run of name characters at the front of the text. -/
def nameRun (text : List Char) : List Char := text.takeWhile isNameChar

/-- Whether the text begins with a name character. -/
def startsWithName : List Char → Bool
  | [] => false
  | c :: _ => isNameChar c

/-- Whether a binary exponent stands at the front of the text, perhaps after a fraction. -/
def binaryExponentAhead : List Char → Bool
  | 'p' :: _ => true
  | 'P' :: _ => true
  | '.' :: rest =>
    match rest.dropWhile fun c => isDigitOf 16 c || c = '_' with
    | 'p' :: _ => true
    | 'P' :: _ => true
    | _ => false
  | _ => false

/-- A number token without its first character: the number of further characters, and the kind or
the fault. -/
structure Numeral where
  more : Nat
  kind : Except LexicalFault TokenKind

/-- The kind of a finished decimal number. -/
def decimalKind (literal : List Char) (hasPoint : Bool) : Except LexicalFault TokenKind :=
  let text := String.ofList literal
  if !hasPoint && (readInteger? literal).isSome then .ok (.integer text)
  else if (Numeric.ofText? text).isSome then .ok (.decimal text)
  else .error .outOfRange

/-- A number without radix mark. -/
def decimalNumeral (first : Char) (text : List Char) : Numeral :=
  if first = '0' ∧ (startsWithDigit 10 text ∨ text.head? = some '_') then
    ⟨(nameRun text).length, .error .trailingJunk⟩
  else
    let (tail, hasPoint) := decimalTail first text
    let rest := text.drop tail.length
    if startsWithName rest then ⟨tail.length + (nameRun rest).length, .error .trailingJunk⟩
    else ⟨tail.length, decimalKind (first :: tail) hasPoint⟩

/-- A number whose radix mark is `mark`, from the text after the mark. -/
def radixNumeral (radix : Radix) (mark : Char) (text : List Char) : Numeral :=
  let digits := digitRun radix.base false text
  let rest := text.drop digits.length
  if digits = [] then ⟨1 + (nameRun text).length, .error (.emptyInteger radix)⟩
  else if radix = .hexadecimal ∧ binaryExponentAhead rest then
    let run := rest.takeWhile fun c => isNameChar c || c = '.' || c = '+' || c = '-'
    ⟨1 + digits.length + run.length, .error .hexadecimalFloat⟩
  else if startsWithName rest then
    ⟨1 + digits.length + (nameRun rest).length, .error .trailingJunk⟩
  else
    let literal := '0' :: mark :: digits
    ⟨1 + digits.length,
      if (readInteger? literal).isSome then .ok (.integer (String.ofList literal))
      else .error .outOfRange⟩

/-- The number token that begins with `first`, a digit or a point, and goes on with the text. -/
def numeral (first : Char) (text : List Char) : Numeral :=
  match text with
  | mark :: rest =>
    match Radix.ofMark? mark with
    | some radix => if first = '0' then radixNumeral radix mark rest else decimalNumeral first text
    | none => decimalNumeral first text
  | [] => decimalNumeral first text

end PathExpr
