import PathExpr.Text.Digit
import PathExpr.Token.Fault

/-!
# PathExpr/Text/Escape — reading escape sequences

An escape sequence is a backslash and a letter or mark, or a backslash and a character code: `\x`
with two hexadecimal digits, or `\u` with a code unit of four digits or of one to six digits between
braces, where two surrogate units stand for one character.  `escape` reads what follows the
backslash; it answers with the character or the fault, and with the number of characters it used,
so that reading can go on after a fault.
-/

namespace PathExpr

/-- The character that a backslash and a letter or mark stand for. -/
def simpleEscape? : Char → Option Char
  | 'b' => some '\x08'
  | 'f' => some '\x0c'
  | 'n' => some '\n'
  | 'r' => some '\r'
  | 't' => some '\t'
  | 'v' => some '\x0b'
  | '"' => some '"'
  | '\\' => some '\\'
  | '/' => some '/'
  | _ => none

/-- The first of two code units that stand for one character. -/
def isHighSurrogate (n : Nat) : Bool := 0xd800 ≤ n && n ≤ 0xdbff

/-- The second of two code units that stand for one character. -/
def isLowSurrogate (n : Nat) : Bool := 0xdc00 ≤ n && n ≤ 0xdfff

/-- The code point that a high and a low surrogate stand for. -/
def combineSurrogates (high low : Nat) : Nat := 0x10000 + (high - 0xd800) * 0x400 + (low - 0xdc00)

/-- The character with code point `n`, unless it is zero or no character has it. -/
def charOfCode (n : Nat) : Except LexicalFault Char :=
  if n = 0 then .error .nulUnitEscape
  else if h : n.isValidChar then .ok (Char.ofNatAux n h)
  else .error .invalidCodePoint

/-- A code unit, and the number of characters read: four hexadecimal digits, or one to six between
braces.  Reading stops at the first character that does not fit. -/
def codeUnit (text : List Char) : Except LexicalFault Nat × Nat :=
  match text with
  | '\x7b' :: rest =>
    let digits := (rest.take 6).takeWhile (isDigitOf 16)
    match digits, rest.drop digits.length with
    | _ :: _, '\x7d' :: _ => (.ok (natOfDigits 16 digits), digits.length + 2)
    | _, _ => (.error .malformedUnitEscape, digits.length + 1)
  | _ =>
    let digits := (text.take 4).takeWhile (isDigitOf 16)
    if digits.length = 4 then (.ok (natOfDigits 16 digits), 4)
    else (.error .malformedUnitEscape, digits.length)

/-- What the code units after `\u` stand for, and the number of characters read. -/
def unitEscape (text : List Char) : Except LexicalFault Char × Nat :=
  match codeUnit text with
  | (.error fault, used) => (.error fault, used)
  | (.ok unit, used) =>
    if isLowSurrogate unit then (.error .lowSurrogate, used)
    else if isHighSurrogate unit then
      match text.drop used with
      | '\\' :: 'u' :: more =>
        match codeUnit more with
        | (.error fault, usedToo) => (.error fault, used + 2 + usedToo)
        | (.ok low, usedToo) =>
          if isLowSurrogate low then
            (charOfCode (combineSurrogates unit low), used + 2 + usedToo)
          else (.error .highSurrogate, used + 2 + usedToo)
      | _ => (.error .highSurrogate, used)
    else (charOfCode unit, used)

/-- What the two hexadecimal digits after `\x` stand for, and the number of characters read. -/
def byteEscape (text : List Char) : Except LexicalFault Char × Nat :=
  let digits := (text.take 2).takeWhile (isDigitOf 16)
  if digits.length = 2 then
    let code := natOfDigits 16 digits
    (if code = 0 then .error .nulByteEscape else .ok (Char.ofNat code), 2)
  else (.error .malformedByteEscape, digits.length)

/-- What an escape sequence stands for, and the number of characters read after the backslash. -/
def escape (text : List Char) : Except LexicalFault Char × Nat :=
  match text with
  | [] => (.error .danglingBackslash, 0)
  | 'x' :: rest => ((byteEscape rest).1, (byteEscape rest).2 + 1)
  | 'u' :: rest => ((unitEscape rest).1, (unitEscape rest).2 + 1)
  | c :: _ =>
    match simpleEscape? c with
    | some ch => (.ok ch, 1)
    | none => (.error (.unknownEscape c), 1)

end PathExpr
