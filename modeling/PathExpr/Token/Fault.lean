import PathExpr.Text.Shown

/-!
# PathExpr/Token/Fault — what can be wrong with the characters of a path

`LexicalFault` names every fault that is found before tokens are put together, and
`LexicalFault.message` words it.
-/

namespace PathExpr

/-- The radix of an integer that is written with a radix mark. -/
inductive Radix
  | binary
  | octal
  | hexadecimal
deriving DecidableEq

namespace Radix

/-- The number of digits of the radix. -/
def base : Radix → Nat
  | .binary => 2
  | .octal => 8
  | .hexadecimal => 16

/-- The word for the radix. -/
def name : Radix → String
  | .binary => "binary"
  | .octal => "octal"
  | .hexadecimal => "hexadecimal"

/-- The radix that a letter after a leading zero marks. -/
def ofMark? : Char → Option Radix
  | 'b' => some .binary
  | 'B' => some .binary
  | 'o' => some .octal
  | 'O' => some .octal
  | 'x' => some .hexadecimal
  | 'X' => some .hexadecimal
  | _ => none

end Radix

/-- A fault in the characters of a path. -/
inductive LexicalFault
  /-- A character that begins no token. -/
  | unexpectedCharacter (c : Char)
  /-- A character that stands for an operator only when it is doubled. -/
  | singleOperator (c : Char)
  /-- A comment without its end mark. -/
  | unclosedComment
  /-- A string literal without its closing mark. -/
  | unclosedString
  /-- A control code in a string literal. -/
  | controlCharacter (c : Char)
  /-- A backslash at the end of the text. -/
  | danglingBackslash
  /-- An escape of two hexadecimal digits for the code point zero. -/
  | nulByteEscape
  /-- An escape that lacks one of its two hexadecimal digits. -/
  | malformedByteEscape
  /-- A backslash before a character that it does not escape. -/
  | unknownEscape (c : Char)
  /-- A malformed code unit of an escape by code. -/
  | malformedUnitEscape
  /-- A low surrogate without a high one before it. -/
  | lowSurrogate
  /-- A high surrogate without a low one after it. -/
  | highSurrogate
  /-- An escape for the code point zero. -/
  | nulUnitEscape
  /-- An escape for a code beyond the last code point. -/
  | invalidCodePoint
  /-- A number that neither kind of literal can hold. -/
  | outOfRange
  /-- A letter, digit or underscore that touches a number. -/
  | trailingJunk
  /-- A radix mark without digits. -/
  | emptyInteger (radix : Radix)
  /-- A hexadecimal number with a binary exponent. -/
  | hexadecimalFloat
deriving DecidableEq

/-- The wording of a lexical fault. -/
def LexicalFault.message : LexicalFault → String
  | .unexpectedCharacter c => "unexpected character " ++ showChar c
  | .singleOperator c =>
    "unexpected '" ++ String.ofList [c] ++ "', did you mean '" ++ String.ofList [c, c] ++ "'?"
  | .unclosedComment => "unexpected end of comment"
  | .unclosedString => "unexpected end of quoted string"
  | .controlCharacter c => "unescaped control character " ++ showChar c ++ " in string literal"
  | .danglingBackslash => "unexpected end after backslash"
  | .nulByteEscape => "\\x00 cannot be converted to text"
  | .malformedByteEscape => "invalid hexadecimal character sequence"
  | .unknownEscape c => "invalid escape sequence '\\" ++ String.ofList [c] ++ "'"
  | .malformedUnitEscape => "invalid Unicode escape sequence"
  | .lowSurrogate => "unexpected low surrogate in Unicode escape"
  | .highSurrogate => "unpaired high surrogate in Unicode escape"
  | .nulUnitEscape => "\\u0000 cannot be converted to text"
  | .invalidCodePoint => "invalid Unicode code point"
  | .outOfRange => "number out of range"
  | .trailingJunk => "trailing junk after numeric literal"
  | .emptyInteger radix => "invalid " ++ radix.name ++ " integer"
  | .hexadecimalFloat => "hexadecimal floating-point literals are not supported"

end PathExpr
