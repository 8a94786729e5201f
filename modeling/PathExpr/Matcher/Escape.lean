import PathExpr.Matcher.Pattern
import PathExpr.Matcher.Reading

/-!
# PathExpr/Matcher/Escape — single elements of a pattern

An `Element` is a character, a dot, a condition or a class without brackets.  `escaped` reads one
from what follows a backslash.
-/

namespace PathExpr.Matcher

/-- A single element of a pattern. -/
inductive Element
  | literal (l : Literal)
  | dot
  | assertion (a : Assertion)
  | short (c : ShortClass) (negated : Bool)
  | property (q : PropertyQuery) (negated : Bool)

namespace Element

/-- A character that stands for itself. -/
def char (c : Char) : Element := literal ⟨c, false⟩

/-- The element as a pattern. -/
def toPattern : Element → Pattern
  | literal l => .literal l
  | dot => .dot
  | assertion a => .assertion a
  | short c negated => .short c negated
  | property q negated => .property q negated

/-- The element as a part of a class. -/
def toItem : Element → Reading ClassItem
  | literal l => pure (.literal l)
  | short c negated => pure (.short c negated)
  | property q negated => pure (.property q negated)
  | _ => .refuse .classEscapeInvalid

/-- The element as an end of a range. -/
def toLiteral : Element → Reading Literal
  | literal l => pure l
  | _ => .refuse .classRangeLiteral

end Element

/-- Whether `c` has a meaning of its own somewhere in a pattern. -/
def isMeta (c : Char) : Bool :=
  ['\\', '.', '+', '*', '?', '(', ')', '|', '[', ']', '\x7b', '\x7d', '^', '$', '#', '&', '-',
    '~'].contains c

/-- Whether a backslash may stand before `c` without need: any ASCII character that is neither a
letter nor a digit nor one of the marks for the ends of words. -/
def isEscapable (c : Char) : Bool :=
  isAscii c && !c.isAlphanum && c ≠ '<' && c ≠ '>'

/-- Whether `c` is a hexadecimal digit. -/
def isHexDigit (c : Char) : Bool := isDigitOf 16 c

/-- The character that a code in hexadecimal digits stands for. -/
def charOfHex (digits : List Char) : Reading Char :=
  let n := natOfDigits 16 digits
  if h : n.isValidChar then pure (Char.ofNatAux n h) else .refuse .hexInvalid

/-- Reads exactly `n` hexadecimal digits. -/
def hexDigitsExactly (b : Bool) : Nat → Reading (List Char)
  | 0 => pure []
  | n + 1 => do
    match ← Reading.ahead with
    | [] => .refuse .escapeUnfinished
    | c :: _ =>
      if isHexDigit c then
        Reading.advance b
        let more ← hexDigitsExactly b n
        pure (c :: more)
      else .refuse .hexInvalidDigit

/-- Reads a code between braces, from the opening one. -/
def hexBraced (b : Bool) : Reading (List Char) := do
  Reading.advance b
  let digits ← Reading.spacedWhile b isHexDigit
  match ← Reading.ahead with
  | [] => .refuse .escapeUnfinished
  | c :: _ =>
    if c = '\x7d' then
      Reading.advance b
      if digits = [] then .refuse .hexEmpty else pure digits
    else .refuse .hexInvalidDigit

/-- The number of digits of a code that follows the given letter without braces. -/
def hexWidth : Char → Nat
  | 'x' => 2
  | 'u' => 4
  | _ => 8

/-- Reads a character code from its letter on. -/
def hexLiteral (b : Bool) (letter : Char) : Reading Literal := do
  match ← Reading.advanceOr b .escapeUnfinished with
  | '\x7b' =>
    let digits ← hexBraced b
    return ⟨← charOfHex digits, false⟩
  | _ =>
    let digits ← hexDigitsExactly b (hexWidth letter)
    return ⟨← charOfHex digits, letter = 'x'⟩

/-- The text before the first place where `mark` stands, and the text after the mark. -/
def splitAtMark? (mark : List Char) : List Char → Option (List Char × List Char)
  | [] => none
  | c :: rest =>
    if mark.isPrefixOf (c :: rest) then some ([], (c :: rest).drop mark.length)
    else (splitAtMark? mark rest).map fun p => (c :: p.1, p.2)

/-- The property that a text between braces names, and whether the sign between its two parts
negates it. -/
def propertyQuery (text : List Char) : PropertyQuery × Bool :=
  match splitAtMark? ['!', '='] text with
  | some (name, value) => (.valued name value, true)
  | none =>
    match splitAtMark? [':'] text with
    | some (name, value) => (.valued name value, false)
    | none =>
      match splitAtMark? ['='] text with
      | some (name, value) => (.valued name value, false)
      | none => (.named text, false)

/-- Reads a property from its letter on; `negated` says whether the letter is the capital one. -/
def propertyClass (b : Bool) (negated : Bool) : Reading Element := do
  match ← Reading.advanceOr b .escapeUnfinished with
  | '\x7b' =>
    Reading.advance b
    let name ← Reading.spacedWhile b (· ≠ '\x7d')
    match ← Reading.ahead with
    | [] => .refuse .escapeUnfinished
    | _ =>
      Reading.skip 1
      let (query, turned) := propertyQuery name
      return .property query (negated != turned)
  | '\\' => .refuse .unicodeClassInvalid
  | c =>
    Reading.advance b
    return .property (.named [c]) negated

/-- Whether `c` can be part of the name of a word boundary. -/
def isBoundaryChar (c : Char) : Bool := c.isAlpha || c = '-'

/-- The word boundary with the given name. -/
def boundaryNamed? (name : List Char) : Option Assertion :=
  if name = "start".toList then some .wordStart
  else if name = "end".toList then some .wordEnd
  else if name = "start-half".toList then some .wordStartHalf
  else if name = "end-half".toList then some .wordEndHalf
  else none

/-- Reads the name of a word boundary between braces, if one follows.  Where a letter or hyphen does
not come first, the brace begins a repetition, and nothing is read. -/
def boundaryName (b : Bool) : Reading Assertion := do
  match ← Reading.ahead with
  | '\x7b' :: rest =>
    match (dropBlanks b rest).val with
    | [] => .refuse .boundaryUnfinished
    | c :: _ =>
      if isBoundaryChar c then
        Reading.advance b
        let name ← Reading.spacedWhile b isBoundaryChar
        match ← Reading.ahead with
        | '\x7d' :: _ =>
          Reading.skip 1
          match boundaryNamed? name with
          | some a => pure a
          | none => .refuse .boundaryUnrecognized
        | _ => .refuse .boundaryUnclosed
      else pure .wordBoundary
  | _ => pure .wordBoundary

/-- Reads what follows a backslash. -/
def escaped (b : Bool) : Reading Element := do
  match ← Reading.ahead with
  | [] => .refuse .escapeUnfinished
  | c :: _ =>
    if c.isDigit then .refuse .backreference
    else if c = 'x' ∨ c = 'u' ∨ c = 'U' then return .literal (← hexLiteral b c)
    else if c = 'p' ∨ c = 'P' then propertyClass b (c = 'P')
    else
      Reading.skip 1
      if isMeta c ∨ isEscapable c then return .char c
      else
        match c with
        | 'd' => return .short .digit false
        | 'D' => return .short .digit true
        | 's' => return .short .space false
        | 'S' => return .short .space true
        | 'w' => return .short .word false
        | 'W' => return .short .word true
        | 'a' => return .char '\x07'
        | 'f' => return .char '\x0c'
        | 't' => return .char '\t'
        | 'n' => return .char '\n'
        | 'r' => return .char '\r'
        | 'v' => return .char '\x0b'
        | 'A' => return .assertion .textStart
        | 'z' => return .assertion .textEnd
        | 'b' => return .assertion (← boundaryName b)
        | 'B' => return .assertion .notWordBoundary
        | '<' => return .assertion .wordStart
        | '>' => return .assertion .wordEnd
        | _ => .refuse .escapeUnrecognized

end PathExpr.Matcher
