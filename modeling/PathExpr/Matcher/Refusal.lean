/-!
# PathExpr/Matcher/Refusal — why a pattern is refused

A pattern is refused at the first fault in its text, else for the first part that has no meaning in
the mode it stands in, else for its size.  `Refusal.message` words each reason.
-/

namespace PathExpr.Matcher

/-- The deepest nesting of groups, repetitions and classes that a pattern may have. -/
def nestLimit : Nat := 250

/-- The greatest size of a compiled pattern, in bytes. -/
def sizeLimit : Nat := 10485760

/-- Why a pattern is refused. -/
inductive Refusal
  /-- An escape that stands for no character inside a class. -/
  | classEscapeInvalid
  /-- A range of a class that ends before it starts. -/
  | classRangeInvalid
  /-- A range of a class whose end is not a character. -/
  | classRangeLiteral
  | classUnclosed
  /-- A repetition count that is too big. -/
  | decimalInvalid
  | hexEmpty
  /-- A code that no character has. -/
  | hexInvalid
  | hexInvalidDigit
  /-- An escape that the end of the pattern cuts off. -/
  | escapeUnfinished
  | escapeUnrecognized
  /-- A flag negation without flags after it. -/
  | flagDanglingNegation
  | flagDuplicate
  | flagRepeatedNegation
  | flagUnfinished
  | flagUnrecognized
  | groupNameDuplicate
  | groupNameEmpty
  | groupNameInvalid
  | groupNameUnfinished
  | groupUnclosed
  | groupUnopened
  | nestLimitExceeded
  | repetitionCountInvalid
  | repetitionCountEmpty
  | repetitionCountUnclosed
  | repetitionMissing
  | boundaryUnclosed
  | boundaryUnrecognized
  | boundaryUnfinished
  | unicodeClassInvalid
  | backreference
  | lookAround
  /-- A part that needs Unicode mode where it is off. -/
  | unicodeNotAllowed
  /-- A part that would match pieces of characters. -/
  | invalidUtf8
  | propertyNotFound
  | propertyValueNotFound
  | tooBig
deriving DecidableEq

/-- The reason in words, without its introduction. -/
def Refusal.reason : Refusal → String
  | .classEscapeInvalid => "invalid escape sequence found in character class"
  | .classRangeInvalid => "invalid character class range, the start must be <= the end"
  | .classRangeLiteral => "invalid range boundary, must be a literal"
  | .classUnclosed => "unclosed character class"
  | .decimalInvalid => "decimal literal invalid"
  | .hexEmpty => "hexadecimal literal empty"
  | .hexInvalid => "hexadecimal literal is not a Unicode scalar value"
  | .hexInvalidDigit => "invalid hexadecimal digit"
  | .escapeUnfinished => "incomplete escape sequence, reached end of pattern prematurely"
  | .escapeUnrecognized => "unrecognized escape sequence"
  | .flagDanglingNegation => "dangling flag negation operator"
  | .flagDuplicate => "duplicate flag"
  | .flagRepeatedNegation => "flag negation operator repeated"
  | .flagUnfinished => "expected flag but got end of regex"
  | .flagUnrecognized => "unrecognized flag"
  | .groupNameDuplicate => "duplicate capture group name"
  | .groupNameEmpty => "empty capture group name"
  | .groupNameInvalid => "invalid capture group character"
  | .groupNameUnfinished => "unclosed capture group name"
  | .groupUnclosed => "unclosed group"
  | .groupUnopened => "unopened group"
  | .nestLimitExceeded =>
    "exceed the maximum number of nested parentheses/brackets (" ++ toString nestLimit ++ ")"
  | .repetitionCountInvalid => "invalid repetition count range, the start must be <= the end"
  | .repetitionCountEmpty => "repetition quantifier expects a valid decimal"
  | .repetitionCountUnclosed => "unclosed counted repetition"
  | .repetitionMissing => "repetition operator missing expression"
  | .boundaryUnclosed =>
    "special word boundary assertion is either unclosed or contains an invalid character"
  | .boundaryUnrecognized =>
    "unrecognized special word boundary assertion, valid choices are: start, end, start-half " ++
      "or end-half"
  | .boundaryUnfinished =>
    "found either the beginning of a special word boundary or a bounded repetition on a \\b " ++
      "with an opening brace, but no closing brace"
  | .unicodeClassInvalid => "invalid Unicode character class"
  | .backreference => "backreferences are not supported"
  | .lookAround => "look-around, including look-ahead and look-behind, is not supported"
  | .unicodeNotAllowed => "Unicode not allowed here"
  | .invalidUtf8 => "pattern can match invalid UTF-8"
  | .propertyNotFound => "Unicode property not found"
  | .propertyValueNotFound => "Unicode property value not found"
  | .tooBig => "Compiled regex exceeds size limit of " ++ toString sizeLimit ++ " bytes."

/-- The reason as a message ends: every reason but that of size counts as an error of the
pattern. -/
def Refusal.message : Refusal → String
  | .tooBig => Refusal.tooBig.reason
  | r => "error: " ++ r.reason

end PathExpr.Matcher
