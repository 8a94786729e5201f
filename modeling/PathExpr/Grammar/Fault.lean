import PathExpr.Chain.Build
import PathExpr.Token

/-!
# PathExpr/Grammar/Fault — what can be wrong with the tokens of a path

A `GrammarFault` names what was found, and `Wanted` what could have stood in its place.  The message
tells the latter only when it is to be verbose, and then at most four of the alternatives.
-/

namespace PathExpr

/-- What may stand at a place in a path. -/
inductive Wanted
  /-- Nothing more. -/
  | finish
  /-- The head of a chain. -/
  | head
  /-- What a negation applies to. -/
  | negated
  /-- The word that ends an unknown test. -/
  | unknownWord
  /-- What follows the dot of an accessor. -/
  | member
  | integer
  /-- A level of the accessor `**`. -/
  | level
  /-- What follows an array subscript. -/
  | subscriptEnd
  /-- The second word of a prefix test. -/
  | withWord
  /-- The second operand of a prefix test. -/
  | initial
  | string
  /-- The one token. -/
  | token (kind : TokenKind)
deriving DecidableEq

/-- The alternatives at a place, the likeliest first. -/
def Wanted.alternatives : Wanted → List String
  | .finish => ["end of path"]
  | .head =>
    ["'$'", "a literal", "'('", "'-'", "'!'", "'@'", "a variable", "'last'", "'+'", "'exists'"]
  | .negated => ["'('", "'exists'"]
  | .unknownWord => ["'unknown'"]
  | .member => ["an identifier", "a string", "'*'", "'**'", "a method"]
  | .integer => ["an integer"]
  | .level => ["an integer", "'last'"]
  | .subscriptEnd => ["','", "']'", "'to'"]
  | .withWord => ["'with'"]
  | .initial => ["a string", "a variable"]
  | .string => ["a string"]
  | .token kind => [kind.display]

/-- How many alternatives a message tells. -/
def toldAlternatives : Nat := 4

/-- The alternatives as a message tells them. -/
def Wanted.message (w : Wanted) : String :=
  ", expecting " ++ " or ".intercalate (w.alternatives.take toldAlternatives) ++
    if toldAlternatives < w.alternatives.length then " or ..." else ""

/-- A fault in the order of tokens. -/
inductive GrammarFault
  /-- A token out of place. -/
  | unexpected (found : TokenKind) (wanted : Wanted)
  /-- A value in the place of a predicate. -/
  | valueFound
  /-- A predicate in the place of a value. -/
  | predicateFound
  /-- An unknown test of a value. -/
  | unknownValue
  /-- A third argument where a precision and a scale are taken. -/
  | decimalArguments
  /-- A level that no path reaches. -/
  | levelOutOfRange (literal : String)
  | unclosedSubscript
  | unbalancedParentheses
  /-- A pattern test that cannot be built. -/
  | pattern (fault : PatternFault)
deriving DecidableEq

/-- The wording of a fault in the order of tokens. -/
def GrammarFault.message (verbose : Bool) : GrammarFault → String
  | .unexpected found wanted =>
    "unexpected " ++ found.display ++ if verbose then wanted.message else ""
  | .valueFound => "expected a predicate, found a value expression"
  | .predicateFound => "expected a value expression, found a predicate"
  | .unknownValue => "'is unknown' must follow a parenthesized predicate"
  | .decimalArguments => ".decimal() takes at most 2 arguments"
  | .levelOutOfRange literal => "wildcard level " ++ literal ++ " is out of range"
  | .unclosedSubscript => "unclosed array subscript"
  | .unbalancedParentheses => "unbalanced parentheses"
  | .pattern fault => fault.message

/-- Why reading stops: at a fault, with so many tokens left from the one at fault on, or at a
request that no node answers to. -/
inductive Stop
  | fault (fault : GrammarFault) (left : Nat)
  | misuse (misuse : Misuse)
deriving DecidableEq

end PathExpr
