import PathExpr.Position
import PathExpr.Report
import PathExpr.Token.Fault
import PathExpr.Token.Keyword

/-!
# PathExpr/Token — the tokens of a path

A `Token` is a kind with the bytes it covers and the position where it begins.  Tokens that carry
text keep it decoded, except for numbers, which keep their spelling.  `TokenKind.display` is how a
message names a token.
-/

namespace PathExpr

/-- The kinds of tokens. -/
inductive TokenKind
  /-- The end of the path. -/
  | finish
  /-- A piece of text that is no token. -/
  | faulty (fault : LexicalFault)
  | dollar
  | atSign
  | openParen
  | closeParen
  | openBracket
  | closeBracket
  | openBrace
  | closeBrace
  | dot
  | comma
  | question
  | star
  | doubleStar
  | plus
  | minus
  | slash
  | percent
  | bang
  | equal
  | notEqual
  | less
  | lessEqual
  | greater
  | greaterEqual
  | and
  | or
  | name (value : String)
  | string (value : String)
  | variable (value : String)
  | integer (literal : String)
  | decimal (literal : String)
  | trueWord
  | falseWord
  | nullWord
  | keyword (word : Keyword) (spelling : String)
deriving DecidableEq

namespace TokenKind

/-- The name of a token in messages. -/
def display : TokenKind → String
  | finish => "end of path"
  | faulty fault => "error: " ++ fault.message
  | dollar => "'$'"
  | atSign => "'@'"
  | openParen => "'('"
  | closeParen => "')'"
  | openBracket => "'['"
  | closeBracket => "']'"
  | openBrace => "'\x7b'"
  | closeBrace => "'\x7d'"
  | dot => "'.'"
  | comma => "','"
  | question => "'?'"
  | star => "'*'"
  | doubleStar => "'**'"
  | plus => "'+'"
  | minus => "'-'"
  | slash => "'/'"
  | percent => "'%'"
  | bang => "'!'"
  | equal => "'=='"
  | notEqual => "'!='"
  | less => "'<'"
  | lessEqual => "'<='"
  | greater => "'>'"
  | greaterEqual => "'>='"
  | and => "'&&'"
  | or => "'||'"
  | name value => "identifier '" ++ value ++ "'"
  | string value => "string \"" ++ value ++ "\""
  | «variable» value => "variable '$" ++ value ++ "'"
  | integer literal => "integer " ++ literal
  | decimal literal => "number " ++ literal
  | trueWord => "'true'"
  | falseWord => "'false'"
  | nullWord => "'null'"
  | keyword _ spelling => "'" ++ spelling ++ "'"

/-- The token of a word: one of the three words that are only ever small, a reserved word, or
nothing. -/
def ofWord? (word : List Char) : Option TokenKind :=
  if word = "true".toList then some trueWord
  else if word = "false".toList then some falseWord
  else if word = "null".toList then some nullWord
  else (Keyword.ofName? word).map fun k => keyword k (String.ofList word)

end TokenKind

/-- A token: its kind, the bytes from `start` up to `stop` that it covers, and its position. -/
structure Token where
  kind : TokenKind
  start : Nat
  stop : Nat
  position : Position
deriving DecidableEq

/-- A lexical fault at the place where it was noticed. -/
structure PlacedFault where
  fault : LexicalFault
  position : Position
deriving DecidableEq

/-- The fault as it is told. -/
def PlacedFault.report (f : PlacedFault) : Report := ⟨.lexer, f.fault.message, some f.position⟩

end PathExpr
