import PathExpr.Text.Escape
import PathExpr.Token.Numeral

/-!
# PathExpr/Token/Lexeme — one token at the front of a text

`lexeme first rest` reads the token that begins with `first`.  It answers with the kind, the number
of further characters, and every fault on the way, each with the number of characters that were read
when it was noticed.  A lexeme with a fault is a faulty token, whose message is that of its first
fault; reading always goes on to where the token would have ended.

`trivia` counts the blanks and complete comments before a token.
-/

namespace PathExpr

/-- Whether `c` may stand between tokens without meaning. -/
def isBlank (c : Char) : Bool :=
  c = ' ' || c = '\n' || c = '\r' || c = '\t' || c = '\x0c'

/-- The number of characters up to and including the end mark of a comment, from within it. -/
def commentEnd? : List Char → Option Nat
  | [] => none
  | c :: rest =>
    if c = '*' ∧ rest.head? = some '/' then some 2 else (commentEnd? rest).map (· + 1)

/-- The number of characters taken by blanks and complete comments at the front of the text. -/
def trivia : List Char → Nat
  | [] => 0
  | c :: rest =>
    if isBlank c then trivia rest + 1
    else if c = '/' ∧ rest.head? = some '*' then
      match commentEnd? rest.tail with
      | some n => n + 2 + trivia (rest.drop (n + 1))
      | none => 0
    else 0
termination_by text => text.length
decreasing_by
  all_goals simp only [List.length_cons, List.length_drop]
  all_goals omega

/-- A decoded run of characters inside a token: its text, the number of characters of the token read
at its end, the faults on the way, and whether it holds an escape sequence. -/
structure Run where
  value : List Char
  used : Nat
  faults : List (LexicalFault × Nat)
  escaped : Bool

namespace Run

/-- The run with one more character at its front. -/
def push (c : Char) (r : Run) : Run := { r with value := c :: r.value }

/-- The run with an earlier fault. -/
def withFault (fault : LexicalFault) (seen : Nat) (r : Run) : Run :=
  { r with faults := (fault, seen) :: r.faults }

/-- The run with what an escape sequence at its front stands for. -/
def pushEscape (result : Except LexicalFault Char) (seen : Nat) (r : Run) : Run :=
  match result with
  | .ok c => { r.push c with escaped := true }
  | .error fault => { r.withFault fault seen with escaped := true }

end Run

/-- The name at the front of the text, `seen` characters of the token having been read. -/
def nameRest (seen : Nat) : List Char → Run
  | [] => ⟨[], seen, [], false⟩
  | c :: rest =>
    if c = '\\' then
      let e := escape rest
      (nameRest (seen + 1 + e.2) (rest.drop e.2)).pushEscape e.1 (seen + 1 + e.2)
    else if isNameChar c then (nameRest (seen + 1) rest).push c
    else ⟨[], seen, [], false⟩
termination_by text => text.length
decreasing_by
  all_goals simp only [List.length_cons, List.length_drop]
  all_goals omega

/-- The rest of a string literal, `seen` characters of the token having been read. -/
def stringRest (seen : Nat) : List Char → Run
  | [] => ⟨[], seen, [(.unclosedString, seen)], false⟩
  | c :: rest =>
    if c = '"' then ⟨[], seen + 1, [], false⟩
    else if c = '\\' then
      let e := escape rest
      (stringRest (seen + 1 + e.2) (rest.drop e.2)).pushEscape e.1 (seen + 1 + e.2)
    else if c.toNat < 0x20 then
      (stringRest (seen + 1) rest).withFault (.controlCharacter c) (seen + 1)
    else (stringRest (seen + 1) rest).push c
termination_by text => text.length
decreasing_by
  all_goals simp only [List.length_cons, List.length_drop]
  all_goals omega

/-- A token at the front of a text: what it is if it is free of faults, the number of characters
after its first, and the faults, each with the number of characters read when it was noticed. -/
structure Lexeme where
  intended : TokenKind
  more : Nat
  faults : List (LexicalFault × Nat)

namespace Lexeme

/-- The kind of the token: a faulty one if there are faults. -/
def kind (l : Lexeme) : TokenKind :=
  match l.faults with
  | [] => l.intended
  | f :: _ => .faulty f.1

/-- A token of `more + 1` characters. -/
def plain (kind : TokenKind) (more : Nat) : Lexeme := ⟨kind, more, []⟩

/-- A faulty token of `more + 1` characters, its only fault noticed at its end. -/
def broken (fault : LexicalFault) (more : Nat) : Lexeme :=
  ⟨.faulty fault, more, [(fault, more + 1)]⟩

/-- A token made of a decoded run. -/
def ofRun (kind : TokenKind) (r : Run) : Lexeme := ⟨kind, r.used - 1, r.faults⟩

/-- A number token. -/
def ofNumeral (n : Numeral) : Lexeme :=
  match n.kind with
  | .ok kind => plain kind n.more
  | .error fault => broken fault n.more

end Lexeme

/-- The name or reserved word at the front of the text. -/
def word (text : List Char) : Lexeme :=
  let r := nameRest 0 text
  let name := TokenKind.name (String.ofList r.value)
  .ofRun (if r.escaped then name else (TokenKind.ofWord? r.value).getD name) r

/-- What a dollar sign begins: a variable, with a quoted or a plain name, or the root. -/
def dollarSign (rest : List Char) : Lexeme :=
  match rest with
  | '"' :: body =>
    let r := stringRest 2 body
    .ofRun (.variable (String.ofList r.value)) r
  | c :: _ =>
    if isNameChar c || c = '\\' then
      let r := nameRest 1 rest
      .ofRun (.variable (String.ofList r.value)) r
    else .plain .dollar 0
  | [] => .plain .dollar 0

/-- `long` if the text goes on with `second`, else `short`. -/
def oneOrTwo (second : Char) (long short : Lexeme) (rest : List Char) : Lexeme :=
  if rest.head? = some second then long else short

/-- The token that begins with `first`.  A comment that begins here has no end mark, as complete
ones count as trivia. -/
def lexeme (first : Char) (rest : List Char) : Lexeme :=
  match first with
  | '$' => dollarSign rest
  | '@' => .plain .atSign 0
  | '(' => .plain .openParen 0
  | ')' => .plain .closeParen 0
  | '[' => .plain .openBracket 0
  | ']' => .plain .closeBracket 0
  | '\x7b' => .plain .openBrace 0
  | '\x7d' => .plain .closeBrace 0
  | ',' => .plain .comma 0
  | '?' => .plain .question 0
  | '+' => .plain .plus 0
  | '-' => .plain .minus 0
  | '/' => oneOrTwo '*' (.broken .unclosedComment rest.length) (.plain .slash 0) rest
  | '%' => .plain .percent 0
  | '.' => if startsWithDigit 10 rest then .ofNumeral (numeral '.' rest) else .plain .dot 0
  | '*' => oneOrTwo '*' (.plain .doubleStar 1) (.plain .star 0) rest
  | '"' =>
    let r := stringRest 1 rest
    .ofRun (.string (String.ofList r.value)) r
  | '=' => oneOrTwo '=' (.plain .equal 1) (.broken (.singleOperator '=') 0) rest
  | '!' => oneOrTwo '=' (.plain .notEqual 1) (.plain .bang 0) rest
  | '<' =>
    oneOrTwo '=' (.plain .lessEqual 1)
      (oneOrTwo '>' (.plain .notEqual 1) (.plain .less 0) rest) rest
  | '>' => oneOrTwo '=' (.plain .greaterEqual 1) (.plain .greater 0) rest
  | '&' => oneOrTwo '&' (.plain .and 1) (.broken (.singleOperator '&') 0) rest
  | '|' => oneOrTwo '|' (.plain .or 1) (.broken (.singleOperator '|') 0) rest
  | _ =>
    if isDecimalDigit first then .ofNumeral (numeral first rest)
    else if isLetter first || first = '_' || first = '\\' then word (first :: rest)
    else .broken (.unexpectedCharacter first) 0

end PathExpr
