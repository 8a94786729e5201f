import PathExpr.Token.Lexeme

/-!
# PathExpr/Token/Stream — the tokens of a whole text

`nextToken` skips blanks and comments, reads one token and says where the faults lie that it met.
`tokenStream` repeats this to the end of the text.  At the end, and ever after, `nextToken` answers
with the token for the end of the path.
-/

namespace PathExpr

/-- One step of reading: the token, its faults, and the place after it. -/
structure Read where
  token : Token
  faults : List PlacedFault
  after : Cursor

/-- The cursor after the blanks and comments ahead. -/
def Cursor.skipTrivia (c : Cursor) : Cursor := c.advance (trivia c.rest)

/-- The token that a lexeme at the cursor stands for. -/
def readLexeme (c : Cursor) (l : Lexeme) : Read :=
  let after := c.advance (l.more + 1)
  { token := ⟨l.kind, c.offset, after.offset, c.position⟩
    faults := l.faults.map fun f => ⟨f.1, (c.advance f.2).position⟩
    after := after }

/-- The token for the end of the path, at a cursor with nothing ahead. -/
def finishToken (c : Cursor) : Token := ⟨.finish, c.offset, c.offset, c.position⟩

/-- The next token after blanks and comments. -/
def nextToken (c : Cursor) : Read :=
  match c.skipTrivia.rest with
  | [] => ⟨finishToken c.skipTrivia, [], c.skipTrivia⟩
  | first :: rest => readLexeme c.skipTrivia (lexeme first rest)

/-- As long as there is something ahead, the next token takes some of it. -/
theorem length_rest_nextToken {c : Cursor} (h : c.skipTrivia.rest ≠ []) :
    (nextToken c).after.rest.length < c.rest.length := by
  unfold nextToken
  split
  next hr => exact absurd hr h
  next first rest hr =>
    have hlen := congrArg List.length hr
    simp only [Cursor.skipTrivia, Cursor.rest_advance, List.length_drop, List.length_cons] at hlen
    simp only [readLexeme, Cursor.skipTrivia, Cursor.rest_advance, List.length_drop]
    omega

/-- Everything that is read from a text: the tokens before the end, the token for the end, and the
faults in the order in which they were met. -/
structure Stream where
  tokens : List Token
  finish : Token
  faults : List PlacedFault

namespace Stream

/-- The stream with one more token and its faults at the front. -/
def push (r : Read) (s : Stream) : Stream :=
  { s with tokens := r.token :: s.tokens, faults := r.faults ++ s.faults }

/-- The tokens ahead of a cursor. -/
def ofCursor (c : Cursor) : Stream :=
  if _ : c.skipTrivia.rest = [] then ⟨[], finishToken c.skipTrivia, []⟩
  else
    let r := nextToken c
    (ofCursor r.after).push r
termination_by c.rest.length
decreasing_by exact length_rest_nextToken ‹_›

/-- All tokens, that for the end of the path included. -/
def all (s : Stream) : List Token := s.tokens ++ [s.finish]

end Stream

/-- The tokens and faults of a text. -/
def tokenStream (text : String) : Stream := .ofCursor (.ofText text.toList)

/-- The tokens of a text, or the first fault. -/
def tokens? (text : String) : Except PlacedFault Stream :=
  let s := tokenStream text
  match s.faults with
  | [] => .ok s
  | f :: _ => .error f

end PathExpr
