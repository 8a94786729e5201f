import PathExpr.Proofs.Lexical.Coverage

/-!
# PathExpr/Proofs/Lexical/Front — the token at the front of a text

Where no blank and no comment comes first, the next token begins at once.  `Read.Covers` says which
characters it takes and what it leaves.
-/

namespace PathExpr

open String (utf8Len)

/-- The token that was read at the cursor is of the kind and covers the characters `word`, and what
is left is `rest`. -/
structure Read.Covers (r : Read) (c : Cursor) (word rest : List Char) (kind : TokenKind) :
    Prop where
  token : r.token = ⟨kind, c.offset, c.offset + utf8Len word, c.position⟩
  after : r.after.rest = rest

variable {c : Cursor} {first : Char} {word rest : List Char}

theorem Cursor.offset_advance (n : Nat) (c : Cursor) :
    (c.advance n).offset = c.offset + utf8Len (c.rest.take n) := by
  induction n generalizing c with
  | zero => simp
  | succ n ih =>
    rw [advance_succ, ih, rest_next]
    unfold next
    split
    next h => simp [h]
    next ch rest h =>
      rw [h, List.take_succ_cons, String.utf8Len_cons, List.tail_cons, Nat.add_assoc,
        Nat.add_comm (utf8Len _)]

/-- A token begins where neither a blank nor a comment does. -/
theorem nextToken_of_trivia (hc : c.rest = first :: rest) (h : trivia (first :: rest) = 0) :
    nextToken c = readLexeme c (lexeme first rest) := by
  have hskip : c.skipTrivia = c := by rw [Cursor.skipTrivia, hc, h, Cursor.advance_zero]
  have hnext : nextToken c = readLexeme c.skipTrivia (lexeme first rest) :=
    nextToken_cons (by rw [hskip, hc])
  rwa [hskip] at hnext

/-- A lexeme covers as many characters as it takes. -/
theorem covers_readLexeme {l : Lexeme} (hc : c.rest = word ++ rest)
    (hl : l.more + 1 = word.length) : (readLexeme c l).Covers c word rest l.kind := by
  refine ⟨?_, ?_⟩
  · rw [readLexeme, Cursor.offset_advance, hc, hl, List.take_left]
  · rw [readLexeme, Cursor.rest_advance, hc, hl, List.drop_left]

end PathExpr
