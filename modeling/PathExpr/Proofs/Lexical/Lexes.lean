import PathExpr.Token.Stream

/-!
# PathExpr/Proofs/Lexical/Lexes — the tokens of a text, without positions

`Lexes text kinds` says of a text without lexical faults which tokens it holds.  It goes by
`lexeme` and `trivia` alone, and the stream of tokens with its cursors and faults agrees with it
(`tokens?_eq_ok`).
-/

namespace PathExpr

/-- The text holds tokens of these kinds, with blanks and comments between, and no fault. -/
inductive Lexes : List Char → List TokenKind → Prop
  | finish {text : List Char} (h : text.drop (trivia text) = []) : Lexes text []
  | token {text rest : List Char} {first : Char} {kinds : List TokenKind}
      (h : text.drop (trivia text) = first :: rest) (hf : (lexeme first rest).faults = [])
      (hr : Lexes (rest.drop (lexeme first rest).more) kinds) :
      Lexes text ((lexeme first rest).intended :: kinds)

theorem Lexeme.kind_eq_intended {l : Lexeme} (h : l.faults = []) : l.kind = l.intended := by
  simp [Lexeme.kind, h]

theorem nextToken_nil {c : Cursor} (h : c.skipTrivia.rest = []) :
    nextToken c = ⟨finishToken c.skipTrivia, [], c.skipTrivia⟩ := by
  unfold nextToken
  split
  · rfl
  next hcons => exact absurd (hcons.symm.trans h) (by simp)

theorem nextToken_cons {c : Cursor} {first : Char} {rest : List Char}
    (h : c.skipTrivia.rest = first :: rest) :
    nextToken c = readLexeme c.skipTrivia (lexeme first rest) := by
  unfold nextToken
  split
  next hnil => exact absurd (hnil.symm.trans h) (by simp)
  next f r hcons =>
    obtain ⟨rfl, rfl⟩ := List.cons.inj (h.symm.trans hcons)
    rfl

theorem ofCursor_nil {c : Cursor} (h : c.skipTrivia.rest = []) :
    Stream.ofCursor c = ⟨[], finishToken c.skipTrivia, []⟩ := by
  rw [Stream.ofCursor, dif_pos h]

theorem ofCursor_cons {c : Cursor} {first : Char} {rest : List Char}
    (h : c.skipTrivia.rest = first :: rest) :
    Stream.ofCursor c =
      (Stream.ofCursor (readLexeme c.skipTrivia (lexeme first rest)).after).push
        (readLexeme c.skipTrivia (lexeme first rest)) := by
  rw [Stream.ofCursor, dif_neg (by simp [h]), nextToken_cons h]

/-- **The tokens ahead of a cursor are those of the text ahead of it.** -/
theorem lexes_iff_ofCursor {c : Cursor} {kinds : List TokenKind} :
    Lexes c.rest kinds ↔
      (Stream.ofCursor c).faults = [] ∧ (Stream.ofCursor c).tokens.map Token.kind = kinds := by
  induction c using Stream.ofCursor.induct generalizing kinds
  case case1 c h =>
    have h' : c.rest.drop (trivia c.rest) = [] := by simpa [Cursor.skipTrivia] using h
    rw [ofCursor_nil h]
    constructor
    · intro hl
      cases hl with
      | finish => exact ⟨rfl, rfl⟩
      | token hne => exact absurd (h'.symm.trans hne) (by simp)
    · rintro ⟨-, rfl⟩
      exact .finish h'
  case case2 c h r ih =>
    subst r
    obtain ⟨first, rest, hr⟩ := List.exists_cons_of_ne_nil h
    have h' : c.rest.drop (trivia c.rest) = first :: rest := by simpa [Cursor.skipTrivia] using hr
    have hafter : (readLexeme c.skipTrivia (lexeme first rest)).after.rest =
        rest.drop (lexeme first rest).more := by
      simp [readLexeme, Cursor.skipTrivia, h']
    rw [nextToken_cons hr, hafter] at ih
    rw [ofCursor_cons hr]
    simp only [Stream.push, List.append_eq_nil_iff, List.map_cons]
    simp only [readLexeme, List.map_eq_nil_iff] at ih ⊢
    constructor
    · intro hl
      cases hl with
      | finish hnil => exact absurd (hnil.symm.trans h') (by simp)
      | token hcons hf hl =>
        obtain ⟨rfl, rfl⟩ := List.cons.inj (h'.symm.trans hcons)
        obtain ⟨hs, hk⟩ := ih.mp hl
        exact ⟨⟨hf, hs⟩, by rw [hk, Lexeme.kind_eq_intended hf]⟩
    · rintro ⟨⟨hf, hs⟩, rfl⟩
      rw [Lexeme.kind_eq_intended hf]
      exact .token h' hf (ih.mpr ⟨hs, rfl⟩)

/-- **A text without faults has the tokens that it is read to have.** -/
theorem tokens?_eq_ok {text : String} {kinds : List TokenKind} :
    (∃ s, tokens? text = .ok s ∧ s.tokens.map Token.kind = kinds) ↔ Lexes text.toList kinds := by
  have h : Lexes text.toList kinds ↔ _ := lexes_iff_ofCursor (c := Cursor.ofText text.toList)
  rw [h, tokens?, tokenStream]
  constructor
  · rintro ⟨s, hs, hk⟩
    split at hs
    next hf =>
      obtain rfl := Except.ok.inj hs
      exact ⟨hf, hk⟩
    · exact absurd hs (by simp)
  · rintro ⟨hf, hk⟩
    rw [hf]
    exact ⟨_, rfl, hk⟩

end PathExpr
