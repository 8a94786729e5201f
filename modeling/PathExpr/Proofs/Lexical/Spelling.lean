import PathExpr.Proofs.Lexical.Lexes
import PathExpr.Proofs.Lexical.Trivia
import PathExpr.Proofs.Number.Digits
import PathExpr.Proofs.Syntax.Derivation

/-!
# PathExpr/Proofs/Lexical/Spelling — texts that are read as given tokens

`Spells boundary text ts` says that the text is read as the tokens whatever follows it, as long as
what follows has the boundary.  Texts are put together by `Spells.append`, and this module has the
symbols and the words.
-/

namespace PathExpr

/-- The text, with anything that has the boundary after it, is read as the tokens. -/
def Spells (boundary : List Char → Prop) (text : List Char) (ts : List TokenKind) : Prop :=
  ∀ ⦃rest : List Char⦄ ⦃kinds : List TokenKind⦄, boundary rest → Lexes rest kinds →
    Lexes (text ++ rest) (ts ++ kinds)

/-- Anything may follow. -/
def Anything (_ : List Char) : Prop := True

/-- Nothing follows, or one of the characters that end a number or the text of a chain. -/
def Delimited (rest : List Char) : Prop :=
  ∀ c, rest.head? = some c → c = ' ' ∨ c = ')' ∨ c = ',' ∨ c = ']' ∨ c = '\x7d'

/-- What follows ends the text of a chain or begins an accessor. -/
def Linked (rest : List Char) : Prop :=
  ∀ c, rest.head? = some c →
    (c = ' ' ∨ c = ')' ∨ c = ',' ∨ c = ']' ∨ c = '\x7d') ∨ c = '.' ∨ c = '[' ∨ c = '?'

/-- No character follows that could belong to a name. -/
def EndsName (rest : List Char) : Prop :=
  ∀ c, rest.head? = some c → isNameChar c = false ∧ c ≠ '\\'

variable {boundary boundary' : List Char → Prop} {text text' rest : List Char}
  {ts us : List TokenKind}

theorem Delimited.linked (h : Delimited rest) : Linked rest :=
  fun c hc => .inl (h c hc)

theorem Linked.endsName (h : Linked rest) : EndsName rest := by
  intro c hc
  rcases h c hc with (rfl | rfl | rfl | rfl | rfl) | rfl | rfl | rfl <;> decide

theorem delimited_nil : Delimited [] := fun _ h => nomatch h

theorem delimited_cons {c : Char}
    (h : c = ' ' ∨ c = ')' ∨ c = ',' ∨ c = ']' ∨ c = '\x7d') : Delimited (c :: rest) := by
  intro d hd
  obtain rfl := Option.some.inj hd
  exact h

theorem endsName_cons {c : Char} (h : isNameChar c = false) (h' : c ≠ '\\') :
    EndsName (c :: rest) := by
  intro d hd
  obtain rfl := Option.some.inj hd
  exact ⟨h, h'⟩

theorem endsName_blank : EndsName (' ' :: rest) := (delimited_cons (.inl rfl)).linked.endsName

/-! ## Putting texts together -/

theorem spells_nil : Spells boundary [] [] := fun _ _ _ h => h

theorem Spells.mono (h : Spells boundary text ts) (hb : ∀ rest, boundary' rest → boundary rest) :
    Spells boundary' text ts := fun rest _ hr hl => h (hb rest hr) hl

theorem Spells.anything (h : Spells Anything text ts) : Spells boundary text ts :=
  h.mono fun _ _ => trivial

/-- **Two texts are read as their tokens, if the second is a boundary for the first.** -/
theorem Spells.append (h : Spells boundary text ts) (h' : Spells boundary' text' us)
    (hb : ∀ rest, boundary' rest → boundary (text' ++ rest)) :
    Spells boundary' (text ++ text') (ts ++ us) := by
  intro rest kinds hr hl
  rw [List.append_assoc, List.append_assoc]
  exact h (hb rest hr) (h' hr hl)

theorem Spells.lexes (h : Spells boundary text ts) (hb : boundary []) : Lexes text ts := by
  have hl := h hb (.finish List.drop_nil)
  rwa [List.append_nil, List.append_nil] at hl

theorem lexes_blank {kinds : List TokenKind} (h : Lexes rest kinds) :
    Lexes (' ' :: rest) kinds := by
  have ht : (' ' :: rest).drop (trivia (' ' :: rest)) = rest.drop (trivia rest) := by
    rw [trivia, if_pos (by decide), List.drop_succ_cons]
  cases h with
  | finish h => exact .finish (ht.trans h)
  | token h hf hr => exact .token (ht.trans h) hf hr

theorem spells_blank : Spells Anything [' '] [] := fun _ _ _ h => lexes_blank h

/-- A token without fault that begins right here. -/
theorem lexes_token {c : Char} {rest : List Char} {t : TokenKind} {kinds : List TokenKind}
    (more : Nat) (hb : isBlank c = false) (hc : c ≠ '/' ∨ rest.head? ≠ some '*')
    (hl : lexeme c rest = .plain t more) (hr : Lexes (rest.drop more) kinds) :
    Lexes (c :: rest) (t :: kinds) := by
  have ht : (c :: rest).drop (trivia (c :: rest)) = c :: rest := by
    rw [trivia_eq_zero hb fun h => hc.elim (absurd h.1) (absurd h.2), List.drop_zero]
  have h := Lexes.token ht (by rw [hl]; rfl) (by rw [hl]; exact hr)
  rwa [hl] at h

/-! ## Symbols -/

/-- The characters that are tokens whatever follows. -/
inductive Symbol : Char → TokenKind → Prop
  | atSign : Symbol '@' .atSign
  | openParen : Symbol '(' .openParen
  | closeParen : Symbol ')' .closeParen
  | openBracket : Symbol '[' .openBracket
  | closeBracket : Symbol ']' .closeBracket
  | openBrace : Symbol '\x7b' .openBrace
  | closeBrace : Symbol '\x7d' .closeBrace
  | comma : Symbol ',' .comma
  | question : Symbol '?' .question
  | plus : Symbol '+' .plus
  | minus : Symbol '-' .minus

theorem spells_symbol {c : Char} {t : TokenKind} (h : Symbol c t) : Spells Anything [c] [t] := by
  intro rest kinds _ hl
  refine lexes_token 0 ?_ (.inl ?_) ?_ hl <;> cases h <;> first | rfl | decide

theorem spells_dollar : Spells Linked ['$'] [.dollar] := by
  intro rest kinds hr hl
  refine lexes_token 0 (by decide) (.inl (by decide)) ?_ hl
  change dollarSign rest = _
  cases rest with
  | nil => rfl
  | cons c rest =>
    have hq : c ≠ '"' := by
      rintro rfl
      simpa using hr '"' rfl
    obtain ⟨hn, hb⟩ := hr.endsName c rfl
    rw [dollarSign, if_neg (by simp [hn, hb])]
    exact hq

/-- A dot that begins an accessor. -/
theorem lexes_dot {rest : List Char} {kinds : List TokenKind} (hd : startsWithDigit 10 rest = false)
    (hl : Lexes rest kinds) : Lexes ('.' :: rest) (.dot :: kinds) := by
  refine lexes_token 0 (by decide) (.inl (by decide)) ?_ hl
  change (if startsWithDigit 10 rest then _ else _) = _
  rw [if_neg (by simp [hd])]

/-- A star that no second one follows. -/
theorem spells_star : Spells Linked ['*'] [.star] := by
  intro rest kinds hr hl
  have hne : rest.head? ≠ some '*' := fun h => by simpa using hr '*' h
  refine lexes_token 0 (by decide) (.inl (by decide)) ?_ hl
  change oneOrTwo '*' _ _ rest = _
  rw [oneOrTwo, if_neg hne]

theorem spells_doubleStar : Spells Anything ['*', '*'] [.doubleStar] :=
  fun _ _ _ hl => lexes_token 1 (by decide) (.inl (by decide)) rfl hl

theorem spells_bang : Spells (·.head? = some '(') ['!'] [.bang] := by
  intro rest kinds hr hl
  refine lexes_token 0 (by decide) (.inl (by decide)) ?_ hl
  change oneOrTwo '=' _ _ rest = _
  rw [oneOrTwo, if_neg (by rw [hr]; decide)]

/-- An operator with a blank on either side. -/
theorem spells_operator {operand whole : Role} {tier : Nat} {t : TokenKind}
    {operator : BinaryOperator} (h : Dyadic operand whole tier t operator) :
    Spells Anything (" " ++ operator.text ++ " ").toList [t] := by
  intro rest kinds _ hl
  have hblank : Lexes (' ' :: rest) kinds := lexes_blank hl
  cases h
  case less | greater | add | sub | mul | mod =>
    exact lexes_blank (lexes_token 0 (by decide) (.inl (by decide)) rfl hblank)
  case div =>
    have hne : ∀ h : some ' ' = some '*', False := by decide
    exact lexes_blank (lexes_token 0 (by decide) (.inr hne) rfl hblank)
  all_goals exact lexes_blank (lexes_token 1 (by decide) (.inl (by decide)) rfl hblank)

/-! ## Words -/

/-- Characters of a name are read as they stand. -/
theorem nameRest_append {w rest : List Char} (hw : ∀ c ∈ w, isNameChar c = true)
    (hr : EndsName rest) (seen : Nat) :
    nameRest seen (w ++ rest) = ⟨w, seen + w.length, [], false⟩ := by
  induction w generalizing seen with
  | nil =>
    cases rest with
    | nil => simp [nameRest]
    | cons c rest =>
      obtain ⟨hn, hb⟩ := hr c rfl
      rw [List.nil_append, nameRest, if_neg hb, if_neg (by simp [hn])]
      rfl
  | cons c w ih =>
    have hc := hw c List.mem_cons_self
    have hb : c ≠ '\\' := by
      rintro rfl
      exact absurd hc (by decide)
    rw [List.cons_append, nameRest, if_neg hb, if_pos hc,
      ih (fun d hd => hw d (List.mem_cons_of_mem _ hd))]
    simp only [Run.push, List.length_cons, Run.mk.injEq, true_and, and_true]
    omega

/-- **A word is read as its token, unless a name goes on after it.** -/
theorem spells_word {c : Char} {w : List Char} {t : TokenKind}
    (hl : ∀ rest, lexeme c rest = word (c :: rest)) (hb : isBlank c = false) (hc : c ≠ '/')
    (hw : ∀ d ∈ c :: w, isNameChar d = true) (ht : TokenKind.ofWord? (c :: w) = some t) :
    Spells EndsName (c :: w) [t] := by
  intro rest kinds hr hlex
  refine lexes_token w.length hb (.inl hc) ?_ (by simpa using hlex)
  have hn := nameRest_append hw hr 0
  rw [List.append_eq, hl, ← List.cons_append, word, hn]
  simp [ht, Lexeme.ofRun, Lexeme.plain]

theorem isBlank_of_isNameChar {c : Char} (h : isNameChar c = true) : isBlank c = false := by
  rw [Bool.eq_false_iff]
  intro hb
  simp only [isBlank, Bool.or_eq_true, decide_eq_true_eq] at hb
  rcases hb with (((rfl | rfl) | rfl) | rfl) | rfl <;> exact absurd h (by decide)

theorem isDecimalDigit_of_lower {c : Char} (h : 'a' ≤ c) : isDecimalDigit c = false := by
  rw [Bool.eq_false_iff]
  intro hd
  obtain ⟨d, hlt, rfl⟩ := exists_of_isDecimalDigit hd
  have hnot : ∀ d < 10, ¬ 'a' ≤ Nat.digitChar d := by decide
  exact hnot d hlt h

theorem isLetter_of_lower {c : Char} (h : 'a' ≤ c ∧ c ≤ 'z') : isLetter c = true := by
  obtain ⟨hlow, hhigh⟩ := h
  have hascii : isAscii c = true := by
    have hle : c.toNat ≤ 'z'.toNat := hhigh
    exact decide_eq_true (Nat.lt_of_le_of_lt hle (by decide))
  have hlower : c.isLower = true :=
    Bool.and_eq_true_iff.mpr ⟨decide_eq_true hlow, decide_eq_true hhigh⟩
  rw [isLetter, if_pos hascii]
  exact Bool.or_eq_true_iff.mpr (.inr hlower)

theorem lexeme_of_lower {c : Char} (h : 'a' ≤ c ∧ c ≤ 'z') (rest : List Char) :
    lexeme c rest = word (c :: rest) := by
  unfold lexeme
  split
  case h_24 =>
    rw [if_neg (by simp [isDecimalDigit_of_lower h.1]), if_pos (by simp [isLetter_of_lower h])]
  all_goals exact absurd h (by decide)

/-- A word in small letters that is a token. -/
theorem spells_lower {w : List Char} {t : TokenKind}
    (hf : ∃ c, w.head? = some c ∧ 'a' ≤ c ∧ c ≤ 'z')
    (hw : w.all isNameChar = true) (ht : TokenKind.ofWord? w = some t) :
    Spells EndsName w [t] := by
  obtain ⟨c, hc, hr⟩ := hf
  obtain ⟨w, rfl⟩ := List.head?_eq_some_iff.mp hc
  have hname := List.all_eq_true.mp hw
  refine spells_word (lexeme_of_lower hr) ?_ ?_ hname ht
  · exact isBlank_of_isNameChar (hname c List.mem_cons_self)
  · rintro rfl
    exact absurd hr (by decide)

set_option maxRecDepth 4000 in
/-- **Every reserved word is read as itself.** -/
theorem spells_keyword (k : Keyword) : Spells EndsName k.word.toList [.keyword k k.word] := by
  refine spells_lower ?_ ?_ ?_
  · cases k <;> exact ⟨_, rfl, by decide⟩
  · cases k <;> decide
  · cases k <;> decide

/-- A word ends wherever a number does. -/
theorem spells_keyword_delimited (k : Keyword) :
    Spells Delimited k.word.toList [.keyword k k.word] :=
  (spells_keyword k).mono fun _ h => h.linked.endsName

end PathExpr
