import Mathlib.Data.String.Basic
import PathExpr.Proofs.Lexical.Genuine
import PathExpr.Proofs.Lexical.Trivia

/-!
# PathExpr/Proofs/Lexical/Coverage — tokens account for the whole text

The tokens of a text, faulty ones included, lie one after another in it, with nothing but blanks and
complete comments between them (`Covered`), and each tells the place where it begins.  So the text
can be laid out again from its tokens, and what follows the last token is the end of the path as
often as one asks.

The invariant is `Cursor.Follows`: a cursor knows how many bytes and which lines are behind it.
-/

namespace PathExpr

open String (utf8Len)

/-! ## Places in a text -/

/-- The place after the characters `before`: the line breaks among them, and the characters since
the last one. -/
def Position.after (before : List Char) : Position :=
  ⟨1 + before.count '\n', 1 + (before.reverse.takeWhile (· ≠ '\n')).length⟩

theorem Position.after_concat (before : List Char) (c : Char) :
    Position.after (before ++ [c]) = (Position.after before).step c := by
  unfold Position.after Position.step
  by_cases hc : c = '\n'
  · simp [hc, Nat.add_assoc]
  · simp [hc, Nat.add_assoc]

/-- The cursor stands after the characters `before`. -/
structure Cursor.Follows (before : List Char) (c : Cursor) : Prop where
  offset : c.offset = utf8Len before
  position : c.position = .after before

namespace Cursor.Follows

variable {before : List Char} {c : Cursor}

theorem ofText (text : List Char) : Follows [] (Cursor.ofText text) := ⟨rfl, rfl⟩

theorem next (h : Follows before c) : Follows (before ++ c.rest.take 1) c.next := by
  unfold Cursor.next
  split
  next hr =>
    rw [hr, List.take_nil, List.append_nil]
    exact h
  next ch rest hr =>
    rw [hr, List.take_succ_cons, List.take_zero]
    refine ⟨?_, ?_⟩
    · simp [h.offset]
    · rw [Position.after_concat, h.position]

/-- **A cursor that is moved stands after what it was moved over.** -/
theorem advance (h : Follows before c) (n : Nat) :
    Follows (before ++ c.rest.take n) (c.advance n) := by
  induction n generalizing before c with
  | zero => simpa using h
  | succ n ih =>
    have hnext := ih h.next
    rw [rest_next, List.append_assoc, ← List.drop_one, ← List.take_add, Nat.add_comm] at hnext
    exact hnext

end Cursor.Follows

/-! ## Tokens in a text -/

/-- The tokens and the end lie in the text `ahead`, which follows `before`: only blanks and complete
comments come before each of them, and each covers characters of its own and tells their place. -/
inductive Covered : (before ahead : List Char) → List Token → Token → Prop
  | finish {before gap : List Char} (hg : Trivia gap) :
      Covered before gap [] ⟨.finish, utf8Len (before ++ gap), utf8Len (before ++ gap),
        .after (before ++ gap)⟩
  | token {before gap word rest : List Char} {kind : TokenKind} {tokens : List Token}
      {finish : Token} (hg : Trivia gap) (hw : word ≠ []) (hk : kind ≠ .finish)
      (hr : Covered (before ++ gap ++ word) rest tokens finish) :
      Covered before (gap ++ (word ++ rest))
        (⟨kind, utf8Len (before ++ gap), utf8Len (before ++ gap ++ word), .after (before ++ gap)⟩ ::
          tokens) finish

/-- No lexeme is the end of the path. -/
theorem kind_lexeme_ne_finish (first : Char) (rest : List Char) :
    (lexeme first rest).kind ≠ .finish := by
  unfold Lexeme.kind
  split
  · intro h
    have hg := genuine_lexeme first rest
    rw [h] at hg
    exact hg
  · nofun

theorem Cursor.take_append_skipTrivia (c : Cursor) :
    c.rest.take (trivia c.rest) ++ c.skipTrivia.rest = c.rest := by
  rw [skipTrivia, rest_advance, List.take_append_drop]

/-- A lexeme covers the characters that it takes. -/
theorem covered_readLexeme {before gap rest : List Char} {first : Char} {c : Cursor}
    {tokens : List Token} {finish : Token} (hg : Trivia gap) (hc : c.Follows (before ++ gap))
    (hr : c.rest = first :: rest)
    (h : Covered (before ++ gap ++ c.rest.take ((lexeme first rest).more + 1))
      (readLexeme c (lexeme first rest)).after.rest tokens finish) :
    Covered before (gap ++ c.rest) ((readLexeme c (lexeme first rest)).token :: tokens) finish := by
  have hafter := hc.advance ((lexeme first rest).more + 1)
  have htext : c.rest = c.rest.take ((lexeme first rest).more + 1) ++
      (readLexeme c (lexeme first rest)).after.rest := by
    simp [readLexeme, hr]
  have htoken : (readLexeme c (lexeme first rest)).token =
      ⟨(lexeme first rest).kind, utf8Len (before ++ gap),
        utf8Len (before ++ gap ++ c.rest.take ((lexeme first rest).more + 1)),
        .after (before ++ gap)⟩ := by
    rw [← hafter.offset, ← hc.offset, ← hc.position]
    rfl
  have hcov := Covered.token hg (by simp [hr]) (kind_lexeme_ne_finish first rest) h
  rwa [← htoken, ← htext] at hcov

/-- **The tokens ahead of a cursor cover the text ahead of it.** -/
theorem covered_ofCursor {before : List Char} {c : Cursor} (h : c.Follows before) :
    Covered before c.rest (Stream.ofCursor c).tokens (Stream.ofCursor c).finish := by
  induction c using Stream.ofCursor.induct generalizing before
  case case1 c hnil =>
    have htext : c.rest.take (trivia c.rest) = c.rest := by
      simpa [hnil] using c.take_append_skipTrivia
    have hskip := h.advance (trivia c.rest)
    have hgap := trivia_take c.rest
    rw [htext] at hskip hgap
    have hfinish : finishToken c.skipTrivia =
        ⟨.finish, utf8Len (before ++ c.rest), utf8Len (before ++ c.rest),
          .after (before ++ c.rest)⟩ := by
      rw [← hskip.offset, ← hskip.position]
      rfl
    rw [ofCursor_nil hnil, hfinish]
    exact .finish hgap
  case case2 c hne r ih =>
    subst r
    obtain ⟨first, rest, hr⟩ := List.exists_cons_of_ne_nil hne
    have hskip := h.advance (trivia c.rest)
    have hafter := hskip.advance ((lexeme first rest).more + 1)
    rw [nextToken_cons hr] at ih
    rw [ofCursor_cons hr]
    have hcov := covered_readLexeme (trivia_take c.rest) hskip hr (ih hafter)
    rwa [← Cursor.skipTrivia, c.take_append_skipTrivia] at hcov

/-! ## What covering tells of the tokens -/

namespace Covered

variable {before ahead : List Char} {tokens : List Token} {finish t : Token}

/-- **A covering token begins and ends between characters, and tells its place.** -/
theorem exists_word (h : Covered before ahead tokens finish) (ht : t ∈ tokens) :
    ∃ pre word post, before ++ ahead = pre ++ word ++ post ∧ word ≠ [] ∧
      t.start = utf8Len pre ∧ t.stop = utf8Len (pre ++ word) ∧ t.position = .after pre := by
  induction h with
  | finish => cases ht
  | @token before gap word rest kind tokens finish hg hw hk hr ih =>
    rcases List.mem_cons.mp ht with rfl | ht
    · exact ⟨before ++ gap, word, rest, by simp, hw, rfl, rfl, rfl⟩
    · obtain ⟨pre, w, post, htext, hrest⟩ := ih ht
      exact ⟨pre, w, post, by simpa using htext, hrest⟩

theorem kind_ne_finish (h : Covered before ahead tokens finish) (ht : t ∈ tokens) :
    t.kind ≠ .finish := by
  induction h with
  | finish => cases ht
  | token hg hw hk hr ih =>
    rcases List.mem_cons.mp ht with rfl | ht
    · exact hk
    · exact ih ht

/-- **What follows the tokens is the end of the text.** -/
theorem finish_eq (h : Covered before ahead tokens finish) :
    finish = ⟨.finish, utf8Len (before ++ ahead), utf8Len (before ++ ahead),
      .after (before ++ ahead)⟩ := by
  induction h with
  | finish => rfl
  | token hg hw hk hr ih => simpa using ih

/-- Tokens come after what is covered already. -/
theorem le_start (h : Covered before ahead tokens finish) (ht : t ∈ tokens ++ [finish]) :
    utf8Len before ≤ t.start := by
  induction h with
  | finish =>
    obtain rfl := List.mem_singleton.mp ht
    simp
  | @token before gap word rest kind tokens finish hg hw hk hr ih =>
    rcases List.mem_cons.mp ht with rfl | ht
    · simp
    · have hle := ih ht
      simp only [String.utf8Len_append] at hle
      omega

/-- **Tokens come one after another.** -/
theorem pairwise (h : Covered before ahead tokens finish) :
    (tokens ++ [finish]).Pairwise fun t u => t.stop ≤ u.start := by
  induction h with
  | finish => exact List.pairwise_singleton _ _
  | token hg hw hk hr ih => exact List.pairwise_cons.mpr ⟨fun u hu => hr.le_start hu, ih⟩

/-- Every token takes a character of its own. -/
theorem length_le (h : Covered before ahead tokens finish) : tokens.length ≤ ahead.length := by
  induction h with
  | finish => exact Nat.zero_le _
  | token hg hw hk hr ih =>
    have hpos := List.length_pos_of_ne_nil hw
    simp only [List.length_cons, List.length_append]
    omega

end Covered

/-! ## One token after another -/

/-- The cursor after `n` more tokens. -/
def Cursor.past : Nat → Cursor → Cursor
  | 0, c => c
  | n + 1, c => past n (nextToken c).after

theorem Cursor.past_succ (n : Nat) (c : Cursor) :
    c.past (n + 1) = (nextToken (c.past n)).after := by
  induction n generalizing c with
  | zero => rfl
  | succ n ih => exact ih _

/-- Reading on at the end finds the end again. -/
theorem ofCursor_after {c : Cursor} (h : c.skipTrivia.rest = []) :
    Stream.ofCursor (nextToken c).after = Stream.ofCursor c := by
  have hskip : c.skipTrivia.skipTrivia = c.skipTrivia := by
    rw [Cursor.skipTrivia.eq_def c.skipTrivia, h, trivia]
    rfl
  have hrest : c.skipTrivia.skipTrivia.rest = [] := by rw [hskip, h]
  rw [nextToken_nil h, ofCursor_nil hrest, ofCursor_nil h, hskip]

/-- **The tokens are read one by one, and then the end, without a fault, for ever.** -/
theorem nextToken_past (n : Nat) (c : Cursor) :
    (nextToken (c.past n)).token =
      (Stream.ofCursor c).tokens[n]?.getD (Stream.ofCursor c).finish ∧
    ((Stream.ofCursor c).tokens.length ≤ n → (nextToken (c.past n)).faults = []) := by
  induction n generalizing c with
  | zero =>
    by_cases h : c.skipTrivia.rest = []
    · rw [Cursor.past, nextToken_nil h, ofCursor_nil h]
      exact ⟨rfl, fun _ => rfl⟩
    · rw [Cursor.past, Stream.ofCursor, dif_neg h]
      exact ⟨rfl, fun hle => absurd hle (Nat.not_succ_le_zero _)⟩
  | succ n ih =>
    by_cases h : c.skipTrivia.rest = []
    · have hpast := ih (nextToken c).after
      rw [ofCursor_after h, ofCursor_nil h] at hpast
      rw [ofCursor_nil h]
      exact ⟨hpast.1, fun _ => hpast.2 (Nat.zero_le n)⟩
    · rw [Stream.ofCursor, dif_neg h]
      have hpast := ih (nextToken c).after
      exact ⟨hpast.1, fun hle => hpast.2 (Nat.le_of_succ_le_succ hle)⟩

/-- The next token is read where the last one ends. -/
theorem offset_after (c : Cursor) : (nextToken c).after.offset = (nextToken c).token.stop := by
  unfold nextToken
  split <;> rfl

/-- The cursor stands somewhere in the text. -/
def Cursor.Within (text : List Char) (c : Cursor) : Prop :=
  ∃ before, text = before ++ c.rest ∧ c.Follows before

namespace Cursor.Within

variable {text : List Char} {c : Cursor}

theorem advance (h : Within text c) (n : Nat) : Within text (c.advance n) := by
  obtain ⟨before, htext, hc⟩ := h
  exact ⟨_, by rw [rest_advance, List.append_assoc, List.take_append_drop, htext], hc.advance n⟩

theorem after (h : Within text c) : Within text (nextToken c).after := by
  unfold nextToken
  split
  · exact h.advance _
  · exact (h.advance _).advance _

theorem past (h : Within text c) (n : Nat) : Within text (c.past n) := by
  induction n generalizing c with
  | zero => exact h
  | succ n ih => exact ih h.after

theorem offset_le (h : Within text c) : c.offset ≤ utf8Len text := by
  obtain ⟨before, rfl, hc⟩ := h
  rw [hc.offset, String.utf8Len_append]
  omega

end Cursor.Within

theorem getD_concat {α : Type} (l : List α) (a : α) (n : Nat) :
    (l ++ [a])[n]?.getD a = l[n]?.getD a := by
  rcases Nat.lt_or_ge n l.length with h | h
  · rw [List.getElem?_append_left h]
  · rw [List.getElem?_append_right h, List.getElem?_eq_none h]
    cases n - l.length <;> rfl

/-- **The tokens account for the whole text.** -/
theorem tokens_account_for_text (text : String) :
    -- Blanks and complete comments apart, the text is covered by tokens.
    Covered [] text.toList (tokenStream text).tokens (tokenStream text).finish ∧
    -- Each of them, and the end, lies between characters, and tells its line and column.
    (∀ t ∈ (tokenStream text).all, ∃ pre word post, text.toList = pre ++ word ++ post ∧
      t.start = utf8Len pre ∧ t.stop = utf8Len (pre ++ word) ∧ t.position = .after pre) ∧
    -- They come in order, and all but the end are something else and not empty.
    (tokenStream text).all.Pairwise (fun t u => t.stop ≤ u.start) ∧
    (∀ t ∈ (tokenStream text).tokens, t.start < t.stop ∧ t.kind ≠ .finish) ∧
    (tokenStream text).finish.kind = .finish ∧
    (tokenStream text).finish.start = text.utf8ByteSize ∧
    (tokenStream text).finish.stop = text.utf8ByteSize ∧
    (tokenStream text).all.length ≤ text.length + 1 ∧
    -- They are what is read step by step; from the end on, the end is read again, and no fault.
    (∀ n, (nextToken ((Cursor.ofText text.toList).past n)).token =
        (tokenStream text).all[n]?.getD (tokenStream text).finish ∧
      ((tokenStream text).tokens.length ≤ n →
        (nextToken ((Cursor.ofText text.toList).past n)).faults = [])) ∧
    -- Every step begins where the last token ends, and never leaves the text.
    (∀ n, ((Cursor.ofText text.toList).past (n + 1)).offset =
      (nextToken ((Cursor.ofText text.toList).past n)).token.stop) ∧
    ∀ n k, (((Cursor.ofText text.toList).past n).advance k).offset ≤ text.utf8ByteSize := by
  have hcov : Covered [] text.toList (tokenStream text).tokens (tokenStream text).finish :=
    covered_ofCursor (.ofText text.toList)
  have hfinish := hcov.finish_eq
  have hwithin : Cursor.Within text.toList (.ofText text.toList) := ⟨[], rfl, .ofText _⟩
  rw [List.nil_append, String.utf8Len_toList] at hfinish
  refine ⟨hcov, fun t ht => ?_, hcov.pairwise, fun t ht => ⟨?_, hcov.kind_ne_finish ht⟩, ?_, ?_, ?_,
    ?_, fun n => ?_, fun n => ?_, fun n k => ?_⟩
  · rcases List.mem_append.mp ht with ht | ht
    · obtain ⟨pre, word, post, htext, -, hplace⟩ := hcov.exists_word ht
      exact ⟨pre, word, post, htext, hplace⟩
    · obtain rfl := List.mem_singleton.mp ht
      exact ⟨text.toList, [], [], by simp [hfinish]⟩
  · obtain ⟨pre, word, post, -, hw, hstart, hstop, -⟩ := hcov.exists_word ht
    have hpos := Nat.pos_of_ne_zero (mt String.utf8Len_eq_zero.mp hw)
    rw [hstart, hstop, String.utf8Len_append]
    omega
  · rw [hfinish]
  · rw [hfinish]
  · rw [hfinish]
  · have hlength := hcov.length_le
    rw [String.length_toList] at hlength
    simpa [Stream.all] using hlength
  · obtain ⟨htoken, hfaults⟩ := nextToken_past n (Cursor.ofText text.toList)
    refine ⟨htoken.trans ?_, hfaults⟩
    exact (getD_concat _ _ n).symm
  · rw [Cursor.past_succ]
    exact offset_after _
  · rw [← String.utf8Len_toList]
    exact ((hwithin.past n).advance k).offset_le

end PathExpr
