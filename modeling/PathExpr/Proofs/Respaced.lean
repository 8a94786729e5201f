import PathExpr.Proofs.Lexical.Coverage
import PathExpr.Proofs.Lexical.Locality
import PathExpr.Proofs.Parse
import PathExpr.Regex.Test

/-!
# PathExpr/Proofs/Respaced — blanks and comments have no meaning

`Respaced` says of two texts that the second is the first with blanks and complete comments put in
between its tokens.  Nothing may come right after a number that ends in a point: what makes the
point belong to it is the second point that follows.  Then both texts have the same tokens, and are
the same path or are refused in the same words (`parse_respaced`).
-/

namespace PathExpr

open String (utf8Len)

/-! ## Putting blanks and comments in -/

/-- The second gap is the first with blanks and complete comments put into it, none if `kept`. -/
structure Widened (kept : Prop) (gap gap' : List Char) : Prop where
  trivia : Trivia gap'
  sublist : gap.Sublist gap'
  eq_of_kept : kept → gap' = gap

/-- A decimal number that is written `word`, with a point at the end. -/
def TokenKind.EndsInPoint (word : List Char) (kind : TokenKind) : Prop :=
  (∃ literal, kind = .decimal literal) ∧ word.getLast? = some '.'

/-- Behind `before`, the text `ahead` has these tokens, and `ahead'` is that text with gaps widened;
the first gap is left as it is if `kept`. -/
inductive Respaced : (before : List Char) → (kept : Prop) → List Token →
    (ahead ahead' : List Char) → Prop
  | finish {before gap gap' : List Char} {kept : Prop} (hg : Widened kept gap gap') :
      Respaced before kept [] gap gap'
  | token {before gap gap' word ahead ahead' : List Char} {kept : Prop} {t : Token}
      {tokens : List Token} (hg : Widened kept gap gap') (hw : word ≠ [])
      (hstart : t.start = utf8Len (before ++ gap))
      (hstop : t.stop = utf8Len (before ++ gap ++ word))
      (hr : Respaced (before ++ gap ++ word) (t.kind.EndsInPoint word) tokens ahead ahead') :
      Respaced before kept (t :: tokens) (gap ++ (word ++ ahead)) (gap' ++ (word ++ ahead'))

variable {before gap gap' word ahead ahead' rest rest' : List Char} {kept : Prop}
  {tokens : List Token}

/-- **A gap may be widened anywhere**, save within a comment. -/
theorem Widened.insert {inserted : List Char} (hk : ¬ kept) (hg : Trivia gap)
    (hi : Trivia inserted) (hg' : Trivia gap') :
    Widened kept (gap ++ gap') (gap ++ (inserted ++ gap')) where
  trivia := hg.append (hi.append hg')
  sublist := (List.Sublist.refl gap).append (List.sublist_append_right inserted gap')
  eq_of_kept := fun h => absurd h hk

theorem Trivia.isBreak_head {c : Char} {text : List Char} (h : Trivia (c :: text)) :
    isBreak c = true := by
  cases h with
  | blank hc _ => simp [isBreak, isBlank_iff.mpr hc]
  | comment hb _ => rfl

theorem Widened.loosened (hg : Widened kept gap gap') (h : Loosened rest rest') :
    Loosened (gap ++ rest) (gap' ++ rest') := by
  cases gap' with
  | nil =>
    obtain rfl := List.sublist_nil.mp hg.sublist
    exact h
  | cons c gap' => exact .gap hg.trivia.isBreak_head _ _

namespace Respaced

/-- Looking ahead shows the same, or comes upon what was put in. -/
theorem loosened (h : Respaced before kept tokens ahead ahead') : Loosened ahead ahead' := by
  induction h with
  | finish hg => simpa using hg.loosened .nil
  | token hg hw hstart hstop hr ih => exact hg.loosened (ih.append _)

theorem head?_eq (h : Respaced before kept tokens ahead ahead') (hk : kept) :
    ahead'.head? = ahead.head? := by
  cases h with
  | finish hg => rw [hg.eq_of_kept hk]
  | token hg hw =>
    obtain ⟨c, w, rfl⟩ := List.exists_cons_of_ne_nil hw
    simp [hg.eq_of_kept hk, List.head?_append]

end Respaced

/-! ## The tokens stay -/

/-- Of two beginnings of a text, the one with as many bytes is the same. -/
theorem eq_of_prefix_of_utf8Len_eq (text : List Char) {as bs : List Char} (ha : as <+: text)
    (hb : bs <+: text) (h : utf8Len as = utf8Len bs) : as = bs := by
  rcases List.prefix_or_prefix_of_prefix ha hb with ⟨tail, rfl⟩ | ⟨tail, rfl⟩
  · rw [String.utf8Len_append] at h
    obtain rfl : tail = [] := String.utf8Len_eq_zero.mp (by omega)
    exact (List.append_nil _).symm
  · rw [String.utf8Len_append] at h
    obtain rfl : tail = [] := String.utf8Len_eq_zero.mp (by omega)
    exact List.append_nil _

/-- Where nothing is to be skipped and a token without fault begins, there is no comment. -/
theorem lexeme_begins {first : Char} (ht : trivia (first :: rest) = 0)
    (hf : (lexeme first rest).faults = []) :
    isBlank first = false ∧ ¬ (first = '/' ∧ rest.head? = some '*') := by
  rw [trivia] at ht
  split at ht
  · cases ht
  next hb =>
    refine ⟨by simpa using hb, ?_⟩
    rintro ⟨rfl, hstar⟩
    rw [lexeme, oneOrTwo, if_pos hstar] at hf
    cases hf

/-- Nothing is skipped before a token, and it begins where the widened gap ends. -/
theorem drop_trivia_widened {first : Char} (hg : Trivia gap') (hb : isBlank first = false)
    (hc : ¬ (first = '/' ∧ rest.head? = some '*')) :
    (gap' ++ first :: rest).drop (trivia (gap' ++ first :: rest)) = first :: rest := by
  rw [trivia_append hg, trivia_eq_zero hb hc, Nat.add_zero, List.drop_left]

/-- **A token's bytes tell the gap before it and the characters that it takes.** -/
theorem word_of_span {first : Char} {c : Cursor} (hc : c.Follows before)
    (hr : c.skipTrivia.rest = first :: rest) (hrest : c.rest = gap ++ (word ++ ahead))
    (hstart : (readLexeme c.skipTrivia (lexeme first rest)).token.start = utf8Len (before ++ gap))
    (hstop : (readLexeme c.skipTrivia (lexeme first rest)).token.stop =
      utf8Len (before ++ gap ++ word)) :
    ∃ w, word = first :: w ∧ rest = w ++ ahead ∧ (lexeme first rest).more = w.length ∧
      (readLexeme c.skipTrivia (lexeme first rest)).after.Follows (before ++ gap ++ word) ∧
      (readLexeme c.skipTrivia (lexeme first rest)).after.rest = ahead := by
  have hskip : c.skipTrivia.Follows (before ++ c.rest.take (trivia c.rest)) := hc.advance _
  have hgap : gap = c.rest.take (trivia c.rest) :=
    List.append_cancel_left (eq_of_prefix_of_utf8Len_eq (before ++ c.rest)
      ((List.prefix_append_right_inj before).mpr ⟨word ++ ahead, hrest.symm⟩)
      ((List.prefix_append_right_inj before).mpr (List.take_prefix _ _))
      (hstart.symm.trans hskip.offset))
  have hahead : first :: rest = word ++ ahead := by
    have hsplit := c.take_append_skipTrivia
    rw [← hgap, hr, hrest] at hsplit
    exact List.append_cancel_left hsplit
  rw [← hgap] at hskip
  have hafter := hskip.advance ((lexeme first rest).more + 1)
  rw [hr] at hafter
  have hword : word = (first :: rest).take ((lexeme first rest).more + 1) :=
    List.append_cancel_left (eq_of_prefix_of_utf8Len_eq (before ++ gap ++ (word ++ ahead))
      ((List.prefix_append_right_inj _).mpr (List.prefix_append _ _))
      ((List.prefix_append_right_inj _).mpr (hahead ▸ List.take_prefix _ _))
      (hstop.symm.trans hafter.offset))
  have hlen : (rest.take (lexeme first rest).more).length = (lexeme first rest).more := by
    rw [List.length_take, Nat.min_eq_left (lexeme_more_le first rest)]
  rw [List.take_succ_cons] at hword
  have htail : rest = rest.take (lexeme first rest).more ++ ahead := by
    rw [hword] at hahead
    exact (List.cons.inj hahead).2
  refine ⟨_, hword, htail, hlen.symm, ?_, ?_⟩
  · rwa [List.take_succ_cons, ← hword] at hafter
  · have hdrop := List.take_append_drop (lexeme first rest).more rest
    rw [readLexeme, Cursor.rest_advance, hr, List.drop_succ_cons]
    exact List.append_cancel_left (hdrop.trans htail)

/-- **The tokens ahead are still there when gaps are widened.** -/
theorem lexes_of_respaced {c : Cursor} (hc : c.Follows before)
    (hf : (Stream.ofCursor c).faults = [])
    (h : Respaced before kept (Stream.ofCursor c).tokens c.rest ahead') :
    Lexes ahead' ((Stream.ofCursor c).tokens.map Token.kind) := by
  generalize htokens : (Stream.ofCursor c).tokens = tokens at h
  generalize hrest : c.rest = ahead at h
  induction h generalizing c with
  | @finish before gap gap' kept hg =>
    refine .finish ?_
    have hskip := trivia_append hg.trivia []
    rw [List.append_nil] at hskip
    rw [hskip, trivia, Nat.add_zero, List.drop_length]
  | @token before gap gap' word ahead ahead' kept t tokens hg hw hstart hstop hr ih =>
    have hne : c.skipTrivia.rest ≠ [] := by
      intro hnil
      rw [ofCursor_nil hnil] at htokens
      cases htokens
    obtain ⟨first, rest, hskip⟩ := List.exists_cons_of_ne_nil hne
    rw [ofCursor_cons hskip] at hf htokens
    obtain ⟨rfl, htail⟩ := List.cons.inj htokens
    obtain ⟨hfaults, hftail⟩ := List.append_eq_nil_iff.mp hf
    obtain ⟨w, rfl, rfl, hmore, hafter, hahead⟩ := word_of_span hc hskip hrest hstart hstop
    have hclean := List.map_eq_nil_iff.mp hfaults
    have hsame : lexeme first (w ++ ahead') = lexeme first (w ++ ahead) := by
      refine lexeme_loosened hr.loosened hclean hmore fun literal hl hlast => hr.head?_eq ⟨?_, ?_⟩
      · exact ⟨literal, (Lexeme.kind_eq_intended hclean).trans hl⟩
      · rwa [toList_of_decimal hl, hmore, List.take_left] at hlast
    have htriv : trivia (first :: (w ++ ahead)) = 0 := by
      rw [← hskip, Cursor.skipTrivia, Cursor.rest_advance]
      exact trivia_drop c.rest
    obtain ⟨hblank, hcomment⟩ := lexeme_begins htriv hclean
    have hcomment' : ¬ (first = '/' ∧ (w ++ ahead').head? = some '*') := fun hbegin =>
      hcomment ⟨hbegin.1, (hr.loosened.append w).head? (by decide) hbegin.2⟩
    have hdrop := drop_trivia_widened hg.trivia hblank hcomment'
    have hkinds := ih hafter hftail htail hahead
    have hkind : (readLexeme c.skipTrivia (lexeme first (w ++ ahead))).token.kind =
        (lexeme first (w ++ ahead')).intended := by
      rw [hsame]
      exact Lexeme.kind_eq_intended hclean
    rw [List.map_cons, hkind]
    refine .token hdrop (by rw [hsame, hclean]) ?_
    rw [hsame, hmore, List.drop_left]
    exact hkinds

/-! ## …and so does what they say -/

/-- A report without the place. -/
def Report.unplaced (r : Report) : Report := { r with position := none }

/-- The failure as it is told, but for the place. -/
def Failure.words (verbose : Bool) (f : Failure) : Except Misuse Report :=
  (f.report verbose).map Report.unplaced

theorem words_failure (s s' : Stream) (stop : Stop) (verbose : Bool) :
    (s'.failure stop).words verbose = (s.failure stop).words verbose := by
  cases stop <;> rfl

theorem mapError_bind {ε ε' α β : Type} (x : Except ε α) (f : α → Except ε β) (g : ε → ε') :
    (x >>= f).mapError g = x.mapError g >>= fun a => (f a).mapError g := by
  cases x <;> rfl

theorem mapError_mapError {ε ε' ε'' α : Type} (x : Except ε α) (f : ε → ε') (g : ε' → ε'') :
    (x.mapError f).mapError g = x.mapError (g ∘ f) := by
  cases x <;> rfl

/-- **What is read from tokens does not depend on their places.** -/
theorem ofStream_congr [Regex.Engine] {s s' : Stream}
    (h : s'.tokens.map Token.kind = s.tokens.map Token.kind) (verbose : Bool) :
    (Path.ofStream s').mapError (Failure.words verbose) =
      (Path.ofStream s).mapError (Failure.words verbose) := by
  have hwords : Failure.words verbose ∘ s'.failure = Failure.words verbose ∘ s.failure :=
    funext fun stop => words_failure s s' stop verbose
  unfold Path.ofStream
  rw [mapError_bind, mapError_bind, mapError_mapError, mapError_mapError, h, hwords]

/-- **Blanks and comments have no meaning.**  A text that is read without lexical fault may be
spaced out between its tokens: it keeps its tokens, and it is the same path, or no path for the same
reason. -/
theorem parse_respaced [Regex.Engine] {text text' : String} {s : Stream}
    (hs : tokens? text = .ok s) (h : Respaced [] False s.tokens text.toList text'.toList) :
    ∃ s', tokens? text' = .ok s' ∧ s'.tokens.map Token.kind = s.tokens.map Token.kind ∧
      ∀ verbose, (Path.parse text').mapError (Failure.words verbose) =
        (Path.parse text).mapError (Failure.words verbose) := by
  have hstream : tokenStream text = s ∧ s.faults = [] := by
    unfold tokens? at hs
    dsimp only at hs
    split at hs
    next hf => exact Except.ok.inj hs ▸ ⟨rfl, hf⟩
    · cases hs
  obtain ⟨rfl, hf⟩ := hstream
  have hl := lexes_of_respaced (.ofText text.toList) hf h
  obtain ⟨s', hs', hkinds⟩ := tokens?_eq_ok.mpr hl
  refine ⟨s', hs', hkinds, fun verbose => ?_⟩
  unfold Path.parse
  rw [hs, hs']
  exact ofStream_congr hkinds verbose

/-! ## A number that ends in a point -/

theorem lexeme_onePoint : lexeme '1' ['.', '.', '*'] = .plain (.decimal "1.") 1 := by
  have htail : decimalTail '1' ['.', '.', '*'] = (['.'], true) := rfl
  have hvalue : (Numeric.ofText? (String.ofList ['1', '.'])).isSome = true := by
    rw [Numeric.isSome_ofText?]
    decide +kernel
  have hkind : decimalKind ['1', '.'] true = .ok (.decimal "1.") := by
    rw [decimalKind, Bool.not_true, Bool.false_and, if_neg Bool.false_ne_true, if_pos hvalue]
  have hnumeral : numeral '1' ['.', '.', '*'] = ⟨1, .ok (.decimal "1.")⟩ := by
    rw [numeral_eq_decimalNumeral fun _ _ hz => absurd hz (by decide)]
    exact decimalNumeral_eq_ok.mpr
      ⟨by decide, by rw [htail]; rfl, by decide, by rw [htail]; exact hkind⟩
  have hlexeme : lexeme '1' ['.', '.', '*'] = .ofNumeral (numeral '1' ['.', '.', '*']) := rfl
  rw [hlexeme, hnumeral]
  rfl

/-- The tokens of such a number and an accessor after it. -/
def onePoint : List Token :=
  [⟨.decimal "1.", 0, 2, ⟨1, 1⟩⟩, ⟨.dot, 2, 3, ⟨1, 3⟩⟩, ⟨.star, 3, 4, ⟨1, 4⟩⟩]

theorem skipTrivia_of_trivia {c : Cursor} (h : trivia c.rest = 0) : c.skipTrivia = c := by
  rw [Cursor.skipTrivia, h, Cursor.advance_zero]

theorem tokens?_onePoint : tokens? "1..*" = .ok ⟨onePoint, ⟨.finish, 4, 4, ⟨1, 5⟩⟩, []⟩ := by
  have hskip : Cursor.skipTrivia ⟨['1', '.', '.', '*'], 0, ⟨1, 1⟩⟩ = _ :=
    skipTrivia_of_trivia (trivia_eq_zero (by decide) (by decide))
  have hskip₂ : Cursor.skipTrivia ⟨['.', '*'], 2, ⟨1, 3⟩⟩ = _ :=
    skipTrivia_of_trivia (trivia_eq_zero (by decide) (by decide))
  have hskip₃ : Cursor.skipTrivia ⟨['*'], 3, ⟨1, 4⟩⟩ = _ :=
    skipTrivia_of_trivia (trivia_eq_zero (by decide) (by decide))
  have hskip₄ : Cursor.skipTrivia ⟨[], 4, ⟨1, 5⟩⟩ = _ :=
    skipTrivia_of_trivia trivia.eq_1
  have hread : tokenStream "1..*" = ⟨onePoint, ⟨.finish, 4, 4, ⟨1, 5⟩⟩, []⟩ := by
    change Stream.ofCursor ⟨['1', '.', '.', '*'], 0, ⟨1, 1⟩⟩ = _
    rw [ofCursor_cons (by rw [hskip]), hskip, lexeme_onePoint]
    change (Stream.ofCursor ⟨['.', '*'], 2, ⟨1, 3⟩⟩).push _ = _
    rw [ofCursor_cons (by rw [hskip₂]), hskip₂]
    change ((Stream.ofCursor ⟨['*'], 3, ⟨1, 4⟩⟩).push _).push _ = _
    rw [ofCursor_cons (by rw [hskip₃]), hskip₃]
    change (((Stream.ofCursor ⟨[], 4, ⟨1, 5⟩⟩).push _).push _).push _ = _
    rw [ofCursor_nil (by rw [hskip₄]), hskip₄]
    rfl
  rw [tokens?, hread]

theorem respaced_onePoint :
    Respaced [] False onePoint "1..*".toList "\t1../* a */\n*/**/".toList := by
  have hstar : Respaced ['1', '.', '.', '*'] (TokenKind.star.EndsInPoint ['*']) [] []
      "/**/".toList :=
    .finish (.insert (fun h => absurd h.2 (by decide)) .nil
      (@Trivia.comment [] _ (by decide) .nil) .nil)
  have hdot : Respaced ['1', '.', '.'] (TokenKind.dot.EndsInPoint ['.'])
      [⟨.star, 3, 4, ⟨1, 4⟩⟩] ['*'] "/* a */\n*/**/".toList :=
    @Respaced.token _ [] "/* a */\n".toList ['*'] _ _ _ _ _
      (.insert (fun h => nomatch h.1) .nil
        (@Trivia.comment [' ', 'a', ' '] _ (by decide) (.blank .lineFeed .nil)) .nil)
      (by decide) (by decide) (by decide) hstar
  have hnumber : Respaced ['1', '.'] ((TokenKind.decimal "1.").EndsInPoint ['1', '.'])
      [⟨.dot, 2, 3, ⟨1, 3⟩⟩, ⟨.star, 3, 4, ⟨1, 4⟩⟩] ['.', '*'] "./* a */\n*/**/".toList :=
    @Respaced.token _ [] [] ['.'] _ _ _ _ _ ⟨.nil, List.nil_sublist _, fun _ => rfl⟩
      (by decide) (by decide) (by decide) hdot
  exact @Respaced.token _ [] ['\t'] ['1', '.'] _ _ _ _ _
    (.insert not_false .nil (.blank .tab .nil) .nil) (by decide) (by decide) (by decide) hnumber

theorem parse_respaced_onePoint :
    tokens? "1..*" = .ok ⟨onePoint, ⟨.finish, 4, 4, ⟨1, 5⟩⟩, []⟩ ∧
      Respaced [] False onePoint "1..*".toList "\t1../* a */\n*/**/".toList ∧
      ∃ s', tokens? "\t1../* a */\n*/**/" = .ok s' ∧
        s'.tokens.map Token.kind = [.decimal "1.", .dot, .star] ∧
        ∀ verbose, (Path.parse "\t1../* a */\n*/**/").mapError (Failure.words verbose) =
          (Path.parse "1..*").mapError (Failure.words verbose) :=
  ⟨tokens?_onePoint, respaced_onePoint, parse_respaced tokens?_onePoint respaced_onePoint⟩

end PathExpr
