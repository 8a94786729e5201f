import PathExpr.Proofs.Lexical.Numerals
import PathExpr.Proofs.Lexical.Quoted
import PathExpr.Proofs.Number.Printed
import PathExpr.Proofs.Printing.Layout

/-!
# PathExpr/Proofs/Printing/Pieces — the texts between operands

Parentheses, the accessors without chains in them, the flags after a pattern: each is read as the
tokens that the grammar has for it.
-/

namespace PathExpr

variable {boundary : List Char → Prop} {text rest : List Char} {ts : List TokenKind}

/-! ## Around a text -/

theorem spells_enclosed {first last : Char} {t u : TokenKind} (hf : Symbol first t)
    (hl : Symbol last u) (hd : ∀ rest, Delimited (last :: rest)) (h : Spells Delimited text ts) :
    Spells Anything (first :: text ++ [last]) (t :: ts ++ [u]) :=
  (spells_symbol hf).append (h.append (spells_symbol hl) fun rest _ => hd rest) fun _ _ => trivial

/-- **A text in parentheses is read as its tokens in parentheses.** -/
theorem spells_parentheses (h : Spells Delimited text ts) :
    Spells Anything ('(' :: text ++ [')']) (.openParen :: ts ++ [.closeParen]) :=
  spells_enclosed .openParen .closeParen (fun _ => delimited_cons (by decide)) h

theorem spells_brackets (h : Spells Delimited text ts) :
    Spells Anything ('[' :: text ++ [']']) (.openBracket :: ts ++ [.closeBracket]) :=
  spells_enclosed .openBracket .closeBracket (fun _ => delimited_cons (by decide)) h

theorem spells_braces (h : Spells Delimited text ts) :
    Spells Anything ('\x7b' :: text ++ ['\x7d']) (.openBrace :: ts ++ [.closeBrace]) :=
  spells_enclosed .openBrace .closeBrace (fun _ => delimited_cons (by decide)) h

/-- A word with blanks around it. -/
theorem spells_between (k : Keyword) :
    Spells Anything (' ' :: k.word.toList ++ [' ']) [.keyword k k.word] :=
  spells_blank.append ((spells_keyword k).append spells_blank fun _ _ => endsName_blank)
    fun _ _ => trivial

/-- A text that is no fraction, after a dot. -/
theorem Spells.dotted (h : Spells boundary text ts)
    (hd : ∀ rest, startsWithDigit 10 (text ++ rest) = false) :
    Spells boundary ('.' :: text) (.dot :: ts) :=
  fun rest _ hr hl => lexes_dot (hd rest) (h hr hl)

/-- **The method that a word names, with its arguments.** -/
theorem spells_method (k : Keyword) (h : Spells Delimited text ts) :
    Spells Anything ('.' :: (k.word.toList ++ ('(' :: text ++ [')'])))
      (.dot :: .keyword k k.word :: .openParen :: ts ++ [.closeParen]) := by
  have hword : Spells Anything (k.word.toList ++ ('(' :: text ++ [')']))
      (.keyword k k.word :: .openParen :: ts ++ [.closeParen]) :=
    (spells_keyword k).append (spells_parentheses h) fun _ _ =>
      endsName_cons (by decide) (by decide)
  refine hword.dotted fun rest => ?_
  cases k <;> rfl

/-! ## Accessors of members -/

theorem spells_toDigits {n : Nat} {m : Int} (h : readInteger? (Nat.toDigits 10 n) = some m) :
    Spells Delimited (Nat.toDigits 10 n) [.integer (String.ofList (Nat.toDigits 10 n))] := by
  have hpointed : Nat.toDigits 10 n ++ Decimal.pointed [] = Nat.toDigits 10 n := List.append_nil _
  rw [← hpointed]
  refine spells_plain (plain_toDigits n) ?_
  rw [hpointed, decimalKind, h]
  rfl

/-- The level that a text writes is that of its token. -/
theorem exists_levelToken (level : Level) :
    ∃ t, Spells Delimited level.text.toList [t] ∧ LevelToken t level := by
  cases level with
  | depth n =>
    have hread : readInteger? (Nat.toDigits 10 n.val) = some (n.val : Int) := by
      refine (readInteger?_plain (plain_toDigits n.val)).mpr ⟨?_, ?_⟩
      · rw [natOfDigits_toDigits (by decide) (by decide)]
      · have hn := n.isLt
        have hmax : maxInteger = 9223372036854775807 := rfl
        omega
    have htext : (Level.depth n).text.toList = Nat.toDigits 10 n.val := Nat.toList_repr
    rw [htext]
    exact ⟨_, spells_toDigits hread, .depth (by simpa using hread)⟩
  | deepest => exact ⟨_, spells_keyword_delimited .last, .last _⟩

/-- **The accessor of members at some levels is read back.** -/
theorem exists_any [Regex.Engine] (first last : Level) :
    ∃ ts, Spells Anything ('.' :: anyText first last) (.dot :: ts) ∧
      Member ts (.any first last) := by
  have hstars : Spells Anything ".**".toList [.dot, .doubleStar] :=
    spells_doubleStar.dotted fun _ => rfl
  obtain ⟨t, ht, hfirst⟩ := exists_levelToken first
  unfold anyText
  split
  next h =>
    obtain ⟨rfl, rfl⟩ := h
    exact ⟨_, hstars, .any⟩
  next h =>
    split
    next h =>
      subst h
      have hs := hstars.append (spells_braces ht) fun _ _ => trivial
      exact ⟨_, hs, .anyAt hfirst⟩
    next h =>
      obtain ⟨u, hu, hlast⟩ := exists_levelToken last
      have hinner := ht.append ((spells_between .toWord).append hu fun _ _ => trivial)
        fun _ _ => delimited_cons (by decide)
      have hs := hstars.append (spells_braces hinner) fun _ _ => trivial
      refine ⟨_, ?_, .anyBetween Keyword.toWord.word hfirst hlast⟩
      simpa [Keyword.word] using hs

/-- The word that names a method. -/
theorem exists_keyword (m : Method) : ∃ k : Keyword, k.word = m.name := by
  have h : ∀ m : Method, (Keyword.all.any fun k => k.word = m.name) = true := by
    rintro ⟨⟩ <;> decide
  obtain ⟨k, -, hk⟩ := List.any_eq_true.mp (h m)
  exact ⟨k, of_decide_eq_true hk⟩

/-! ## Flags -/

theorem read_flags_text (fs : Regex.Flags) : Regex.Flags.read fs.text = .ok fs := by
  obtain ⟨i, s, m, x, q⟩ := fs
  revert i s m x q
  decide

/-- Letters of flags are written as they stand. -/
theorem quoted_flags_text (fs : Regex.Flags) : quoted fs.text = '"' :: fs.text.toList ++ ['"'] := by
  obtain ⟨i, s, m, x, q⟩ := fs
  revert i s m x q
  decide

theorem nulFree_flags_text (fs : Regex.Flags) : NulFree fs.text := by
  obtain ⟨i, s, m, x, q⟩ := fs
  revert i s m x q
  unfold NulFree
  decide

/-- **The flags after a pattern are read back.** -/
theorem exists_flagClause (fs : Regex.Flags) :
    ∃ ts, Spells Delimited (flagText fs) ts ∧ FlagClause ts fs := by
  unfold flagText
  split
  next h =>
    obtain rfl : fs = .empty := of_decide_eq_true h
    exact ⟨[], spells_nil, .absent⟩
  next h =>
    refine ⟨_, ?_, .present Keyword.flag.word (read_flags_text fs)⟩
    have hs := (spells_between .flag).append (spells_quoted (nulFree_flags_text fs))
      fun _ _ => trivial
    rw [quoted_flags_text] at hs
    have htext : (" flag \"" ++ fs.text ++ "\"").toList =
        ' ' :: Keyword.flag.word.toList ++ [' '] ++ ('"' :: fs.text.toList ++ ['"']) := by
      simp [String.toList_append, Keyword.word]
    rw [htext]
    exact hs.anything

end PathExpr
