import PathExpr.Proofs.Lexical.Lexes

/-!
# PathExpr/Proofs/Lexical/Reach — tokens take what is there

The parts of a number are read from the front of the text, one after another, and so is what a name
or a string literal decodes.  So no token takes more characters than there are (`lexeme_more_le`).
-/

namespace PathExpr

variable {text : List Char}

/-! ## Numbers -/

theorem digitRun_isPrefix (radix : Nat) (after : Bool) (text : List Char) :
    digitRun radix after text <+: text := by
  induction text generalizing after with
  | nil => exact List.prefix_rfl
  | cons c text ih =>
    rw [digitRun]
    split
    · exact (List.prefix_cons_inj c).mpr (ih true)
    · split
      · exact (List.prefix_cons_inj c).mpr (ih false)
      · exact List.nil_prefix

/-- What stands between a mantissa and the digits of its exponent. -/
inductive ExponentMark : List Char → Prop
  | bare {mark : Char} (h : mark = 'e' ∨ mark = 'E') : ExponentMark [mark]
  | signed {mark sign : Char} (h : mark = 'e' ∨ mark = 'E') (hs : sign = '+' ∨ sign = '-') :
      ExponentMark [mark, sign]

theorem exponentMark_append {mark : List Char} {digit : Char} (hm : ExponentMark mark)
    (hd : isDecimalDigit digit = true) (rest : List Char) :
    exponentMark (mark ++ digit :: rest) = mark := by
  have hstart : startsWithDigit 10 (digit :: rest) = true := hd
  cases hm with
  | bare h =>
    rw [List.singleton_append, exponentMark, if_pos h, if_pos hstart]
    · rintro _ e
      obtain ⟨rfl, -⟩ := List.cons.inj e
      exact absurd hd (by decide)
    · rintro _ e
      obtain ⟨rfl, -⟩ := List.cons.inj e
      exact absurd hd (by decide)
  | signed h hs =>
    rcases hs with rfl | rfl <;>
    · rw [List.cons_append, List.singleton_append, exponentMark, if_pos h, if_pos hstart]

theorem exists_digit (h : startsWithDigit 10 text = true) :
    ∃ digit rest, text = digit :: rest ∧ isDecimalDigit digit = true := by
  cases text with
  | nil => cases h
  | cons digit rest => exact ⟨digit, rest, rfl, h⟩

/-- **An exponent is a mark and digits, of which there is one at least.** -/
theorem exponentMark_cases (text : List Char) :
    exponentMark text = [] ∨ ∃ mark digit rest, ExponentMark mark ∧ isDecimalDigit digit = true ∧
      text = mark ++ digit :: rest := by
  cases text with
  | nil => exact .inl rfl
  | cons mark text =>
    rw [exponentMark.eq_def]
    dsimp only
    split
    next hm =>
      split
      next more =>
        split
        next hd =>
          obtain ⟨digit, rest, rfl, hd⟩ := exists_digit hd
          exact .inr ⟨_, digit, rest, .signed hm (.inl rfl), hd, rfl⟩
        · exact .inl rfl
      next more =>
        split
        next hd =>
          obtain ⟨digit, rest, rfl, hd⟩ := exists_digit hd
          exact .inr ⟨_, digit, rest, .signed hm (.inr rfl), hd, rfl⟩
        · exact .inl rfl
      next =>
        split
        next hd =>
          obtain ⟨digit, rest, rfl, hd⟩ := exists_digit hd
          exact .inr ⟨_, digit, rest, .bare hm, hd, rfl⟩
        · exact .inl rfl
    · exact .inl rfl

theorem exponentPart_of_nil (h : exponentMark text = []) : exponentPart text = [] := by
  rw [exponentPart, h]

theorem exponentPart_append {mark : List Char} {digit : Char} (hm : ExponentMark mark)
    (hd : isDecimalDigit digit = true) (rest : List Char) :
    exponentPart (mark ++ digit :: rest) = mark ++ digitRun 10 false (digit :: rest) := by
  rw [exponentPart, exponentMark_append hm hd]
  cases hm <;> rfl

theorem exponentPart_isPrefix (text : List Char) : exponentPart text <+: text := by
  rcases exponentMark_cases text with h | ⟨mark, digit, rest, hm, hd, rfl⟩
  · rw [exponentPart_of_nil h]
    exact List.nil_prefix
  · rw [exponentPart_append hm hd]
    exact (List.prefix_append_right_inj mark).mpr (digitRun_isPrefix 10 false _)

theorem fractionPart_isPrefix (text : List Char) : fractionPart text <+: text := by
  unfold fractionPart
  split
  next rest =>
    split
    · exact (List.prefix_cons_inj '.').mpr (digitRun_isPrefix 10 false rest)
    · split
      · exact (List.prefix_cons_inj '.').mpr List.nil_prefix
      · exact List.nil_prefix
  · exact List.nil_prefix

theorem append_isPrefix {as bs : List Char} (ha : as <+: text) (hb : bs <+: text.drop as.length) :
    as ++ bs <+: text := by
  obtain ⟨rest, rfl⟩ := ha
  rw [List.drop_left] at hb
  exact (List.prefix_append_right_inj as).mpr hb

/-- **A decimal number is read from the front of the text.** -/
theorem decimalTail_isPrefix (first : Char) (text : List Char) :
    (decimalTail first text).1 <+: text := by
  rw [decimalTail.eq_def]
  extract_lets whole fraction mantissa exponent
  have hwhole : whole <+: text := by
    unfold whole
    split
    · exact digitRun_isPrefix 10 false text
    · split
      · exact List.nil_prefix
      · exact digitRun_isPrefix 10 true text
  have hfraction : fraction <+: text.drop whole.length := by
    unfold fraction
    split
    · exact List.nil_prefix
    · exact fractionPart_isPrefix _
  exact append_isPrefix (append_isPrefix hwhole hfraction) (exponentPart_isPrefix _)

/-- A run of characters that begins within the text ends within it. -/
theorem add_length_takeWhile_le (p : Char → Bool) {n : Nat} (h : n ≤ text.length) :
    n + ((text.drop n).takeWhile p).length ≤ text.length := by
  have hlen := (List.takeWhile_prefix p (l := text.drop n)).length_le
  rw [List.length_drop] at hlen
  omega

theorem length_takeWhile_take_le (p : Char → Bool) (n : Nat) (text : List Char) :
    ((text.take n).takeWhile p).length ≤ text.length :=
  Nat.le_trans (List.takeWhile_prefix p).length_le (List.length_take_le' n text)

theorem decimalNumeral_more_le (first : Char) (text : List Char) :
    (decimalNumeral first text).more ≤ text.length := by
  have hlen := (decimalTail_isPrefix first text).length_le
  unfold decimalNumeral
  split
  · exact (List.takeWhile_prefix isNameChar).length_le
  · split
    next tail hasPoint htail =>
      rw [htail] at hlen
      extract_lets rest
      split
      · exact add_length_takeWhile_le isNameChar hlen
      · exact hlen

theorem radixNumeral_more_le (radix : Radix) (mark : Char) (text : List Char) :
    (radixNumeral radix mark text).more ≤ text.length + 1 := by
  have hdigits := (digitRun_isPrefix radix.base false text).length_le
  rw [radixNumeral.eq_def]
  extract_lets digits rest run literal
  have hname : digits.length + (nameRun rest).length ≤ text.length :=
    add_length_takeWhile_le isNameChar hdigits
  have hrun : digits.length + run.length ≤ text.length := add_length_takeWhile_le _ hdigits
  have htext : (nameRun text).length ≤ text.length := (List.takeWhile_prefix isNameChar).length_le
  change digits.length ≤ text.length at hdigits
  split
  · dsimp only
    omega
  · split
    · dsimp only
      omega
    · split <;>
      · dsimp only
        omega

theorem numeral_more_le (first : Char) (text : List Char) :
    (numeral first text).more ≤ text.length := by
  unfold numeral
  split
  · split
    · split
      · exact radixNumeral_more_le _ _ _
      · exact decimalNumeral_more_le _ _
    · exact decimalNumeral_more_le _ _
  · exact decimalNumeral_more_le _ _

/-! ## Escape sequences -/

theorem codeUnit_le (text : List Char) : (codeUnit text).2 ≤ text.length := by
  unfold codeUnit
  split
  next rest =>
    extract_lets digits
    have hlen : digits.length ≤ rest.length :=
      length_takeWhile_take_le _ 6 rest
    split
    next hbrace =>
      have hdrop := congrArg List.length hbrace
      simp only [List.length_drop, List.length_cons] at hdrop ⊢
      omega
    · simpa using hlen
  · extract_lets digits
    have hlen : digits.length ≤ text.length :=
      length_takeWhile_take_le _ 4 text
    split
    · omega
    · exact hlen

theorem unitEscape_le (text : List Char) : (unitEscape text).2 ≤ text.length := by
  have hle := codeUnit_le text
  unfold unitEscape
  split
  next hunit => rwa [hunit] at hle
  next unit used hunit =>
    rw [hunit] at hle
    split
    · exact hle
    · split
      · split
        next more hmore =>
          have hdrop := congrArg List.length hmore
          simp only [List.length_drop, List.length_cons] at hdrop
          have hle' := codeUnit_le more
          split
          next hlow =>
            rw [hlow] at hle'
            simp only at hle' ⊢
            omega
          next hlow =>
            rw [hlow] at hle'
            split <;>
            · simp only at hle' ⊢
              omega
        · exact hle
      · exact hle

theorem escape_le (text : List Char) : (escape text).2 ≤ text.length := by
  unfold escape
  split
  · exact Nat.le_refl _
  next rest =>
    have hle : (byteEscape rest).2 ≤ rest.length := by
      rw [byteEscape.eq_def]
      extract_lets digits code
      have hlen : digits.length ≤ rest.length :=
        length_takeWhile_take_le _ 2 rest
      split
      · omega
      · exact hlen
    exact Nat.succ_le_succ hle
  next rest => exact Nat.succ_le_succ (unitEscape_le rest)
  · split <;> exact Nat.succ_le_succ (Nat.zero_le _)

/-! ## Names and string literals -/

theorem used_pushEscape (r : Run) (result : Except LexicalFault Char) (seen : Nat) :
    (r.pushEscape result seen).used = r.used := by
  cases result <;> rfl

theorem nameRest_used_le (seen : Nat) (text : List Char) :
    (nameRest seen text).used ≤ seen + text.length := by
  induction seen, text using nameRest.induct
  case case1 => simp [nameRest]
  case case2 seen rest e ih =>
    have hle := escape_le rest
    rw [nameRest, if_pos rfl]
    dsimp only
    rw [used_pushEscape]
    simp only [e, List.length_drop, List.length_cons] at ih ⊢
    omega
  case case3 seen c rest hc hn ih =>
    rw [nameRest, if_neg hc, if_pos hn, List.length_cons]
    simp only [Run.push]
    omega
  case case4 seen c rest hc hn =>
    rw [nameRest, if_neg hc, if_neg hn]
    exact Nat.le_add_right _ _

theorem stringRest_used_le (seen : Nat) (text : List Char) :
    (stringRest seen text).used ≤ seen + text.length := by
  induction seen, text using stringRest.induct
  case case1 => simp [stringRest]
  case case2 => simp [stringRest]
  case case3 seen rest e hq ih =>
    have hle := escape_le rest
    rw [stringRest, if_neg (by decide), if_pos rfl]
    dsimp only
    rw [used_pushEscape]
    simp only [e, List.length_drop, List.length_cons] at ih ⊢
    omega
  case case4 seen c rest hq hc hn ih =>
    rw [stringRest, if_neg hq, if_neg hc, if_pos hn, List.length_cons]
    simp only [Run.withFault]
    omega
  case case5 seen c rest hq hc hn ih =>
    rw [stringRest, if_neg hq, if_neg hc, if_neg hn, List.length_cons]
    simp only [Run.push]
    omega

/-! ## Tokens -/

theorem ofNumeral_more (n : Numeral) : (Lexeme.ofNumeral n).more = n.more := by
  unfold Lexeme.ofNumeral
  split <;> rfl

theorem oneOrTwo_more_le {second : Char} {long short : Lexeme} {rest : List Char}
    (hl : rest ≠ [] → long.more ≤ rest.length) (hs : short.more ≤ rest.length) :
    (oneOrTwo second long short rest).more ≤ rest.length := by
  unfold oneOrTwo
  split
  next h => exact hl (by rintro rfl; cases h)
  · exact hs

/-- **No token takes more characters than there are.** -/
theorem lexeme_more_le (first : Char) (rest : List Char) :
    (lexeme first rest).more ≤ rest.length := by
  have hone : rest ≠ [] → 1 ≤ rest.length := List.length_pos_iff.mpr
  have hstring := stringRest_used_le 1 rest
  unfold lexeme
  split
  case h_1 =>
    unfold dollarSign
    split
    next body =>
      have hle := stringRest_used_le 2 body
      simp only [Lexeme.ofRun, List.length_cons]
      omega
    next c rest _ =>
      have hle := nameRest_used_le 1 (c :: rest)
      split
      · simp only [Lexeme.ofRun]
        omega
      · exact Nat.zero_le _
    · exact Nat.zero_le _
  case h_13 => exact oneOrTwo_more_le (fun _ => Nat.le_refl _) (Nat.zero_le _)
  case h_15 =>
    split
    · rw [ofNumeral_more]
      exact numeral_more_le _ _
    · exact Nat.zero_le _
  case h_17 =>
    simp only [Lexeme.ofRun]
    omega
  case h_24 =>
    split
    · rw [ofNumeral_more]
      exact numeral_more_le _ _
    · split
      · have hle := nameRest_used_le 0 (first :: rest)
        simp only [word, Lexeme.ofRun, List.length_cons] at hle ⊢
        omega
      · exact Nat.zero_le _
  all_goals first
    | exact Nat.zero_le _
    | exact oneOrTwo_more_le hone (Nat.zero_le _)
    | exact oneOrTwo_more_le hone (oneOrTwo_more_le hone (Nat.zero_le _))

/-! ## Numbers without fault -/

variable {first : Char} {rest : List Char} {t : TokenKind} {more : Nat}

theorem Numeral.eq_of_kind {n : Numeral} (h : n.kind = .ok t) : n = ⟨n.more, .ok t⟩ := by
  rw [← h]

/-- **When a number without radix mark is free of faults.** -/
theorem decimalNumeral_eq_ok :
    decimalNumeral first text = ⟨more, .ok t⟩ ↔
      ¬ (first = '0' ∧ (startsWithDigit 10 text ∨ text.head? = some '_')) ∧
      more = (decimalTail first text).1.length ∧ startsWithName (text.drop more) = false ∧
      decimalKind (first :: (decimalTail first text).1) (decimalTail first text).2 = .ok t := by
  unfold decimalNumeral
  by_cases hjunk : first = '0' ∧ (startsWithDigit 10 text ∨ text.head? = some '_')
  · rw [if_pos hjunk]
    exact ⟨nofun, fun h => absurd hjunk h.1⟩
  rw [if_neg hjunk]
  dsimp only
  split
  next hname =>
    refine ⟨nofun, ?_⟩
    rintro ⟨-, rfl, hn, -⟩
    rw [hn] at hname
    cases hname
  next hname =>
    rw [Numeral.mk.injEq]
    constructor
    · rintro ⟨rfl, hk⟩
      exact ⟨hjunk, rfl, by simpa using hname, hk⟩
    · rintro ⟨-, rfl, -, hk⟩
      exact ⟨rfl, hk⟩

/-- **When a number with radix mark is free of faults.** -/
theorem radixNumeral_eq_ok {radix : Radix} {mark : Char} :
    radixNumeral radix mark text = ⟨more, .ok t⟩ ↔
      digitRun radix.base false text ≠ [] ∧
      more = 1 + (digitRun radix.base false text).length ∧
      ¬ (radix = .hexadecimal ∧
        binaryExponentAhead (text.drop (digitRun radix.base false text).length)) ∧
      startsWithName (text.drop (digitRun radix.base false text).length) = false ∧
      (readInteger? ('0' :: mark :: digitRun radix.base false text)).isSome = true ∧
      t = .integer (String.ofList ('0' :: mark :: digitRun radix.base false text)) := by
  rw [radixNumeral.eq_def]
  extract_lets digits rest run literal
  by_cases hd : digits = []
  · rw [if_pos hd]
    exact ⟨nofun, fun h => absurd hd h.1⟩
  rw [if_neg hd]
  by_cases hb : radix = .hexadecimal ∧ binaryExponentAhead rest
  · rw [if_pos hb]
    exact ⟨nofun, fun h => absurd hb h.2.2.1⟩
  rw [if_neg hb]
  by_cases hn : startsWithName rest = true
  · rw [if_pos hn]
    exact ⟨nofun, fun h => absurd (h.2.2.2.1.symm.trans hn) (by decide)⟩
  rw [if_neg hn, Numeral.mk.injEq]
  split
  next hi =>
    constructor
    · rintro ⟨rfl, hk⟩
      exact ⟨hd, rfl, hb, by simpa using hn, hi, (Except.ok.inj hk).symm⟩
    · rintro ⟨-, rfl, -, -, -, rfl⟩
      exact ⟨rfl, rfl⟩
  next hi => exact ⟨fun h => (nomatch h.2), fun h => absurd h.2.2.2.2.1 hi⟩

theorem eq_of_decimalKind {literal : List Char} {hasPoint : Bool}
    (h : decimalKind literal hasPoint = .ok t) :
    t = .integer (String.ofList literal) ∨ t = .decimal (String.ofList literal) := by
  rw [decimalKind.eq_def] at h
  extract_lets spelling at h
  split at h
  · exact .inl (Except.ok.inj h).symm
  · split at h
    · exact .inr (Except.ok.inj h).symm
    · cases h

/-- **A number is spelt by the characters that it takes.** -/
theorem spelling_of_numeral (h : (numeral first text).kind = .ok t) :
    t = .integer (String.ofList (first :: text.take (numeral first text).more)) ∨
      t = .decimal (String.ofList (first :: text.take (numeral first text).more)) := by
  have hdec : ∀ {text}, (decimalNumeral first text).kind = .ok t →
      t = .integer (String.ofList (first :: text.take (decimalNumeral first text).more)) ∨
        t = .decimal (String.ofList (first :: text.take (decimalNumeral first text).more)) := by
    intro text h
    obtain ⟨-, hmore, -, hk⟩ := decimalNumeral_eq_ok.mp (Numeral.eq_of_kind h)
    rw [hmore, (List.prefix_iff_eq_take.mp (decimalTail_isPrefix first text)).symm]
    exact eq_of_decimalKind hk
  unfold numeral at h ⊢
  split at h
  next mark rest =>
    split at h
    next radix hradix =>
      split at h
      next hz =>
        obtain ⟨-, hmore, -, -, -, ht⟩ := radixNumeral_eq_ok.mp (Numeral.eq_of_kind h)
        rw [if_pos hz, hmore, Nat.add_comm, List.take_succ_cons,
          (List.prefix_iff_eq_take.mp (digitRun_isPrefix radix.base false rest)).symm, hz]
        exact .inl ht
      next hz =>
        rw [if_neg hz]
        exact hdec h
    · exact hdec h
  · exact hdec h

/-! ## Decimal tokens -/

theorem ne_decimal_of_ofWord? {word : List Char} {literal : String} :
    TokenKind.ofWord? word ≠ some (.decimal literal) := by
  intro h
  unfold TokenKind.ofWord? at h
  split at h
  · cases h
  · split at h
    · cases h
    · split at h
      · cases h
      · obtain ⟨k, -, hk⟩ := Option.map_eq_some_iff.mp h
        cases hk

theorem ne_decimal_of_word {literal : String} : (word text).intended ≠ .decimal literal := by
  rw [word.eq_def]
  extract_lets r name
  intro h
  change (if r.escaped then name else (TokenKind.ofWord? r.value).getD name) = _ at h
  have hname : name ≠ .decimal literal := nofun
  split at h
  · exact hname h
  · cases hw : TokenKind.ofWord? r.value with
    | none => exact hname (by rwa [hw] at h)
    | some t => rw [hw] at h; exact ne_decimal_of_ofWord? (hw.trans (congrArg some h))

theorem lexeme_of_decimal {literal : String}
    (h : (lexeme first rest).intended = .decimal literal) :
    lexeme first rest = .ofNumeral (numeral first rest) := by
  revert h
  unfold lexeme
  split
  case h_15 =>
    split
    · exact fun _ => rfl
    · exact nofun
  case h_24 =>
    split
    · exact fun _ => rfl
    · split
      · exact fun h => absurd h ne_decimal_of_word
      · exact nofun
  case h_1 =>
    unfold dollarSign
    split
    · exact nofun
    · split <;> exact nofun
    · exact nofun
  case h_20 =>
    unfold oneOrTwo
    split
    · exact nofun
    · split <;> exact nofun
  case h_13 | h_16 | h_18 | h_19 | h_21 | h_22 | h_23 =>
    unfold oneOrTwo
    split <;> exact nofun
  all_goals exact nofun

/-- **A decimal token is spelt by the characters that it takes.** -/
theorem toList_of_decimal {literal : String}
    (h : (lexeme first rest).intended = .decimal literal) :
    literal.toList = first :: rest.take (lexeme first rest).more := by
  have hl := lexeme_of_decimal h
  rw [hl] at h ⊢
  rw [ofNumeral_more]
  unfold Lexeme.ofNumeral at h
  split at h
  next hkind =>
    obtain rfl := h
    rcases spelling_of_numeral hkind with hl | hl
    · cases hl
    · rw [TokenKind.decimal.inj hl, String.toList_ofList]
  · cases h

end PathExpr
