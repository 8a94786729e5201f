import PathExpr.Proofs.Lexical.Lexes
import PathExpr.Proofs.Number.Sign

/-!
# PathExpr/Proofs/Lexical/Genuine — what tokens carry

The tokens of a text carry texts without the character zero, as no escape sequence stands for it and
no name or string literal may hold it as it is, and their numbers are literals without sign that
have a value.  `TokenKind.Genuine` says this of one token, `Lexes.genuine` of all tokens of a text.
-/

namespace PathExpr

/-- The text is free of the character zero. -/
def NulFree (s : String) : Prop := '\x00' ∉ s.toList

/-- What a token of a text is known to carry; the end of the path is not one of them. -/
def TokenKind.Genuine : TokenKind → Prop
  | finish => False
  | name value => NulFree value
  | string value => NulFree value
  | «variable» value => NulFree value
  | keyword _ spelling => NulFree spelling
  | integer literal => ∃ i : Integer, i.literal = literal ∧ 0 ≤ i.value
  | decimal literal => ∃ n : Numeric, n.literal = literal ∧ Unsigned literal.toList
  | _ => True

/-- What the tokens of a text are known to carry. -/
def AllGenuine (ts : List TokenKind) : Prop := ∀ t ∈ ts, t.Genuine

namespace AllGenuine

variable {t : TokenKind} {ts us : List TokenKind}

theorem head (h : AllGenuine (t :: ts)) : t.Genuine := h t List.mem_cons_self

theorem tail (h : AllGenuine (t :: ts)) : AllGenuine ts := (List.forall_mem_cons.mp h).2

theorem left (h : AllGenuine (ts ++ us)) : AllGenuine ts := (List.forall_mem_append.mp h).1

theorem right (h : AllGenuine (ts ++ us)) : AllGenuine us := (List.forall_mem_append.mp h).2

end AllGenuine

/-! ## Texts -/

theorem ne_nul_of_simpleEscape? {c ch : Char} (h : simpleEscape? c = some ch) : ch ≠ '\x00' := by
  unfold simpleEscape? at h
  split at h <;> cases h <;> decide

theorem ne_nul_of_charOfCode {n : Nat} {c : Char} (h : charOfCode n = .ok c) : c ≠ '\x00' := by
  rw [charOfCode] at h
  by_cases hn : n = 0
  · rw [if_pos hn] at h
    cases h
  rw [if_neg hn] at h
  by_cases hv : n.isValidChar
  · rw [dif_pos hv] at h
    obtain rfl := Except.ok.inj h
    intro hc
    have h0 : (Char.ofNatAux n hv).toNat = 0 := by rw [hc]; rfl
    exact hn h0
  · rw [dif_neg hv] at h
    cases h

theorem ne_nul_of_unitEscape {text : List Char} {c : Char} (h : (unitEscape text).1 = .ok c) :
    c ≠ '\x00' := by
  have herr : ∀ {fault : LexicalFault}, (Except.error fault : Except LexicalFault Char) ≠ .ok c :=
    fun h => nomatch h
  unfold unitEscape at h
  split at h
  · exact absurd h herr
  · split at h
    · exact absurd h herr
    · split at h
      · split at h
        · split at h
          · exact absurd h herr
          · split at h
            · dsimp only at h
              exact ne_nul_of_charOfCode h
            · exact absurd h herr
        · exact absurd h herr
      · exact ne_nul_of_charOfCode h

theorem ofNat_ne_nul : ∀ n < 16 ^ 2, n ≠ 0 → Char.ofNat n ≠ '\x00' := by
  decide +kernel

theorem ne_nul_of_byteEscape {text : List Char} {c : Char} (h : (byteEscape text).1 = .ok c) :
    c ≠ '\x00' := by
  rw [byteEscape.eq_def] at h
  extract_lets digits code at h
  split at h
  next hlen =>
    split at h
    · cases h
    next hn =>
      obtain rfl := Except.ok.inj h
      have hlt : code < 16 ^ digits.length := natOfDigits_lt (by decide) digits
      rw [hlen] at hlt
      exact ofNat_ne_nul code hlt hn
  · cases h

/-- **No escape sequence stands for the character zero.** -/
theorem ne_nul_of_escape {text : List Char} {c : Char} (h : (escape text).1 = .ok c) :
    c ≠ '\x00' := by
  unfold escape at h
  split at h
  · exact absurd h (by simp)
  · exact ne_nul_of_byteEscape h
  · exact ne_nul_of_unitEscape h
  · split at h
    next hs =>
      obtain rfl := Except.ok.inj h
      exact ne_nul_of_simpleEscape? hs
    · exact absurd h (by simp)

theorem nul_not_mem_pushEscape {r : Run} {text : List Char} {seen : Nat} (h : '\x00' ∉ r.value) :
    '\x00' ∉ (r.pushEscape (escape text).1 seen).value := by
  unfold Run.pushEscape
  split
  next c hc =>
    have hne := ne_nul_of_escape hc
    simp [Run.push, h, hne.symm]
  · exact h

theorem nul_not_mem_nameRest (seen : Nat) (text : List Char) :
    '\x00' ∉ (nameRest seen text).value := by
  induction seen, text using nameRest.induct
  case case1 => simp [nameRest]
  case case2 seen rest e ih =>
    rw [nameRest, if_pos rfl]
    exact nul_not_mem_pushEscape ih
  case case3 seen c rest hc hn ih =>
    rw [nameRest, if_neg hc, if_pos hn]
    have hne : '\x00' ≠ c := by
      rintro rfl
      exact absurd hn (by decide)
    simp [Run.push, ih, hne]
  case case4 seen c rest hc hn =>
    rw [nameRest, if_neg hc, if_neg hn]
    simp

theorem nul_not_mem_stringRest (seen : Nat) (text : List Char) :
    '\x00' ∉ (stringRest seen text).value := by
  induction seen, text using stringRest.induct
  case case1 => simp [stringRest]
  case case2 => simp [stringRest]
  case case3 seen rest e hq ih =>
    rw [stringRest, if_neg (by decide), if_pos rfl]
    exact nul_not_mem_pushEscape ih
  case case4 seen c rest hq hc hn ih =>
    rw [stringRest, if_neg hq, if_neg hc, if_pos hn]
    exact ih
  case case5 seen c rest hq hc hn ih =>
    rw [stringRest, if_neg hq, if_neg hc, if_neg hn]
    have hne : '\x00' ≠ c := by
      rintro rfl
      exact absurd hn (by decide)
    simp [Run.push, ih, hne]

/-! ## Numbers -/

/-- A number token: its literal has a value and no sign. -/
inductive NumberToken : TokenKind → Prop
  | integer (i : Integer) (h : 0 ≤ i.value) : NumberToken (.integer i.literal)
  | decimal (n : Numeric) (h : Unsigned n.literal.toList) : NumberToken (.decimal n.literal)

theorem NumberToken.genuine {t : TokenKind} (h : NumberToken t) : t.Genuine := by
  cases h with
  | integer i hi => exact ⟨i, rfl, hi⟩
  | decimal n hn => exact ⟨n, rfl, hn⟩

theorem numberToken_of_readInteger? {literal : List Char} (hu : Unsigned literal)
    (h : (readInteger? literal).isSome = true) :
    NumberToken (.integer (String.ofList literal)) := by
  obtain ⟨n, hn⟩ := Option.isSome_iff_exists.mp h
  exact .integer ⟨String.ofList literal, n, by simpa using hn⟩ (nonneg_of_unsigned hn hu)

theorem numberToken_of_decimalKind {literal : List Char} {hasPoint : Bool} {t : TokenKind}
    (hu : Unsigned literal) (h : decimalKind literal hasPoint = .ok t) : NumberToken t := by
  rw [decimalKind.eq_def] at h
  extract_lets text at h
  split at h
  next hi =>
    obtain rfl := Except.ok.inj h
    exact numberToken_of_readInteger? hu (by simp_all)
  · split at h
    next hn =>
      obtain rfl := Except.ok.inj h
      obtain ⟨n, hn⟩ := Option.isSome_iff_exists.mp hn
      have hl := Numeric.ofText?_eq_some.mp hn
      rw [← hl]
      exact .decimal n (by rw [hl]; simpa [text] using hu)
    · cases h

/-- **A number that is read is one without sign that has a value.** -/
theorem numberToken_of_numeral {first : Char} {text : List Char} {t : TokenKind}
    (hm : first ≠ '-') (hp : first ≠ '+') (h : (numeral first text).kind = .ok t) :
    NumberToken t := by
  have hdec : ∀ text t, (decimalNumeral first text).kind = .ok t → NumberToken t := by
    intro text t h
    unfold decimalNumeral at h
    split at h
    · cases h
    · split at h
      extract_lets rest at h
      split at h
      · cases h
      · exact numberToken_of_decimalKind (unsigned_cons hm hp) h
  unfold numeral at h
  split at h
  · split at h
    · split at h
      · rw [radixNumeral.eq_def] at h
        extract_lets digits rest run literal at h
        split at h
        · cases h
        · split at h
          · cases h
          · split at h
            · cases h
            · split at h
              next hi =>
                obtain rfl := Except.ok.inj h
                exact numberToken_of_readInteger? (unsigned_cons (by decide) (by decide)) hi
              · cases h
      · exact hdec _ _ h
    · exact hdec _ _ h
  · exact hdec _ _ h

/-! ## Tokens -/

theorem nulFree_ofList {text : List Char} (h : '\x00' ∉ text) : NulFree (String.ofList text) := by
  rwa [NulFree, String.toList_ofList]

theorem genuine_ofWord? {text : List Char} {t : TokenKind} (h : '\x00' ∉ text)
    (ht : TokenKind.ofWord? text = some t) : t.Genuine := by
  unfold TokenKind.ofWord? at ht
  split at ht
  · cases ht
    trivial
  · split at ht
    · cases ht
      trivial
    · split at ht
      · cases ht
        trivial
      · obtain ⟨k, -, rfl⟩ := Option.map_eq_some_iff.mp ht
        exact nulFree_ofList h

theorem genuine_word (text : List Char) : (word text).intended.Genuine := by
  rw [word.eq_def]
  extract_lets r name
  have hr : '\x00' ∉ r.value := nul_not_mem_nameRest 0 text
  change (if r.escaped then name else (TokenKind.ofWord? r.value).getD name).Genuine
  split
  · exact nulFree_ofList hr
  · cases hw : TokenKind.ofWord? r.value with
    | none => exact nulFree_ofList hr
    | some t => exact genuine_ofWord? hr hw

theorem genuine_dollarSign (rest : List Char) : (dollarSign rest).intended.Genuine := by
  unfold dollarSign
  split
  · exact nulFree_ofList (nul_not_mem_stringRest _ _)
  · split
    · exact nulFree_ofList (nul_not_mem_nameRest _ _)
    · trivial
  · trivial

theorem genuine_ofNumeral {first : Char} {rest : List Char} (hm : first ≠ '-') (hp : first ≠ '+') :
    (Lexeme.ofNumeral (numeral first rest)).intended.Genuine := by
  unfold Lexeme.ofNumeral
  split
  next kind hk => exact (numberToken_of_numeral hm hp hk).genuine
  next => trivial

theorem genuine_oneOrTwo {second : Char} {long short : Lexeme} {rest : List Char}
    (hl : long.intended.Genuine) (hs : short.intended.Genuine) :
    (oneOrTwo second long short rest).intended.Genuine := by
  unfold oneOrTwo
  split
  · exact hl
  · exact hs

/-- **Every token carries what it should.** -/
theorem genuine_lexeme (first : Char) (rest : List Char) :
    (lexeme first rest).intended.Genuine := by
  unfold lexeme
  split
  case h_1 => exact genuine_dollarSign rest
  case h_15 =>
    split
    · exact genuine_ofNumeral (by decide) (by decide)
    · trivial
  case h_17 => exact nulFree_ofList (nul_not_mem_stringRest _ _)
  case h_24 =>
    split
    next hd =>
      refine genuine_ofNumeral ?_ ?_ <;>
      · rintro rfl
        exact absurd hd (by decide)
    · split
      · exact genuine_word _
      · trivial
  all_goals first
    | trivial
    | exact genuine_oneOrTwo trivial trivial
    | exact genuine_oneOrTwo trivial (genuine_oneOrTwo trivial trivial)

theorem Lexes.genuine {text : List Char} {kinds : List TokenKind} (h : Lexes text kinds) :
    AllGenuine kinds := by
  induction h with
  | finish => exact nofun
  | token _ _ _ ih => exact List.forall_mem_cons.mpr ⟨genuine_lexeme _ _, ih⟩

end PathExpr
