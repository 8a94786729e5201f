import PathExpr.Proofs.Lexical.Genuine
import PathExpr.Proofs.Lexical.Spelling
import PathExpr.Text.Quoted

/-!
# PathExpr/Proofs/Lexical/Quoted — string literals are read back

The string literal that is written for a text is read as the text (`spells_quoted`), if the text is
free of the character zero, and so is the variable with a quoted name.
-/

namespace PathExpr

/-! ## Escape sequences -/

theorem length_fourHexDigits {n : Nat} (h : n < 0x10000) : (fourHexDigits n).length = 4 := by
  have hlen : (hexDigits n).length ≤ 4 := (Nat.length_toDigits_le_iff (by decide) (by decide)).mpr h
  rw [fourHexDigits, List.length_append, List.length_replicate]
  omega

theorem isDigitOf_of_mem_fourHexDigits {n : Nat} :
    ∀ c ∈ fourHexDigits n, isDigitOf 16 c = true := by
  refine List.forall_mem_append.mpr ⟨fun c hc => ?_, ?_⟩
  · rw [List.eq_of_mem_replicate hc]
    decide
  · exact isDigitOf_of_mem_toDigits (by decide) (by decide)

theorem natOfDigits_fourHexDigits (n : Nat) : natOfDigits 16 (fourHexDigits n) = n := by
  have hdigits : natOfDigits 16 (hexDigits n) = n :=
    natOfDigits_toDigits (by decide) (by decide) n
  rw [fourHexDigits, natOfDigits_append, natOfDigits_replicate_zero, Nat.zero_mul, Nat.zero_add,
    hdigits]

/-- Four hexadecimal digits are read as the code unit that they are written for. -/
theorem codeUnit_fourHexDigits {n : Nat} (h : n < 0x10000) (rest : List Char) :
    codeUnit (fourHexDigits n ++ rest) = (.ok n, 4) := by
  have hlen := length_fourHexDigits h
  have hdigits : ((fourHexDigits n ++ rest).take 4).takeWhile (isDigitOf 16) = fourHexDigits n := by
    rw [← hlen, List.take_left, List.takeWhile_eq_self_iff]
    exact isDigitOf_of_mem_fourHexDigits
  have hbrace : ∀ more, fourHexDigits n ++ rest ≠ '\x7b' :: more := by
    intro more e
    obtain ⟨c, ds, hds⟩ := List.exists_cons_of_ne_nil (l := fourHexDigits n) (by
      rintro h0
      rw [h0] at hlen
      cases hlen)
    rw [hds] at e
    have hc := isDigitOf_of_mem_fourHexDigits (n := n) c (by simp [hds])
    rw [(List.cons.inj e).1] at hc
    exact absurd hc (by decide)
  rw [codeUnit.eq_2 _ hbrace, hdigits, if_pos hlen, natOfDigits_fourHexDigits]

theorem charOfCode_toNat {c : Char} (h : c ≠ '\x00') : charOfCode c.toNat = .ok c := by
  have h0 : c.toNat ≠ 0 := by
    intro h0
    exact h (by rw [← Char.ofNat_toNat c, h0])
  have hv : c.toNat.isValidChar := c.valid
  rw [charOfCode, if_neg h0, dif_pos hv]
  rfl

/-- **The escape sequence of a control code is read as the control code.** -/
theorem escape_control {c : Char} (h : c ≠ '\x00') (hc : c.toNat < 0x20) (rest : List Char) :
    escape ('u' :: fourHexDigits c.toNat ++ rest) =
      (.ok c, ('u' :: fourHexDigits c.toNat).length) := by
  have hunit := codeUnit_fourHexDigits (n := c.toNat) (by omega) rest
  have hlow : isLowSurrogate c.toNat = false := by
    rw [isLowSurrogate, Bool.and_eq_false_iff]
    exact .inl (decide_eq_false (by omega))
  have hhigh : isHighSurrogate c.toNat = false := by
    rw [isHighSurrogate, Bool.and_eq_false_iff]
    exact .inl (decide_eq_false (by omega))
  have hesc : unitEscape (fourHexDigits c.toNat ++ rest) = (.ok c, 4) := by
    rw [unitEscape, hunit]
    simp only [hlow, hhigh, charOfCode_toNat h]
    rfl
  rw [List.cons_append, escape, hesc, List.length_cons, length_fourHexDigits (by omega)]

/-! ## String literals -/

theorem stringRest_escape (body : List Char) {rest : List Char} {c : Char}
    (h : escape (body ++ rest) = (.ok c, body.length)) (seen : Nat) :
    stringRest seen ('\\' :: body ++ rest) =
      { (stringRest (seen + ('\\' :: body).length) rest).push c with escaped := true } := by
  rw [List.cons_append, stringRest, if_neg (by decide), if_pos rfl, h]
  simp only [List.drop_left, Run.pushEscape, List.length_cons, Nat.add_assoc, Nat.add_comm 1]

/-- **One character of a string literal is read as the character that it is written for.** -/
theorem stringRest_quotedChar {c : Char} (h : c ≠ '\x00') (seen : Nat) (rest : List Char) :
    ∃ b, stringRest seen (quotedChar c ++ rest) =
      { (stringRest (seen + (quotedChar c).length) rest).push c with escaped := b } := by
  unfold quotedChar
  split
  next hq =>
    refine ⟨true, stringRest_escape [c] ?_ seen⟩
    rcases hq with rfl | rfl <;> rfl
  next hq =>
    split
    next hb => exact ⟨true, stringRest_escape ['b'] (by rw [hb]; rfl) seen⟩
    split
    next hb => exact ⟨true, stringRest_escape ['f'] (by rw [hb]; rfl) seen⟩
    split
    next hb => exact ⟨true, stringRest_escape ['n'] (by rw [hb]; rfl) seen⟩
    split
    next hb => exact ⟨true, stringRest_escape ['r'] (by rw [hb]; rfl) seen⟩
    split
    next hb => exact ⟨true, stringRest_escape ['t'] (by rw [hb]; rfl) seen⟩
    split
    next hc => exact ⟨true, stringRest_escape _ (escape_control h hc rest) seen⟩
    next hc =>
      rw [not_or] at hq
      rw [List.singleton_append, stringRest, if_neg hq.1, if_neg hq.2, if_neg hc]
      exact ⟨_, rfl⟩

theorem stringRest_quoted {s : List Char} (h : '\x00' ∉ s) (seen : Nat) (rest : List Char) :
    ∃ b, stringRest seen (s.flatMap quotedChar ++ '"' :: rest) =
      ⟨s, seen + (s.flatMap quotedChar).length + 1, [], b⟩ := by
  induction s generalizing seen with
  | nil => exact ⟨false, by rw [List.flatMap_nil, List.nil_append, stringRest, if_pos rfl]; rfl⟩
  | cons c s ih =>
    rw [List.mem_cons, not_or] at h
    obtain ⟨b, hb⟩ := stringRest_quotedChar (Ne.symm h.1) seen
      (s.flatMap quotedChar ++ '"' :: rest)
    obtain ⟨b', hb'⟩ := ih h.2 (seen + (quotedChar c).length)
    refine ⟨b, ?_⟩
    rw [List.flatMap_cons, List.append_assoc, hb, hb', List.length_append, ← Nat.add_assoc]
    rfl

theorem lexes_quoted {s : String} (h : NulFree s) {rest : List Char} {kinds : List TokenKind}
    (hl : Lexes rest kinds) : Lexes (quoted s ++ rest) (.string s :: kinds) := by
  obtain ⟨b, hb⟩ := stringRest_quoted h 1 rest
  have htext : quoted s ++ rest = '"' :: (s.toList.flatMap quotedChar ++ '"' :: rest) := by
    simp [quoted]
  rw [htext]
  refine lexes_token ((s.toList.flatMap quotedChar).length + 1) (by decide) (.inl (by decide)) ?_ ?_
  · change Lexeme.ofRun (.string (String.ofList (stringRest 1 _).value)) (stringRest 1 _) = _
    simp [hb, Lexeme.ofRun, Lexeme.plain, Nat.add_comm 1]
  · rwa [List.drop_length_add_append]

/-- **A string literal is read as the text that it is written for.** -/
theorem spells_quoted {s : String} (h : NulFree s) : Spells Anything (quoted s) [.string s] :=
  fun _ _ _ hl => lexes_quoted h hl

/-- …and so is the name of a variable. -/
theorem spells_variable {s : String} (h : NulFree s) :
    Spells Anything ('$' :: quoted s) [.variable s] := by
  intro rest kinds _ hl
  obtain ⟨b, hb⟩ := stringRest_quoted h 2 rest
  have htext : '$' :: quoted s ++ rest =
      '$' :: '"' :: (s.toList.flatMap quotedChar ++ '"' :: rest) := by
    simp [quoted]
  rw [htext]
  refine lexes_token ((s.toList.flatMap quotedChar).length + 2) (by decide) (.inl (by decide)) ?_ ?_
  · change Lexeme.ofRun (.variable (String.ofList (stringRest 2 _).value)) (stringRest 2 _) = _
    simp [hb, Lexeme.ofRun, Lexeme.plain]
    omega
  · rwa [List.drop_succ_cons, List.drop_length_add_append]

/-- …and the name of a member, after a dot. -/
theorem spells_key {s : String} (h : NulFree s) :
    Spells Anything ('.' :: quoted s) [.dot, .string s] :=
  fun _ _ _ hl => lexes_dot (by rfl) (lexes_quoted h hl)

end PathExpr
