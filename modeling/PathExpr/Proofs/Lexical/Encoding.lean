import PathExpr.Proofs.Lexical.Front
import PathExpr.Proofs.Lexical.Quoted

/-!
# PathExpr/Proofs/Lexical/Encoding — a literal and the text that it is written for

Reading a literal undoes writing it, for every text but those with a character zero.  That character
is written like the other control codes, but no escape sequence stands for it, so each one is a
fault of the literal and is missing from what is read.

`Run.Decodes` says this of the run of characters behind the opening quotation mark, by induction on
the text that the literal is for.  All that follows about tokens reads it off.
-/

namespace PathExpr

/-! ## What a literal is read as -/

/-- What is read, in `used` characters, of the literal for the characters `s`: they but the zeros,
and a fault for every zero. -/
structure Run.Decodes (r : Run) (s : List Char) (used : Nat) : Prop where
  value : r.value = s.filter (· ≠ '\x00')
  used : r.used = used
  faults : r.faults.map Prod.fst = List.replicate (s.count '\x00') .nulUnitEscape

/-- The control code zero is written as an escape sequence for no character. -/
theorem escape_nul (rest : List Char) :
    escape ('u' :: fourHexDigits 0 ++ rest) =
      (.error .nulUnitEscape, ('u' :: fourHexDigits 0).length) := rfl

theorem stringRest_nul (seen : Nat) (rest : List Char) :
    stringRest seen (quotedChar '\x00' ++ rest) =
      { (stringRest (seen + (quotedChar '\x00').length) rest).withFault .nulUnitEscape
          (seen + (quotedChar '\x00').length) with escaped := true } := by
  have hlen : seen + (quotedChar '\x00').length = seen + 1 + ('u' :: fourHexDigits 0).length := by
    rw [Nat.add_assoc]
    rfl
  change stringRest seen ('\\' :: ('u' :: fourHexDigits 0 ++ rest)) = _
  rw [stringRest, if_neg (by decide), if_pos rfl, escape_nul, hlen]
  dsimp only
  rw [List.drop_left]
  rfl

/-- **The characters behind the opening mark are read up to the closing one**, and decoded but for
the zeros. -/
theorem decodes_stringRest (s : List Char) (seen : Nat) (rest : List Char) :
    (stringRest seen (s.flatMap quotedChar ++ '"' :: rest)).Decodes s
      (seen + (s.flatMap quotedChar).length + 1) := by
  induction s generalizing seen with
  | nil =>
    rw [List.flatMap_nil, List.nil_append, stringRest, if_pos rfl]
    exact ⟨rfl, rfl, rfl⟩
  | cons c s ih =>
    obtain ⟨hvalue, hused, hfaults⟩ := ih (seen + (quotedChar c).length)
    have hlen : seen + ((c :: s).flatMap quotedChar).length + 1 =
        seen + (quotedChar c).length + (s.flatMap quotedChar).length + 1 := by
      rw [List.flatMap_cons, List.length_append, ← Nat.add_assoc seen]
    rw [hlen, List.flatMap_cons, List.append_assoc]
    by_cases hc : c = '\x00'
    · subst hc
      rw [stringRest_nul]
      refine ⟨?_, hused, ?_⟩
      · rw [List.filter_cons_of_neg (by decide)]
        exact hvalue
      · rw [List.count_cons_self, List.replicate_succ, ← hfaults]
        rfl
    · obtain ⟨b, hb⟩ := stringRest_quotedChar hc seen (s.flatMap quotedChar ++ '"' :: rest)
      rw [hb]
      refine ⟨?_, hused, ?_⟩
      · rw [List.filter_cons_of_pos (by simpa using hc), ← hvalue]
        rfl
      · rw [List.count_cons_of_ne hc]
        exact hfaults

/-- The token is a faulty one if there is a zero. -/
theorem Run.Decodes.kind_ofRun {r : Run} {s : List Char} {used : Nat} (h : r.Decodes s used)
    (make : String → TokenKind) :
    (Lexeme.ofRun (make (String.ofList r.value)) r).kind =
      if '\x00' ∈ s then .faulty .nulUnitEscape else make (String.ofList s) := by
  have hfaults := h.faults
  by_cases h0 : '\x00' ∈ s
  · rw [if_pos h0]
    obtain ⟨n, hn⟩ := Nat.exists_eq_succ_of_ne_zero (List.count_pos_iff.mpr h0).ne'
    rw [hn, List.replicate_succ] at hfaults
    obtain ⟨f, fs, hr, hf, -⟩ := List.map_eq_cons_iff.mp hfaults
    rw [Lexeme.kind, Lexeme.ofRun, hr, ← hf]
  · rw [if_neg h0]
    rw [List.count_eq_zero.mpr h0, List.replicate_zero, List.map_eq_nil_iff] at hfaults
    have hvalue : s.filter (· ≠ '\x00') = s := by
      refine List.filter_eq_self.mpr fun c hc => decide_eq_true ?_
      rintro rfl
      exact h0 hc
    rw [Lexeme.kind_eq_intended hfaults, Lexeme.ofRun, h.value, hvalue]

/-! ## The characters of a literal -/

theorem blank_le_of_isDigitOf {c : Char} (h : isDigitOf 16 c = true) : 0x20 ≤ c.toNat := by
  by_contra hlt
  have hnone : ∀ n < 0x20, isDigitOf 16 (Char.ofNat n) = false := by decide
  have hdigit := hnone c.toNat (Nat.not_le.mp hlt)
  rw [Char.ofNat_toNat, h] at hdigit
  cases hdigit

/-- Every control code is written by other characters. -/
theorem blank_le_of_mem_quotedChar {c d : Char} (h : d ∈ quotedChar c) : 0x20 ≤ d.toNat := by
  have hdigits : ∀ d ∈ fourHexDigits c.toNat, 0x20 ≤ d.toNat := fun d hd =>
    blank_le_of_isDigitOf (isDigitOf_of_mem_fourHexDigits d hd)
  have hletter : ∀ e : Char, 0x20 ≤ e.toNat → d ∈ ['\\', e] → 0x20 ≤ d.toNat := by
    intro e he hd
    rcases List.mem_pair.mp hd with rfl | rfl
    · decide
    · exact he
  unfold quotedChar at h
  split at h
  next hq =>
    refine hletter c ?_ h
    rcases hq with rfl | rfl <;> decide
  iterate 5
    split at h
    · exact hletter _ (by decide) h
  split at h
  · rcases List.mem_append.mp h with h | h
    · exact hletter 'u' (by decide) h
    · exact hdigits d h
  next hc =>
    obtain rfl := List.mem_singleton.mp h
    exact Nat.not_lt.mp hc

/-! ## Tokens -/

/-- The text is read as one token of the kind and the end of the path, without fault. -/
def ReadsAs (text : List Char) (kind : TokenKind) : Prop :=
  (tokenStream (String.ofList text)).all.map Token.kind = [kind, .finish] ∧
    (tokenStream (String.ofList text)).faults = []

/-- Whatever follows the word, wherever it stands, the first token is of the kind and takes just the
word, and these are the faults in it. -/
def ReadsInFront (word : List Char) (kind : TokenKind) (faults : List LexicalFault) : Prop :=
  ∀ (c : Cursor) (rest : List Char), c.rest = word ++ rest →
    (Stream.ofCursor c).tokens.head? = some (nextToken c).token ∧
    (nextToken c).Covers c word rest kind ∧ (nextToken c).faults.map (·.fault) = faults

theorem readsAs_iff_lexes {text : List Char} {kind : TokenKind} :
    ReadsAs text kind ↔ Lexes text [kind] := by
  have hlexes : Lexes _ [kind] ↔ _ := lexes_iff_ofCursor (c := Cursor.ofText text)
  have hfinish := (covered_ofCursor (.ofText text)).finish_eq
  have hkind : (tokenStream (String.ofList text)).finish.kind = .finish := by
    rw [tokenStream, String.toList_ofList, hfinish]
  have hall : (tokenStream (String.ofList text)).all.map Token.kind = [kind, .finish] ↔
      (tokenStream (String.ofList text)).tokens.map Token.kind = [kind] := by
    rw [Stream.all, List.map_append, List.map_singleton, hkind]
    exact @List.append_left_inj _ _ [kind] [TokenKind.finish]
  rw [ReadsAs, hall, and_comm, tokenStream, String.toList_ofList]
  exact hlexes.symm

/-- A text that begins with a token has it as its first. -/
theorem head?_tokens_ofCursor {c : Cursor} {first : Char} {rest : List Char}
    (hc : c.rest = first :: rest) (h : trivia (first :: rest) = 0) :
    (Stream.ofCursor c).tokens.head? = some (nextToken c).token := by
  have hskip : c.skipTrivia.rest = first :: rest := by
    rw [Cursor.skipTrivia, hc, h, Cursor.advance_zero, hc]
  rw [ofCursor_cons hskip, nextToken_cons hskip]
  rfl

/-- **A literal is read whatever follows it**, where `first` and `opening` begin it: as its text, or
as a fault if there is a zero in that. -/
theorem readsInFront_literal (first : Char) (opening : List Char) (make : String → TokenKind)
    (v : String)
    (hl : ∀ text, lexeme first (opening ++ text) =
      .ofRun (make (String.ofList (stringRest (opening.length + 1) text).value))
        (stringRest (opening.length + 1) text))
    (ht : ∀ text, trivia (first :: (opening ++ text)) = 0) :
    ReadsInFront (first :: (opening ++ v.toList.flatMap quotedChar ++ ['"']))
      (if '\x00' ∈ v.toList then .faulty .nulUnitEscape else make v)
      (List.replicate (v.toList.count '\x00') .nulUnitEscape) := by
  intro c rest hc
  have htext : c.rest = first :: (opening ++ (v.toList.flatMap quotedChar ++ '"' :: rest)) := by
    rw [hc]
    simp
  have hdecodes := decodes_stringRest v.toList (opening.length + 1) rest
  have hnext := nextToken_of_trivia htext (ht _)
  rw [hl] at hnext
  generalize stringRest (opening.length + 1) (v.toList.flatMap quotedChar ++ '"' :: rest) = r
    at hnext hdecodes
  have hkind := hdecodes.kind_ofRun make
  rw [String.ofList_toList] at hkind
  refine ⟨head?_tokens_ofCursor htext (ht _), ?_, ?_⟩
  · rw [hnext, ← hkind]
    refine covers_readLexeme hc ?_
    simp only [Lexeme.ofRun, hdecodes.used, List.length_cons, List.length_append, List.length_nil]
    omega
  · rw [hnext, ← hdecodes.faults, readLexeme, List.map_map]
    rfl

/-- **Writing and reading a text are inverse, but for the character zero.** -/
theorem literals_invert_texts (v : String) :
    -- A literal by itself is read as the text that it is written for, exactly without a zero there.
    (ReadsAs (quoted v) (.string v) ↔ '\x00' ∉ v.toList) ∧
    (ReadsAs ('$' :: quoted v) (.variable v) ↔ '\x00' ∉ v.toList) ∧
    -- It holds none of the control codes below the blank.
    (∀ c ∈ quoted v, 0x20 ≤ c.toNat) ∧
    -- What follows it does not matter.
    ('\x00' ∉ v.toList →
      ReadsInFront (quoted v) (.string v) [] ∧
      ReadsInFront ('$' :: quoted v) (.variable v) []) ∧
    -- Every zero is a fault.
    ('\x00' ∈ v.toList →
      ReadsInFront (quoted v) (.faulty .nulUnitEscape)
        (List.replicate (v.toList.count '\x00') .nulUnitEscape) ∧
      ReadsInFront ('$' :: quoted v) (.faulty .nulUnitEscape)
        (List.replicate (v.toList.count '\x00') .nulUnitEscape)) := by
  have hstring := readsInFront_literal '"' [] .string v
    (fun _ => rfl) fun text => trivia_eq_zero (by decide) (by simp)
  have hvariable := readsInFront_literal '$' ['"'] .variable v
    (fun _ => rfl) fun text => trivia_eq_zero (by decide) (by simp)
  refine ⟨?_, ?_, fun c hc => ?_, fun h => ?_, fun h => ?_⟩
  · rw [readsAs_iff_lexes]
    exact ⟨fun h => h.genuine.head, fun h => (spells_quoted h).lexes trivial⟩
  · rw [readsAs_iff_lexes]
    exact ⟨fun h => h.genuine.head, fun h => (spells_variable h).lexes trivial⟩
  · rcases List.mem_append.mp hc with hc | hc
    · rcases List.mem_cons.mp hc with rfl | hc
      · decide
      · obtain ⟨d, -, hd⟩ := List.mem_flatMap.mp hc
        exact blank_le_of_mem_quotedChar hd
    · rw [List.mem_singleton.mp hc]
      decide
  · rw [if_neg h, List.count_eq_zero.mpr h] at hstring hvariable
    exact ⟨hstring, hvariable⟩
  · rw [if_pos h] at hstring hvariable
    exact ⟨hstring, hvariable⟩

end PathExpr
