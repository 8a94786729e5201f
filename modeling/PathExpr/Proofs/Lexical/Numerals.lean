import PathExpr.Proofs.Lexical.Genuine
import PathExpr.Proofs.Lexical.Spelling
import PathExpr.Proofs.Number.Canonical
import PathExpr.Proofs.Number.Readable

/-!
# PathExpr/Proofs/Lexical/Numerals — plain numbers are read back

A plain literal before a boundary is read as one number token with the whole literal
(`spells_plain`): an integer if it has no point and is in range, else a decimal number.
-/

namespace PathExpr

open Decimal

variable {whole fraction rest : List Char}

/-! ## The reach of a number -/

theorem digitRun_append {ds : List Char} (hd : ∀ c ∈ ds, isDecimalDigit c = true)
    (hr : EndsDigits rest) (after : Bool) : digitRun 10 after (ds ++ rest) = ds := by
  induction ds generalizing after with
  | nil =>
    cases rest with
    | nil => rfl
    | cons c rest =>
      obtain ⟨hc, hu⟩ := hr c rfl
      rw [List.nil_append, digitRun, if_neg (by simp [hc]), if_neg (by simp [hu])]
  | cons c ds ih =>
    rw [List.cons_append, digitRun, if_pos (hd c List.mem_cons_self),
      ih fun d hd' => hd d (List.mem_cons_of_mem _ hd')]

theorem Delimited.endsDigits (h : Delimited rest) : EndsDigits rest := by
  intro c hc
  rcases h c hc with rfl | rfl | rfl | rfl | rfl <;> decide

/-- What follows the whole part of a plain literal. -/
theorem head_pointed (hr : Delimited rest) {c : Char}
    (hc : (pointed fraction ++ rest).head? = some c) :
    c = '.' ∨ c = ' ' ∨ c = ')' ∨ c = ',' ∨ c = ']' ∨ c = '\x7d' := by
  unfold pointed at hc
  split at hc
  · exact .inr (hr c hc)
  · exact .inl (Option.some.inj hc).symm

theorem endsDigits_pointed (hr : Delimited rest) : EndsDigits (pointed fraction ++ rest) := by
  intro c hc
  rcases head_pointed hr hc with rfl | rfl | rfl | rfl | rfl | rfl <;> decide

theorem fractionPart_pointed (hf : ∀ c ∈ fraction, isDecimalDigit c = true)
    (hr : Delimited rest) : fractionPart (pointed fraction ++ rest) = pointed fraction := by
  unfold pointed
  split
  · cases rest with
    | nil => rfl
    | cons c rest =>
      have hc : c ≠ '.' := by
        rintro rfl
        simpa using hr '.' rfl
      rw [List.nil_append, fractionPart]
      exact fun _ e => hc (List.cons.inj e).1
  next hne =>
    obtain ⟨c, ds, rfl⟩ := List.exists_cons_of_ne_nil hne
    have hstart : startsWithDigit 10 (c :: ds ++ rest) = true := hf c List.mem_cons_self
    rw [List.cons_append, fractionPart, if_pos hstart, digitRun_append hf hr.endsDigits]

theorem exponentPart_of_delimited (hr : Delimited rest) : exponentPart rest = [] := by
  have hmark : exponentMark rest = [] := by
    cases rest with
    | nil => rfl
    | cons c rest =>
      have hc : ¬ (c = 'e' ∨ c = 'E') := by
        rcases hr c rfl with rfl | rfl | rfl | rfl | rfl <;> decide
      rw [exponentMark.eq_def]
      exact if_neg hc
  rw [exponentPart, hmark]

theorem startsWithName_of_delimited (hr : Delimited rest) : startsWithName rest = false := by
  cases rest with
  | nil => rfl
  | cons c rest => exact (hr.linked.endsName c rfl).1

/-! ## Plain numbers -/

variable {first : Char} {digits : List Char}

/-- A zero at the front of a plain literal is its whole part. -/
theorem eq_nil_of_zero (h : Plain ('0' :: digits) fraction) : digits = [] := by
  rcases h.head with h0 | h0
  · exact (List.cons.inj h0).2
  · exact absurd rfl h0

theorem decimalTail_plain (h : Plain (first :: digits) fraction) (hr : Delimited rest) :
    decimalTail first (digits ++ (pointed fraction ++ rest)) =
      (digits ++ pointed fraction, decide (fraction ≠ [])) := by
  have hpoint : first ≠ '.' := ne_of_isDecimalDigit (h.whole_digital first List.mem_cons_self) rfl
  have hwhole : (if first = '0' then []
      else digitRun 10 true (digits ++ (pointed fraction ++ rest))) = digits := by
    split
    next h0 =>
      subst h0
      exact (eq_nil_of_zero h).symm
    next =>
      exact digitRun_append (fun c hc => h.whole_digital c (List.mem_cons_of_mem _ hc))
        (endsDigits_pointed hr) true
  have hne : decide (pointed fraction ≠ []) = decide (fraction ≠ []) := by
    unfold pointed
    split <;> simp_all
  rw [decimalTail.eq_def]
  simp only [if_neg hpoint, hwhole, List.drop_left, fractionPart_pointed h.fraction_digital hr]
  rw [← List.append_assoc, List.drop_left, exponentPart_of_delimited hr, hne]
  simp [hpoint]

/-- **A plain literal is read up to its end.** -/
theorem numeral_plain (h : Plain (first :: digits) fraction) (hr : Delimited rest) :
    numeral first (digits ++ (pointed fraction ++ rest)) =
      ⟨(digits ++ pointed fraction).length,
        decimalKind (first :: (digits ++ pointed fraction)) (decide (fraction ≠ []))⟩ := by
  have hzero : first = '0' → digits ++ (pointed fraction ++ rest) = pointed fraction ++ rest := by
    rintro rfl
    rw [eq_nil_of_zero h, List.nil_append]
  have hjunk : ¬ (first = '0' ∧ (startsWithDigit 10 (digits ++ (pointed fraction ++ rest)) = true ∨
      (digits ++ (pointed fraction ++ rest)).head? = some '_')) := by
    rintro ⟨h0, hjunk⟩
    rw [hzero h0] at hjunk
    rcases hjunk with hd | hu
    · cases htext : pointed fraction ++ rest with
      | nil => simp [htext, startsWithDigit] at hd
      | cons c text =>
        have hends : EndsDigits (pointed fraction ++ rest) := endsDigits_pointed hr
        have hc := (hends c (by rw [htext]; rfl)).1
        rw [htext] at hd
        exact Bool.false_ne_true (hc.symm.trans hd)
    · exact (endsDigits_pointed hr _ hu).2 rfl
  have hdec : decimalNumeral first (digits ++ (pointed fraction ++ rest)) =
      ⟨(digits ++ pointed fraction).length,
        decimalKind (first :: (digits ++ pointed fraction)) (decide (fraction ≠ []))⟩ := by
    rw [decimalNumeral, if_neg hjunk, decimalTail_plain h hr]
    simp only [← List.append_assoc, List.drop_left, startsWithName_of_delimited hr]
    rfl
  unfold numeral
  split
  next mark text htext =>
    split
    next radix hradix =>
      split
      next h0 =>
        rw [hzero h0] at htext
        have hmark := head_pointed hr (c := mark) (by rw [htext]; rfl)
        rcases hmark with rfl | rfl | rfl | rfl | rfl | rfl <;> cases hradix
      next => exact hdec
    next => exact hdec
  next => exact hdec

theorem lexeme_of_digit {c : Char} (h : isDecimalDigit c = true) (text : List Char) :
    lexeme c text = .ofNumeral (numeral c text) := by
  unfold lexeme
  split
  case h_24 => rw [if_pos h]
  all_goals exact absurd h (by decide)

theorem isBlank_of_isDecimalDigit {c : Char} (h : isDecimalDigit c = true) : isBlank c = false := by
  have hall : ∀ d < 10, isBlank (Nat.digitChar d) = false := by decide
  obtain ⟨d, hd, rfl⟩ := exists_of_isDecimalDigit h
  exact hall d hd

/-- **A plain literal is one number token.** -/
theorem spells_plain {t : TokenKind} (h : Plain whole fraction)
    (hk : decimalKind (whole ++ pointed fraction) (decide (fraction ≠ [])) = .ok t) :
    Spells Delimited (whole ++ pointed fraction) [t] := by
  obtain ⟨first, digits, rfl⟩ := List.exists_cons_of_ne_nil h.ne_nil
  have hfirst := h.whole_digital first List.mem_cons_self
  intro rest kinds hr hl
  rw [List.append_assoc, List.cons_append]
  refine lexes_token (digits ++ pointed fraction).length ?_ (.inl ?_) ?_ ?_
  · exact isBlank_of_isDecimalDigit hfirst
  · exact ne_of_isDecimalDigit hfirst rfl
  · rw [lexeme_of_digit hfirst, numeral_plain h hr, Lexeme.ofNumeral]
    simp only [← List.cons_append, hk]
  · rwa [← List.append_assoc, List.drop_left]

end PathExpr
