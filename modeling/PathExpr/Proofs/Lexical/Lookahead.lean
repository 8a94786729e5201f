import Mathlib.Data.List.TakeWhile
import PathExpr.Proofs.Lexical.Reach

/-!
# PathExpr/Proofs/Lexical/Lookahead — numbers do not mind what is put after them

A token takes some characters and looks at a few more.  `Loosened rest rest'` says that looking
ahead in `rest'` shows what `rest` shows, or comes upon a character with which a blank or a comment
begins.  A number that is followed by `rest` is the same when `rest'` follows (`numeral_loosened`),
with one exception: a point at the end belongs to the number only as long as a second one comes
right after it.
-/

namespace PathExpr

/-! ## Looking ahead -/

/-- The characters that blanks and comments begin with. -/
def isBreak (c : Char) : Bool := isBlank c || c = '/'

theorem isBreak_cases {c : Char} (h : isBreak c = true) :
    c = ' ' ∨ c = '\n' ∨ c = '\r' ∨ c = '\t' ∨ c = '\x0c' ∨ c = '/' := by
  simpa [isBreak, isBlank, or_assoc] using h

/-- Looking ahead in the second text shows the characters of the first, up to a break perhaps. -/
inductive Loosened : List Char → List Char → Prop
  | nil : Loosened [] []
  | gap {c : Char} (hc : isBreak c = true) (rest rest' : List Char) : Loosened rest (c :: rest')
  | cons (c : Char) {rest rest' : List Char} (h : Loosened rest rest') :
      Loosened (c :: rest) (c :: rest')

namespace Loosened

variable {rest rest' : List Char}

theorem append (w : List Char) (h : Loosened rest rest') : Loosened (w ++ rest) (w ++ rest') := by
  induction w with
  | nil => exact h
  | cons c w ih => exact .cons c ih

/-- **What is seen ahead in the second text is there in the first.** -/
theorem exists_ahead {seen ahead' : List Char} (h : Loosened rest (seen ++ ahead'))
    (hs : ∀ c ∈ seen, isBreak c = false) : ∃ ahead, rest = seen ++ ahead := by
  induction seen generalizing rest with
  | nil => exact ⟨rest, rfl⟩
  | cons c seen ih =>
    have hc := hs c List.mem_cons_self
    cases h with
    | gap hb => exact absurd (hb.symm.trans hc) (by decide)
    | cons _ h =>
      obtain ⟨ahead, rfl⟩ := ih h fun d hd => hs d (List.mem_cons_of_mem c hd)
      exact ⟨ahead, rfl⟩

/-- The first character ahead, unless it is a break. -/
theorem head? {c : Char} (h : Loosened rest rest') (hc : isBreak c = false)
    (hr : rest'.head? = some c) : rest.head? = some c := by
  obtain ⟨ahead', rfl⟩ := List.head?_eq_some_iff.mp hr
  rw [← List.singleton_append] at h
  obtain ⟨ahead, rfl⟩ := h.exists_ahead (List.forall_mem_singleton.mpr hc)
  rfl

end Loosened

variable {rest rest' w : List Char}

theorem isDigitOf_of_isBreak {c : Char} (radix : Nat) (h : isBreak c = true) :
    isDigitOf radix c = false := by
  have hnone : alphanumericValue? c = none := by
    rcases isBreak_cases h with rfl | rfl | rfl | rfl | rfl | rfl <;> decide
  rw [isDigitOf, digitValue?, hnone]
  rfl

theorem isBreak_of_isDigitOf {radix : Nat} {c : Char} (h : isDigitOf radix c = true) :
    isBreak c = false := by
  rw [Bool.eq_false_iff]
  intro hb
  rw [isDigitOf_of_isBreak radix hb] at h
  cases h

theorem isBreak_of_isNameChar {c : Char} (h : isNameChar c = true) : isBreak c = false := by
  rw [Bool.eq_false_iff]
  intro hb
  rcases isBreak_cases hb with rfl | rfl | rfl | rfl | rfl | rfl <;> exact absurd h (by decide)

theorem startsWithDigit_loosened {radix : Nat} (h : Loosened rest rest')
    (hd : startsWithDigit radix rest' = true) : startsWithDigit radix rest = true := by
  cases h with
  | nil => cases hd
  | gap hc => exact absurd (hd.symm.trans (isDigitOf_of_isBreak radix hc)) (by decide)
  | cons => exact hd

theorem startsWithName_loosened (h : Loosened rest rest') (hn : startsWithName rest = false) :
    startsWithName rest' = false := by
  cases h with
  | nil => rfl
  | gap hc =>
    rw [Bool.eq_false_iff]
    intro hname
    exact absurd (hc.symm.trans (isBreak_of_isNameChar hname)) (by decide)
  | cons => exact hn

/-! ## Numbers -/

theorem exists_append_of_isPrefix {as : List Char} (h : as <+: w ++ rest)
    (hle : as.length ≤ w.length) : ∃ v, w = as ++ v := by
  obtain ⟨v, hv⟩ := List.prefix_of_prefix_length_le h (List.prefix_append w rest) hle
  exact ⟨v, hv.symm⟩

variable {radix : Nat} {after : Bool}

theorem digitRun_eq_nil (h : Loosened rest rest') (hn : digitRun radix after rest = []) :
    digitRun radix after rest' = [] := by
  cases h with
  | nil => rfl
  | @gap c hc =>
    have hu : c ≠ '_' := by
      rintro rfl
      exact absurd hc (by decide)
    rw [digitRun, if_neg (by simp [isDigitOf_of_isBreak radix hc]), if_neg (by simp [hu])]
  | @cons c rest rest' h =>
    rw [digitRun] at hn ⊢
    by_cases hd : isDigitOf radix c = true
    · rw [if_pos hd] at hn
      cases hn
    · rw [if_neg hd] at hn ⊢
      by_cases hu : c = '_' ∧ after = true ∧ startsWithDigit radix rest' = true
      · rw [if_pos ⟨hu.1, hu.2.1, startsWithDigit_loosened h hu.2.2⟩] at hn
        cases hn
      · rw [if_neg hu]

/-- If all of a run of digits is in `w`, its first digit is. -/
theorem startsWithDigit_append (hd : startsWithDigit radix (w ++ rest) = true)
    (hle : (digitRun radix after (w ++ rest)).length ≤ w.length) (rest' : List Char) :
    startsWithDigit radix (w ++ rest') = true := by
  cases w with
  | nil =>
    cases rest with
    | nil => cases hd
    | cons c rest =>
      have hc : isDigitOf radix c = true := hd
      rw [List.nil_append, digitRun, if_pos hc] at hle
      exact absurd hle (Nat.not_succ_le_zero _)
  | cons c w => exact hd

/-- **A run of digits that ends before `rest` ends before `rest'`, too.** -/
theorem digitRun_loosened (h : Loosened rest rest')
    (hle : (digitRun radix after (w ++ rest)).length ≤ w.length) :
    digitRun radix after (w ++ rest') = digitRun radix after (w ++ rest) := by
  induction w generalizing after with
  | nil =>
    have hnil : digitRun radix after rest = [] := List.length_eq_zero_iff.mp (Nat.le_zero.mp hle)
    rw [List.nil_append, List.nil_append, hnil, digitRun_eq_nil h hnil]
  | cons c w ih =>
    rw [List.cons_append, digitRun] at hle ⊢
    rw [List.cons_append, digitRun]
    by_cases hd : isDigitOf radix c = true
    · rw [if_pos hd] at hle ⊢
      rw [if_pos hd, ih (Nat.le_of_succ_le_succ hle)]
    · rw [if_neg hd] at hle ⊢
      rw [if_neg hd]
      -- An underscore needs a digit after it, which the token takes, so it is not in `rest`.
      by_cases hu : c = '_' ∧ after = true ∧ startsWithDigit radix (w ++ rest) = true
      · rw [if_pos hu] at hle ⊢
        have hle' := Nat.le_of_succ_le_succ hle
        rw [if_pos ⟨hu.1, hu.2.1, startsWithDigit_append hu.2.2 hle' rest'⟩, ih hle']
      · have hu' : ¬ (c = '_' ∧ after = true ∧ startsWithDigit radix (w ++ rest') = true) :=
          fun h' => hu ⟨h'.1, h'.2.1, startsWithDigit_loosened (h.append w) h'.2.2⟩
        rw [if_neg hu, if_neg hu']

theorem ExponentMark.ne_nil {mark : List Char} (h : ExponentMark mark) : mark ≠ [] := by
  cases h <;> simp

theorem ExponentMark.isBreak {mark : List Char} (h : ExponentMark mark) :
    ∀ c ∈ mark, isBreak c = false := by
  cases h with
  | bare h =>
    refine List.forall_mem_singleton.mpr ?_
    rcases h with rfl | rfl <;> decide
  | signed h hs =>
    refine List.forall_mem_cons.mpr ⟨?_, List.forall_mem_singleton.mpr ?_⟩
    · rcases h with rfl | rfl <;> decide
    · rcases hs with rfl | rfl <;> decide

/-- No exponent is seen where none was. -/
theorem exponentMark_loosened (h : Loosened rest rest') (hn : exponentMark rest = []) :
    exponentMark rest' = [] := by
  rcases exponentMark_cases rest' with hnil | ⟨mark, digit, more, hm, hd, rfl⟩
  · exact hnil
  · have hseen : ∀ c ∈ mark ++ [digit], PathExpr.isBreak c = false :=
      List.forall_mem_append.mpr
        ⟨hm.isBreak, List.forall_mem_singleton.mpr (isBreak_of_isDigitOf hd)⟩
    rw [← List.singleton_append, ← List.append_assoc] at h
    obtain ⟨ahead, rfl⟩ := h.exists_ahead hseen
    rw [List.append_assoc, List.singleton_append, exponentMark_append hm hd] at hn
    exact absurd hn hm.ne_nil

theorem exponentPart_eq_nil (h : exponentPart rest = []) : exponentMark rest = [] := by
  rcases exponentMark_cases rest with hnil | ⟨mark, digit, more, hm, hd, rfl⟩
  · exact hnil
  · rw [exponentPart_append hm hd] at h
    exact absurd (List.append_eq_nil_iff.mp h).1 hm.ne_nil

theorem exponentPart_loosened (h : Loosened rest rest')
    (hle : (exponentPart (w ++ rest)).length ≤ w.length) :
    exponentPart (w ++ rest') = exponentPart (w ++ rest) := by
  rcases exponentMark_cases (w ++ rest) with hnil | ⟨mark, digit, more, hm, hd, htext⟩
  · rw [exponentPart_of_nil hnil, exponentPart_of_nil (exponentMark_loosened (h.append w) hnil)]
  · have hrun : digitRun 10 false (digit :: more) = digit :: digitRun 10 true more := by
      rw [digitRun, if_pos hd]
    have hpart := exponentPart_append hm hd more
    rw [htext, hpart, hrun] at hle
    have hprefix : mark ++ [digit] <+: w ++ rest := ⟨more, by simp [htext]⟩
    obtain ⟨v, rfl⟩ := exists_append_of_isPrefix hprefix (by
      simp only [List.length_append, List.length_cons, List.length_nil] at hle ⊢
      omega)
    obtain rfl : v ++ rest = more := by simpa using htext
    rw [List.append_assoc, List.append_assoc, List.singleton_append, exponentPart_append hm hd,
      List.append_assoc, List.append_assoc, List.singleton_append, exponentPart_append hm hd]
    have hdigits : digitRun 10 false (digit :: v ++ rest') =
        digitRun 10 false (digit :: v ++ rest) :=
      digitRun_loosened h (by
        rw [List.cons_append, hrun]
        simp only [List.length_append, List.length_cons, List.length_nil] at hle ⊢
        omega)
    rw [← List.cons_append, ← List.cons_append, hdigits]

/-- Whether a point without digits belongs to the number, by what comes after the point. -/
def KeepsPoint (text : List Char) : Prop := text.head? = some '.' ∨ exponentMark text ≠ []

theorem keepsPoint_loosened (h : Loosened rest rest') (hk : KeepsPoint rest') : KeepsPoint rest :=
  hk.imp (h.head? (by decide)) (mt (exponentMark_loosened h))

theorem fractionPart_of_digit {text : List Char} (h : startsWithDigit 10 text = true) :
    fractionPart ('.' :: text) = '.' :: digitRun 10 false text := if_pos h

theorem fractionPart_of_keepsPoint {text : List Char} (hd : ¬ startsWithDigit 10 text = true)
    (hk : KeepsPoint text) : fractionPart ('.' :: text) = ['.'] :=
  (if_neg hd).trans (if_pos hk)

theorem fractionPart_of_not_keepsPoint {text : List Char} (hd : ¬ startsWithDigit 10 text = true)
    (hk : ¬ KeepsPoint text) : fractionPart ('.' :: text) = [] :=
  (if_neg hd).trans (if_neg hk)

theorem fractionPart_cons {c : Char} (hc : c ≠ '.') (text : List Char) :
    fractionPart (c :: text) = [] := by
  rw [fractionPart]
  exact fun _ e => hc (List.cons.inj e).1

theorem fractionPart_eq_nil (h : Loosened rest rest') (hn : fractionPart rest = []) :
    fractionPart rest' = [] := by
  cases h with
  | nil => rfl
  | @gap c hc =>
    refine fractionPart_cons ?_ _
    rintro rfl
    exact absurd hc (by decide)
  | @cons c rest rest' h =>
    by_cases hc : c = '.'
    · subst hc
      by_cases hd : startsWithDigit 10 rest = true
      · rw [fractionPart_of_digit hd] at hn
        cases hn
      · by_cases hk : KeepsPoint rest
        · rw [fractionPart_of_keepsPoint hd hk] at hn
          cases hn
        · exact fractionPart_of_not_keepsPoint (mt (startsWithDigit_loosened h) hd)
            (mt (keepsPoint_loosened h) hk)
    · exact fractionPart_cons hc _

/-- **A fraction that ends before `rest` ends before `rest'`, too**, if the exponent does so, and if
a last point still has the second one after it. -/
theorem fractionPart_loosened (h : Loosened rest rest')
    (hle : (fractionPart (w ++ rest)).length +
      (exponentPart ((w ++ rest).drop (fractionPart (w ++ rest)).length)).length ≤ w.length)
    (hdot : w = ['.'] → rest'.head? = rest.head?) :
    fractionPart (w ++ rest') = fractionPart (w ++ rest) := by
  cases w with
  | nil =>
    have hnil : fractionPart rest = [] :=
      List.length_eq_zero_iff.mp (Nat.le_zero.mp (Nat.le_trans (Nat.le_add_right _ _) hle))
    rw [List.nil_append, List.nil_append, hnil, fractionPart_eq_nil h hnil]
  | cons c w =>
    rw [List.cons_append] at hle ⊢
    rw [List.cons_append]
    by_cases hc : c = '.'
    · subst hc
      by_cases hd : startsWithDigit 10 (w ++ rest) = true
      · rw [fractionPart_of_digit hd] at hle ⊢
        have hrun : (digitRun 10 false (w ++ rest)).length ≤ w.length :=
          Nat.le_of_succ_le_succ (Nat.le_trans (Nat.le_add_right _ _) hle)
        rw [fractionPart_of_digit (startsWithDigit_append hd hrun rest'), digitRun_loosened h hrun]
      · have hd' := mt (startsWithDigit_loosened (h.append w)) hd
        by_cases hk : KeepsPoint (w ++ rest)
        · rw [fractionPart_of_keepsPoint hd hk] at hle ⊢
          have hexp : (exponentPart (w ++ rest)).length ≤ w.length := by
            simp only [List.length_cons, List.length_nil, List.drop_succ_cons,
              List.drop_zero] at hle
            omega
          refine fractionPart_of_keepsPoint hd' ?_
          cases w with
          | nil =>
            -- No exponent is left over, so it is the second point that keeps the first.
            have hnone := exponentPart_eq_nil (List.length_eq_zero_iff.mp (Nat.le_zero.mp hexp))
            rcases hk with hhead | hmark
            · exact .inl ((hdot rfl).trans hhead)
            · exact absurd hnone hmark
          | cons d w =>
            refine hk.imp id fun hmark hnone => hmark (exponentPart_eq_nil ?_)
            rw [← exponentPart_loosened h hexp, exponentPart_of_nil hnone]
        · rw [fractionPart_of_not_keepsPoint hd hk, fractionPart_of_not_keepsPoint hd'
            (mt (keepsPoint_loosened (h.append w)) hk)]
    · rw [fractionPart_cons hc, fractionPart_cons hc]

/-- The digits before the point, or after it if the number begins with one. -/
def wholePart (first : Char) (text : List Char) : List Char :=
  if first = '.' then digitRun 10 false text
  else if first = '0' then []
  else digitRun 10 true text

/-- The point and the digits after it, unless the number begins with one. -/
def pointPart (first : Char) (text : List Char) : List Char :=
  if first = '.' then [] else fractionPart text

variable {first : Char} {whole point exponent : List Char}

theorem decimalTail_of_parts (hw : wholePart first (whole ++ (point ++ (exponent ++ rest))) = whole)
    (hp : pointPart first (point ++ (exponent ++ rest)) = point)
    (he : exponentPart (exponent ++ rest) = exponent) :
    decimalTail first (whole ++ (point ++ (exponent ++ rest))) =
      (whole ++ point ++ exponent, first = '.' || point ≠ [] || exponent ≠ []) := by
  unfold wholePart at hw
  unfold pointPart at hp
  rw [decimalTail.eq_def]
  simp only [hw, List.drop_left, hp]
  rw [← List.append_assoc, List.drop_left, he]

theorem exists_parts {text : List Char} (h : (decimalTail first (w ++ text)).1 = w) :
    ∃ whole point exponent, w = whole ++ (point ++ exponent) ∧
      wholePart first (whole ++ (point ++ (exponent ++ text))) = whole ∧
      pointPart first (point ++ (exponent ++ text)) = point ∧
      exponentPart (exponent ++ text) = exponent := by
  have hparts : wholePart first (w ++ text) ++
      pointPart first ((w ++ text).drop (wholePart first (w ++ text)).length) ++
      exponentPart ((w ++ text).drop (wholePart first (w ++ text) ++
        pointPart first ((w ++ text).drop (wholePart first (w ++ text)).length)).length) = w := h
  generalize hw : wholePart first (w ++ text) = whole at hparts
  generalize hp : pointPart first ((w ++ text).drop whole.length) = point at hparts
  generalize he : exponentPart ((w ++ text).drop (whole ++ point).length) = exponent at hparts
  subst hparts
  rw [List.append_assoc, List.drop_left] at he
  rw [List.append_assoc, List.append_assoc] at hw hp
  rw [List.drop_left] at hp
  exact ⟨whole, point, exponent, List.append_assoc .., hw, hp, he⟩

/-- **A decimal number that is followed by `rest` is the same before `rest'`.** -/
theorem decimalTail_loosened (h : Loosened rest rest')
    (hw : (decimalTail first (w ++ rest)).1 = w)
    (hdot : w.getLast? = some '.' → rest'.head? = rest.head?) :
    decimalTail first (w ++ rest') = decimalTail first (w ++ rest) := by
  obtain ⟨whole, point, exponent, rfl, hwhole, hpoint, hexp⟩ := exists_parts hw
  have hwhole' : wholePart first (whole ++ (point ++ (exponent ++ rest'))) = whole := by
    have hle : ∀ after, digitRun 10 after (whole ++ (point ++ (exponent ++ rest))) = whole →
        digitRun 10 after (whole ++ (point ++ (exponent ++ rest'))) = whole := by
      intro after hrun
      rw [digitRun_loosened ((h.append exponent).append point)
        (Nat.le_of_eq (congrArg _ hrun)), hrun]
    unfold wholePart at hwhole ⊢
    split at hwhole
    next hf => rw [if_pos hf, hle false hwhole]
    next hf =>
      rw [if_neg hf]
      split at hwhole
      next hz => rw [if_pos hz, hwhole]
      next hz => rw [if_neg hz, hle true hwhole]
  have hexp' : exponentPart (exponent ++ rest') = exponent := by
    rw [exponentPart_loosened h (Nat.le_of_eq (congrArg _ hexp)), hexp]
  have hpoint' : pointPart first (point ++ (exponent ++ rest')) = point := by
    unfold pointPart at hpoint ⊢
    split at hpoint
    next hf => rw [if_pos hf, hpoint]
    next hf =>
      rw [if_neg hf]
      rw [← List.append_assoc] at hpoint ⊢
      rw [fractionPart_loosened h ?_ ?_, hpoint]
      · rw [hpoint, List.append_assoc, List.drop_left, hexp, List.length_append]
      · intro hlast
        exact hdot (by rw [hlast, List.getLast?_append]; rfl)
  rw [List.append_assoc, List.append_assoc, List.append_assoc, List.append_assoc,
    decimalTail_of_parts hwhole hpoint hexp, decimalTail_of_parts hwhole' hpoint' hexp']

variable {t : TokenKind}

theorem decimalNumeral_loosened (h : Loosened rest rest')
    (hn : decimalNumeral first (w ++ rest) = ⟨w.length, .ok t⟩)
    (hdot : w.getLast? = some '.' → rest'.head? = rest.head?) :
    decimalNumeral first (w ++ rest') = ⟨w.length, .ok t⟩ := by
  obtain ⟨hjunk, hlen, hname, hkind⟩ := decimalNumeral_eq_ok.mp hn
  have htail : (decimalTail first (w ++ rest)).1 = w := by
    have hprefix := decimalTail_isPrefix first (w ++ rest)
    rw [List.prefix_iff_eq_take.mp hprefix, ← hlen, List.take_left]
  rw [List.drop_left] at hname
  have hsame := decimalTail_loosened h htail hdot
  refine decimalNumeral_eq_ok.mpr ⟨?_, by rw [hsame, hlen], ?_, by rwa [hsame]⟩
  · rintro ⟨hz, hd | hu⟩
    · exact hjunk ⟨hz, .inl (startsWithDigit_loosened (h.append w) hd)⟩
    · exact hjunk ⟨hz, .inr ((h.append w).head? (by decide) hu)⟩
  · rw [List.drop_left]
    exact startsWithName_loosened h hname

theorem binaryExponentAhead_append {digits : List Char}
    (hd : ∀ c ∈ digits, (isDigitOf 16 c || c = '_') = true) {mark : Char}
    (hm : mark = 'p' ∨ mark = 'P') (text : List Char) :
    binaryExponentAhead ('.' :: (digits ++ mark :: text)) = true := by
  have hmark : (isDigitOf 16 mark || mark = '_') = false := by rcases hm with rfl | rfl <;> decide
  have hdrop : (digits ++ mark :: text).dropWhile (fun c => isDigitOf 16 c || c = '_') =
      mark :: text := by
    rw [List.dropWhile_append_of_pos hd, List.dropWhile_cons_of_neg (by simp [hmark])]
  rw [binaryExponentAhead, hdrop]
  rcases hm with rfl | rfl <;> rfl

theorem binaryExponentAhead_cases {text : List Char} (h : binaryExponentAhead text = true) :
    ∃ mark, (mark = 'p' ∨ mark = 'P') ∧ (text.head? = some mark ∨ ∃ digits more,
      (∀ c ∈ digits, (isDigitOf 16 c || c = '_') = true) ∧
      text = '.' :: (digits ++ mark :: more)) := by
  unfold binaryExponentAhead at h
  split at h
  · exact ⟨'p', .inl rfl, .inl rfl⟩
  · exact ⟨'P', .inr rfl, .inl rfl⟩
  next rest =>
    have hsplit := (List.takeWhile_append_dropWhile (p := fun c => isDigitOf 16 c || c = '_')
      (l := rest)).symm
    have hd : ∀ c ∈ rest.takeWhile fun c => isDigitOf 16 c || c = '_',
        (isDigitOf 16 c || c = '_') = true := fun c hc =>
      List.mem_takeWhile_imp (p := fun c => isDigitOf 16 c || c = '_') hc
    split at h
    next more hmore => exact ⟨'p', .inl rfl, .inr ⟨_, more, hd, by rw [← hmore, ← hsplit]⟩⟩
    next more hmore => exact ⟨'P', .inr rfl, .inr ⟨_, more, hd, by rw [← hmore, ← hsplit]⟩⟩
    · cases h
  · cases h

/-- No binary exponent is seen where none was. -/
theorem binaryExponentAhead_loosened (h : Loosened rest rest')
    (hb : binaryExponentAhead rest' = true) : binaryExponentAhead rest = true := by
  obtain ⟨mark, hm, hhead | ⟨digits, more, hd, rfl⟩⟩ := binaryExponentAhead_cases hb
  · have hmark : isBreak mark = false := by rcases hm with rfl | rfl <;> decide
    obtain ⟨more, rfl⟩ := List.head?_eq_some_iff.mp (h.head? hmark hhead)
    rcases hm with rfl | rfl <;> rfl
  · have hseen : ∀ c ∈ '.' :: (digits ++ [mark]), isBreak c = false := by
      refine List.forall_mem_cons.mpr ⟨by decide, List.forall_mem_append.mpr ⟨fun c hc => ?_, ?_⟩⟩
      · rcases Bool.or_eq_true_iff.mp (hd c hc) with hdigit | hu
        · exact isBreak_of_isDigitOf hdigit
        · rw [of_decide_eq_true hu]
          decide
      · refine List.forall_mem_singleton.mpr ?_
        rcases hm with rfl | rfl <;> decide
    have htext : '.' :: (digits ++ mark :: more) = '.' :: (digits ++ [mark]) ++ more := by simp
    rw [htext] at h
    obtain ⟨ahead, rfl⟩ := h.exists_ahead hseen
    have happend := binaryExponentAhead_append hd hm ahead
    simpa using happend

theorem radixNumeral_loosened {radix : Radix} {mark : Char} (h : Loosened rest rest')
    (hn : radixNumeral radix mark (w ++ rest) = ⟨w.length + 1, .ok t⟩) :
    radixNumeral radix mark (w ++ rest') = ⟨w.length + 1, .ok t⟩ := by
  obtain ⟨hne, hlen, hb, hname, hi, ht⟩ := radixNumeral_eq_ok.mp hn
  have hrun : (digitRun radix.base false (w ++ rest)).length = w.length := by omega
  have hsame := digitRun_loosened h (Nat.le_of_eq hrun)
  rw [hrun, List.drop_left] at hb hname
  refine radixNumeral_eq_ok.mpr ?_
  rw [hsame, hrun, List.drop_left]
  exact ⟨hne, Nat.add_comm .., fun hb' => hb ⟨hb'.1, binaryExponentAhead_loosened h hb'.2⟩,
    startsWithName_loosened h hname, hi, ht⟩

/-- A zero and a radix mark begin a number of the radix, and anything else a decimal one. -/
theorem numeral_eq_decimalNumeral {text : List Char}
    (h : ∀ mark, text.head? = some mark → first = '0' → Radix.ofMark? mark = none) :
    numeral first text = decimalNumeral first text := by
  unfold numeral
  split
  next mark more =>
    split
    next radix hradix =>
      rw [if_neg fun hz => by simp [h mark rfl hz] at hradix]
    · rfl
  · rfl

theorem numeral_eq_radixNumeral {mark : Char} {radix : Radix} {text : List Char}
    (h : Radix.ofMark? mark = some radix) :
    numeral '0' (mark :: text) = radixNumeral radix mark text := by
  simp only [numeral, h, if_pos]

theorem ofMark?_of_isBreak {c : Char} (h : isBreak c = true) : Radix.ofMark? c = none := by
  rcases isBreak_cases h with rfl | rfl | rfl | rfl | rfl | rfl <;> rfl

/-- **A number that is followed by `rest` is the same before `rest'`.** -/
theorem numeral_loosened (h : Loosened rest rest')
    (hn : numeral first (w ++ rest) = ⟨w.length, .ok t⟩)
    (hdot : w.getLast? = some '.' → rest'.head? = rest.head?) :
    numeral first (w ++ rest') = ⟨w.length, .ok t⟩ := by
  by_cases hmark : ∃ mark radix, (w ++ rest).head? = some mark ∧ first = '0' ∧
      Radix.ofMark? mark = some radix
  · obtain ⟨mark, radix, hm, rfl, hradix⟩ := hmark
    cases w with
    | nil =>
      obtain ⟨more, rfl⟩ := List.head?_eq_some_iff.mp hm
      rw [List.nil_append, numeral_eq_radixNumeral hradix] at hn
      obtain ⟨-, hlen, -⟩ := radixNumeral_eq_ok.mp hn
      rw [List.length_nil] at hlen
      omega
    | cons c w =>
      obtain rfl : c = mark := Option.some.inj hm
      rw [List.cons_append, numeral_eq_radixNumeral hradix] at hn ⊢
      exact radixNumeral_loosened h hn
  · have hnone : ∀ mark, (w ++ rest).head? = some mark → first = '0' →
        Radix.ofMark? mark = none := fun mark hm hz =>
      Option.eq_none_iff_forall_ne_some.mpr fun radix hr => hmark ⟨mark, radix, hm, hz, hr⟩
    rw [numeral_eq_decimalNumeral hnone] at hn
    rw [numeral_eq_decimalNumeral]
    · exact decimalNumeral_loosened h hn hdot
    · intro mark hm hz
      by_cases hb : isBreak mark = true
      · exact ofMark?_of_isBreak hb
      · exact hnone mark ((h.append w).head? (by simpa using hb) hm) hz

end PathExpr
