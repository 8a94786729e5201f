import PathExpr.Proofs.Lexical.NumberWords
import PathExpr.Proofs.Lexical.Numerals

/-!
# PathExpr/Proofs/Lexical/LongestNumber — numbers take the longest word

Behind the whole part of a number stands nothing, or a point, an exponent or both.  What is read
there is such a part (`behind_cases`) and none is longer (`Behind.length_le`), so the number that is
read is the longest one at the front of the text (`BeginsNumber.longestWord`).
-/

namespace PathExpr

/-! ## Runs and exponents -/

theorem EndsDigits.not_startsWithDigit {rest : List Char} (h : EndsDigits rest) :
    ¬ startsWithDigit 10 rest = true := by
  cases rest with
  | nil => exact nofun
  | cons c rest => exact Bool.eq_false_iff.mp (h c rfl).1

theorem digitRun_of_endsDigits {rest : List Char} (h : EndsDigits rest) (after : Bool) :
    digitRun 10 after rest = [] := by
  have hrun := digitRun_append (List.forall_mem_nil _) h after
  rwa [List.nil_append] at hrun

/-- Digits behind a point are read with it. -/
theorem DigitGroups.fractionPart_append {digits : List Char} (h : DigitGroups 10 digits)
    (rest : List Char) :
    fractionPart ('.' :: (digits ++ rest)) = '.' :: (digits ++ digitRun 10 true rest) := by
  rw [fractionPart_of_digit (h.startsWithDigit_append _), h.digitRun_append]

namespace ExponentWord

variable {power : List Char}

theorem exists_cons (h : ExponentWord power) :
    ∃ mark rest, power = mark :: rest ∧ (mark = 'e' ∨ mark = 'E') := by
  cases h with
  | digits hm =>
    cases hm with
    | bare hm | signed hm => exact ⟨_, _, rfl, hm⟩

theorem endsDigits_append (h : ExponentWord power) (rest : List Char) :
    EndsDigits (power ++ rest) := by
  obtain ⟨mark, more, rfl, hm⟩ := h.exists_cons
  rcases hm with rfl | rfl
  · exact endsDigits_cons (by decide) (by decide)
  · exact endsDigits_cons (by decide) (by decide)

theorem digitRun_append (h : ExponentWord power) (rest : List Char) :
    digitRun 10 true (power ++ rest) = [] :=
  digitRun_of_endsDigits (h.endsDigits_append rest) true

theorem fractionPart_append (h : ExponentWord power) (rest : List Char) :
    fractionPart (power ++ rest) = [] := by
  obtain ⟨mark, more, rfl, hm⟩ := h.exists_cons
  exact fractionPart_cons (by rcases hm with rfl | rfl <;> decide) _

theorem exponentMark_append_ne_nil (h : ExponentWord power) (rest : List Char) :
    exponentMark (power ++ rest) ≠ [] := by
  cases h with
  | digits hm hd =>
    obtain ⟨digit, more, rfl, hdigit⟩ := hd.exists_cons
    rw [List.append_assoc, List.cons_append, exponentMark_append hm hdigit]
    exact hm.ne_nil

/-- An exponent is read up to its end at least. -/
theorem exponentPart_append (h : ExponentWord power) (rest : List Char) :
    exponentPart (power ++ rest) = power ++ digitRun 10 true rest := by
  cases h with
  | digits hm hd =>
    have hrun := hd.digitRun_append rest false
    obtain ⟨digit, more, rfl, hdigit⟩ := hd.exists_cons
    rw [List.append_assoc, List.cons_append, PathExpr.exponentPart_append hm hdigit,
      ← List.cons_append, hrun, List.append_assoc]

end ExponentWord

/-- …and what is read is one. -/
theorem exponentPart_cases (text : List Char) :
    exponentPart text = [] ∨ ExponentWord (exponentPart text) := by
  rcases exponentMark_cases text with h | ⟨mark, digit, rest, hm, hd, rfl⟩
  · exact .inl (exponentPart_of_nil h)
  · rw [exponentPart_append hm hd]
    exact .inr (.digits hm (.of_digitRun hd))

/-! ## Behind the whole part -/

/-- What may stand behind the whole part of a number, with `next` behind it. -/
inductive Behind (next : Option Char) : List Char → Prop
  | fraction {digits : List Char} (hd : DigitGroups 10 digits) : Behind next ('.' :: digits)
  | power {power : List Char} (hp : ExponentWord power) : Behind next power
  | fractionPower {digits power : List Char} (hd : DigitGroups 10 digits)
      (hp : ExponentWord power) : Behind next ('.' :: (digits ++ power))
  | pointPower {power : List Char} (hp : ExponentWord power) : Behind next ('.' :: power)
  | point (hn : next = some '.') : Behind next ['.']

/-- What is read behind the whole part. -/
def behind (text : List Char) : List Char :=
  fractionPart text ++ exponentPart (text.drop (fractionPart text).length)

theorem fractionPart_cases (text : List Char) : fractionPart text = [] ∨
    (∃ digits, fractionPart text = '.' :: digits ∧ DigitGroups 10 digits) ∨
    fractionPart text = ['.'] ∧ ∃ more, text = '.' :: more ∧ KeepsPoint more := by
  cases text with
  | nil => exact .inl rfl
  | cons c text =>
    by_cases hc : c = '.'
    · subst hc
      by_cases hd : startsWithDigit 10 text = true
      · exact .inr (.inl ⟨_, fractionPart_of_digit hd, .of_digitRun hd⟩)
      · by_cases hk : KeepsPoint text
        · exact .inr (.inr ⟨fractionPart_of_keepsPoint hd hk, text, rfl, hk⟩)
        · exact .inl (fractionPart_of_not_keepsPoint hd hk)
    · exact .inl (fractionPart_cons hc text)

/-- **What is read behind the whole part may stand there.** -/
theorem behind_cases (text : List Char) :
    behind text = [] ∨ Behind (text.drop (behind text).length).head? (behind text) := by
  unfold behind
  have hpower := exponentPart_cases (text.drop (fractionPart text).length)
  rcases fractionPart_cases text with hf | ⟨digits, hf, hd⟩ | ⟨hf, more, rfl, hk⟩
  · rw [hf] at hpower ⊢
    exact hpower.imp_right .power
  · rw [hf] at hpower ⊢
    rcases hpower with hp | hp
    · rw [hp, List.append_nil]
      exact .inr (.fraction hd)
    · exact .inr (.fractionPower hd hp)
  · rw [hf] at hpower ⊢
    rcases hpower with hp | hp
    · rw [hp, List.append_nil]
      exact .inr (.point (hk.resolve_right (not_not_intro (exponentPart_eq_nil hp))))
    · exact .inr (.pointPower hp)

namespace Behind

variable {next : Option Char} {tail rest : List Char}

theorem endsDigits_append (h : Behind next tail) (rest : List Char) :
    EndsDigits (tail ++ rest) := by
  have hpoint : ∀ text, EndsDigits ('.' :: text) :=
    fun text => endsDigits_cons (by decide) (by decide)
  cases h with
  | fraction | fractionPower | pointPower | point => exact hpoint _
  | power hp => exact hp.endsDigits_append rest

/-- **What may stand behind the whole part is read.** -/
theorem length_le (h : Behind rest.head? tail) : tail.length ≤ (behind (tail ++ rest)).length := by
  unfold behind
  cases h with
  | fraction hd =>
    rw [List.cons_append, hd.fractionPart_append]
    simp only [List.length_append, List.length_cons]
    omega
  | power hp =>
    rw [hp.fractionPart_append, List.nil_append, List.length_nil, List.drop_zero,
      hp.exponentPart_append]
    simp only [List.length_append, Nat.le_add_right]
  | @fractionPower digits power hd hp =>
    have hdrop : ('.' :: (digits ++ (power ++ rest))).drop ('.' :: digits).length =
        power ++ rest := List.drop_left
    rw [List.cons_append, List.append_assoc, hd.fractionPart_append, hp.digitRun_append,
      List.append_nil, hdrop, hp.exponentPart_append]
    simp only [List.length_append, List.length_cons]
    omega
  | pointPower hp =>
    have hstart := (hp.endsDigits_append rest).not_startsWithDigit
    rw [List.cons_append, fractionPart_of_keepsPoint hstart
      (.inr (hp.exponentMark_append_ne_nil rest)), List.length_singleton, List.drop_succ_cons,
      List.drop_zero, hp.exponentPart_append]
    simp only [List.length_append, List.length_cons, List.length_nil]
    omega
  | point hn =>
    obtain ⟨more, rfl⟩ := List.head?_eq_some_iff.mp hn
    have hstart := (endsDigits_cons (by decide) (by decide) : EndsDigits ('.' :: more))
    rw [List.singleton_append, fractionPart_of_keepsPoint hstart.not_startsWithDigit (.inl hn)]
    simp only [List.length_append, Nat.le_add_right]

/-- …and makes a number of a whole part. -/
theorem numberWord (h : Behind next tail) {whole : List Char} (hw : IntegerWord whole) :
    NumberWord next (whole ++ tail) := by
  cases h with
  | fraction hd => exact .fraction hw hd
  | power hp => exact .power hw hp
  | fractionPower hd hp => exact .fractionPower hw hd hp
  | pointPower hp => exact .pointPower hw hp
  | point hn => exact .point hw hn

end Behind

/-! ## The front of the text -/

/-- The integer at the front of the text. -/
def leadingInteger : List Char → List Char
  | [] => []
  | c :: text =>
    if c = '.' then []
    else if c = '0' then ['0']
    else c :: digitRun 10 true text

/-- The number at the front of the text. -/
def frontNumber (text : List Char) : List Char :=
  leadingInteger text ++ behind (text.drop (leadingInteger text).length)

theorem leadingInteger_of_digit {c : Char} (hp : c ≠ '.') (hz : c ≠ '0') (text : List Char) :
    leadingInteger (c :: text) = c :: digitRun 10 true text :=
  (if_neg hp).trans (if_neg hz)

theorem integerWord_leadingInteger {c : Char} (h : isDecimalDigit c = true) (text : List Char) :
    IntegerWord (leadingInteger (c :: text)) := by
  by_cases hz : c = '0'
  · subst hz
    exact .zero
  · rw [leadingInteger_of_digit (Decimal.ne_of_isDecimalDigit h (by decide)) hz]
    exact .digits hz (.cons_digitRun text h)

namespace IntegerWord

variable {whole rest : List Char}

/-- A whole part is read up to its end at least. -/
theorem exists_leadingInteger (h : IntegerWord whole) (rest : List Char) :
    ∃ more, leadingInteger (whole ++ rest) = whole ++ more ∧ (EndsDigits rest → more = []) := by
  cases h with
  | zero => exact ⟨[], rfl, fun _ => rfl⟩
  | @digits c text hz hd =>
    have hc := hd.isDigitOf_head
    have hrun := hd.digitRun_append rest true
    rw [List.cons_append, digitRun, if_pos hc] at hrun
    refine ⟨digitRun 10 true rest, ?_, fun hends => digitRun_of_endsDigits hends true⟩
    have hpoint : c ≠ '.' := Decimal.ne_of_isDecimalDigit hc (by decide)
    rw [List.cons_append, leadingInteger_of_digit hpoint hz, hrun, List.cons_append]

/-- **A whole part with what may stand behind it is read.** -/
theorem length_le_frontNumber (h : IntegerWord whole) {tail : List Char}
    (ht : tail = [] ∨ Behind rest.head? tail) :
    (whole ++ tail).length ≤ (frontNumber (whole ++ tail ++ rest)).length := by
  rw [frontNumber, List.append_assoc]
  rcases ht with rfl | ht
  · obtain ⟨more, hwhole, -⟩ := h.exists_leadingInteger rest
    rw [List.nil_append, List.append_nil, hwhole, List.append_assoc, List.length_append]
    exact Nat.le_add_right _ _
  · obtain ⟨more, hwhole, hmore⟩ := h.exists_leadingInteger (tail ++ rest)
    rw [hmore (ht.endsDigits_append rest), List.append_nil] at hwhole
    rw [hwhole, List.drop_left, List.length_append, List.length_append]
    exact Nat.add_le_add_left ht.length_le _

end IntegerWord

theorem frontNumber_of_zero (text : List Char) :
    frontNumber ('0' :: text) = '0' :: behind text := rfl

theorem frontNumber_of_point (text : List Char) :
    frontNumber ('.' :: text) = behind ('.' :: text) := rfl

/-- **No number at the front of a text is longer than that which is read.** -/
theorem NumberWord.length_le_frontNumber {word rest : List Char}
    (h : NumberWord rest.head? word) : word.length ≤ (frontNumber (word ++ rest)).length := by
  cases h with
  | integer h => simpa using h.length_le_frontNumber (.inl rfl)
  | fraction h hd => exact h.length_le_frontNumber (.inr (.fraction hd))
  | power h hp => exact h.length_le_frontNumber (.inr (.power hp))
  | fractionPower h hd hp => exact h.length_le_frontNumber (.inr (.fractionPower hd hp))
  | pointPower h hp => exact h.length_le_frontNumber (.inr (.pointPower hp))
  | bareFraction hd => exact (Behind.fraction hd).length_le
  | bareFractionPower hd hp => exact (Behind.fractionPower hd hp).length_le
  | point h hn => exact h.length_le_frontNumber (.inr (.point hn))

/-- A digit is at the front, or a point and a digit. -/
def BeginsNumber (text : List Char) : Prop :=
  startsWithDigit 10 text = true ∨ ∃ more, text = '.' :: more ∧ startsWithDigit 10 more = true

theorem BeginsNumber.exists_cons {text : List Char} (h : BeginsNumber text) :
    ∃ first rest, text = first :: rest := by
  rcases h with hd | ⟨more, rfl, -⟩
  · obtain ⟨digit, more, rfl, -⟩ := exists_digit hd
    exact ⟨digit, more, rfl⟩
  · exact ⟨'.', more, rfl⟩

/-- **What is read is a number.** -/
theorem BeginsNumber.numberWord_frontNumber {text : List Char} (h : BeginsNumber text) :
    NumberWord (text.drop (frontNumber text).length).head? (frontNumber text) := by
  rcases h with hd | ⟨more, rfl, hd⟩
  · obtain ⟨digit, more, rfl, hdigit⟩ := exists_digit hd
    have hw := integerWord_leadingInteger hdigit more
    rw [frontNumber, List.length_append, ← List.drop_drop]
    rcases behind_cases ((digit :: more).drop (leadingInteger (digit :: more)).length) with hb | hb
    · rw [hb, List.append_nil]
      exact .integer hw
    · exact hb.numberWord hw
  · have hf := fractionPart_of_digit hd
    have hgroups := DigitGroups.of_digitRun hd
    rw [frontNumber_of_point, behind, hf]
    rcases exponentPart_cases (('.' :: more).drop ('.' :: digitRun 10 false more).length) with
      hp | hp
    · rw [hp, List.append_nil]
      exact .bareFraction hgroups
    · exact .bareFractionPower hgroups hp

/-! ## Decimal numbers -/

variable {first : Char} {text : List Char}

/-- The scan of a number that begins with a digit. -/
theorem decimalTail_of_digit (h : isDecimalDigit first = true) (text : List Char) :
    ∃ whole, leadingInteger (first :: text) = first :: whole ∧ decimalTail first text =
      (whole ++ behind (text.drop whole.length),
        decide (behind (text.drop whole.length) ≠ [])) := by
  have hpoint : first ≠ '.' := Decimal.ne_of_isDecimalDigit h (by decide)
  refine ⟨if first = '0' then [] else digitRun 10 true text, ?_, ?_⟩
  · by_cases hz : first = '0'
    · subst hz
      rfl
    · rw [leadingInteger_of_digit hpoint hz, if_neg hz]
  · rw [decimalTail.eq_def]
    simp only [if_neg hpoint, decide_eq_false hpoint, Bool.false_or]
    generalize (if first = '0' then [] else digitRun 10 true text) = whole
    simp only [behind, List.length_append, ← List.drop_drop, List.append_assoc, ne_eq,
      List.append_eq_nil_iff, not_and_or, Bool.decide_or]

/-- **The scan takes the number at the front of the text.** -/
theorem cons_decimalTail (h : BeginsNumber (first :: text)) :
    first :: (decimalTail first text).1 = frontNumber (first :: text) := by
  rcases h with hd | ⟨more, htext, hd⟩
  · obtain ⟨whole, hinteger, htail⟩ := decimalTail_of_digit hd text
    rw [htail, frontNumber, hinteger]
    rfl
  · obtain ⟨rfl, rfl⟩ := List.cons.inj htext
    rw [frontNumber_of_point, behind, fractionPart_of_digit hd, decimalTail.eq_def]
    simp only [if_true, List.append_nil, List.length_cons, List.drop_succ_cons, List.cons_append]

theorem BeginsNumber.frontNumber_append {text : List Char} (h : BeginsNumber text) :
    frontNumber text ++ text.drop (frontNumber text).length = text := by
  cases text with
  | nil => rfl
  | cons first text =>
    have hprefix := (List.prefix_cons_inj first).mpr (decimalTail_isPrefix first text)
    rw [cons_decimalTail h] at hprefix
    exact List.prefix_iff_eq_append.mp hprefix

/-- …and without a point and an exponent it is an integer. -/
theorem decimalTail_snd_eq_false_iff (h : BeginsNumber (first :: text)) :
    (decimalTail first text).2 = false ↔ IntegerWord (frontNumber (first :: text)) := by
  have happend := h.frontNumber_append
  rcases h with hd | ⟨more, htext, hd⟩
  · obtain ⟨whole, hinteger, htail⟩ := decimalTail_of_digit hd text
    have hfront : frontNumber (first :: text) =
        leadingInteger (first :: text) ++ behind (text.drop whole.length) := by
      rw [frontNumber, hinteger]
      rfl
    rw [htail, decide_eq_false_iff_not, not_not]
    constructor
    · intro hb
      rw [hfront, hb, List.append_nil]
      exact integerWord_leadingInteger hd text
    · intro hw
      obtain ⟨more, hmore, -⟩ := hw.exists_leadingInteger
        ((first :: text).drop (frontNumber (first :: text)).length)
      rw [happend, hfront, List.append_assoc, List.self_eq_append_right] at hmore
      exact (List.append_eq_nil_iff.mp hmore).1
  · obtain ⟨rfl, rfl⟩ := List.cons.inj htext
    refine iff_of_false ?_ fun hw => ?_
    · rw [decimalTail.eq_def]
      simp
    · rw [← cons_decimalTail (.inr ⟨text, rfl, hd⟩)] at hw
      exact absurd hw.digitGroups.isDigitOf_head (by decide)

/-- The word is a number at the front of the text, and no number there is longer. -/
structure LongestWord (text word rest : List Char) : Prop where
  text_eq : text = word ++ rest
  isNumber : NumberWord rest.head? word
  longest : ∀ word' rest', text = word' ++ rest' → NumberWord rest'.head? word' →
    word'.length ≤ word.length

theorem BeginsNumber.longestWord {text : List Char} (h : BeginsNumber text) :
    LongestWord text (frontNumber text) (text.drop (frontNumber text).length) where
  text_eq := h.frontNumber_append.symm
  isNumber := h.numberWord_frontNumber
  longest := by
    rintro word rest rfl hword
    exact hword.length_le_frontNumber

/-- A point belongs to the number before a second one, and else it begins an accessor. -/
example : frontNumber ['1', '.', '.', 'a'] = ['1', '.'] := by decide

example : frontNumber ['1', '.', 'a'] = ['1'] := by decide

end PathExpr
