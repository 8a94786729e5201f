import PathExpr.Proofs.Lexical.Lookahead
import PathExpr.Proofs.Number.Range

/-!
# PathExpr/Proofs/Lexical/NumberWords — the words that are numbers

`NumberWord next word` says that the word is a number literal without radix mark, `next` being the
character behind it.  Each such word writes a number (`NumberWord.exists_writes`), and by that
number it is an integer, a decimal number or out of range (`wordKind_decimalKind`).
-/

namespace PathExpr

/-! ## Digits with underscores -/

/-- Digits of the radix with single underscores between them. -/
inductive DigitGroups (radix : Nat) : List Char → Prop
  | last {c : Char} (h : isDigitOf radix c = true) : DigitGroups radix [c]
  | digit {c : Char} {text : List Char} (h : isDigitOf radix c = true)
      (hr : DigitGroups radix text) : DigitGroups radix (c :: text)
  | separated {c : Char} {text : List Char} (h : isDigitOf radix c = true)
      (hr : DigitGroups radix text) : DigitGroups radix (c :: '_' :: text)

theorem isDigitOf_underscore (radix : Nat) : isDigitOf radix '_' = false := by
  have hnone : alphanumericValue? '_' = none := by decide
  rw [isDigitOf, digitValue?, hnone]
  rfl

theorem ne_underscore_of_isDigitOf {radix : Nat} {c : Char} (h : isDigitOf radix c = true) :
    c ≠ '_' := by
  rintro rfl
  exact Bool.false_ne_true ((isDigitOf_underscore radix).symm.trans h)

namespace DigitGroups

variable {radix : Nat} {text : List Char}

theorem exists_cons (h : DigitGroups radix text) :
    ∃ c rest, text = c :: rest ∧ isDigitOf radix c = true := by
  cases h with
  | last h | digit h | separated h => exact ⟨_, _, rfl, h⟩

theorem isDigitOf_head {c : Char} (h : DigitGroups radix (c :: text)) :
    isDigitOf radix c = true := by
  cases h with
  | last h | digit h | separated h => exact h

theorem startsWithDigit_append (h : DigitGroups radix text) (rest : List Char) :
    startsWithDigit radix (text ++ rest) = true := by
  obtain ⟨c, more, rfl, hc⟩ := h.exists_cons
  exact hc

/-- Groups are read up to their end at least. -/
theorem digitRun_append (h : DigitGroups radix text) (rest : List Char) (after : Bool) :
    digitRun radix after (text ++ rest) = text ++ digitRun radix true rest := by
  induction h generalizing after with
  | last h => exact if_pos h
  | digit h hr ih => rw [List.cons_append, digitRun, if_pos h, ih, List.cons_append]
  | @separated c text h hr ih =>
    have hu : ¬ isDigitOf radix '_' = true := by rw [isDigitOf_underscore]; exact Bool.false_ne_true
    rw [List.cons_append, digitRun, if_pos h, List.cons_append, digitRun, if_neg hu,
      if_pos ⟨rfl, rfl, hr.startsWithDigit_append rest⟩, ih, List.cons_append, List.cons_append]

/-- …and what is read behind a digit are groups. -/
theorem cons_digitRun : ∀ (text : List Char) {c : Char}, isDigitOf radix c = true →
    DigitGroups radix (c :: digitRun radix true text)
  | [], _, h => .last h
  | a :: text, c, h => by
    rw [digitRun]
    by_cases ha : isDigitOf radix a = true
    · rw [if_pos ha]
      exact .digit h (cons_digitRun text ha)
    · rw [if_neg ha]
      split
      next hu =>
        obtain ⟨rfl, -, hstart⟩ := hu
        obtain ⟨b, text, rfl⟩ : ∃ b more, text = b :: more :=
          List.exists_cons_of_ne_nil (by rintro rfl; cases hstart)
        have hb : isDigitOf radix b = true := hstart
        rw [digitRun, if_pos hb]
        exact .separated h (cons_digitRun text hb)
      next => exact .last h
termination_by text => text.length

theorem of_digitRun (h : startsWithDigit radix text = true) :
    DigitGroups radix (digitRun radix false text) := by
  cases text with
  | nil => cases h
  | cons c text =>
    have hc : isDigitOf radix c = true := h
    rw [digitRun, if_pos hc]
    exact cons_digitRun text hc

theorem mem (h : DigitGroups radix text) : ∀ c ∈ text, c = '_' ∨ isDigitOf radix c = true := by
  induction h with
  | last h => exact List.forall_mem_singleton.mpr (.inr h)
  | digit h _ ih => exact List.forall_mem_cons.mpr ⟨.inr h, ih⟩
  | separated h _ ih =>
    exact List.forall_mem_cons.mpr ⟨.inr h, List.forall_mem_cons.mpr ⟨.inl rfl, ih⟩⟩

theorem separatedAfter_eq_true (h : DigitGroups radix text) (after : Bool) :
    separatedAfter radix after text = true := by
  induction h generalizing after with
  | last h =>
    rw [separatedAfter, if_neg (ne_underscore_of_isDigitOf h)]
    rfl
  | digit h _ ih =>
    rw [separatedAfter, if_neg (ne_underscore_of_isDigitOf h)]
    exact ih _
  | separated h hr ih =>
    have hstart := hr.startsWithDigit_append []
    rw [List.append_nil] at hstart
    rw [separatedAfter, if_neg (ne_underscore_of_isDigitOf h), h, separatedAfter, if_pos rfl,
      hstart, ih]
    rfl

theorem exists_writesNat (h : DigitGroups 10 text) : ∃ n k, WritesNat text n k := by
  induction h with
  | last h =>
    obtain ⟨d, hd, rfl⟩ := exists_of_isDecimalDigit h
    exact ⟨_, _, .last hd⟩
  | digit h _ ih =>
    obtain ⟨d, hd, rfl⟩ := exists_of_isDecimalDigit h
    obtain ⟨n, k, hn⟩ := ih
    exact ⟨_, _, .digit hd hn⟩
  | separated h _ ih =>
    obtain ⟨d, hd, rfl⟩ := exists_of_isDecimalDigit h
    obtain ⟨n, k, hn⟩ := ih
    exact ⟨_, _, .separated hd hn⟩

end DigitGroups

/-! ## Values of integers -/

variable {text digits : List Char} {radix : Nat}

/-- An integer literal has the value of its digits. -/
theorem readMagnitude?_of_digitGroups (hs : splitRadix text = (radix, digits))
    (h : DigitGroups radix digits) :
    readMagnitude? text = some (natOfDigits radix (withoutSeparators digits)) := by
  have hne : digits ≠ [] := by
    obtain ⟨c, rest, rfl, -⟩ := h.exists_cons
    exact List.cons_ne_nil c rest
  have hall : digits.all (fun c => c = '_' || isDigitOf radix c) = true :=
    List.all_eq_true.mpr fun c hc => by simpa using h.mem c hc
  simp only [readMagnitude?, hs]
  exact if_pos ⟨hne, hall, h.separatedAfter_eq_true false⟩

/-- An integer literal without sign has a value if its size is in range. -/
theorem isSome_readInteger?_iff {m : Nat} (hu : Unsigned text) (h : readMagnitude? text = some m) :
    (readInteger? text).isSome = true ↔ (m : Int) ≤ maxInteger := by
  have hmin : minInteger ≤ (m : Int) := (by decide : minInteger ≤ 0).trans (Int.natCast_nonneg m)
  rw [readInteger?_eq, splitSign_of_unsigned hu, h, Option.bind_some, integerOfMagnitude?.eq_def]
  simp [hmin]

/-! ## Number words -/

/-- A zero alone, or digits that do not begin with a zero. -/
inductive IntegerWord : List Char → Prop
  | zero : IntegerWord ['0']
  | digits {c : Char} {text : List Char} (hz : c ≠ '0') (h : DigitGroups 10 (c :: text)) :
      IntegerWord (c :: text)

/-- The mark of an exponent, perhaps a sign, and digits. -/
inductive ExponentWord : List Char → Prop
  | digits {mark text : List Char} (hm : ExponentMark mark) (h : DigitGroups 10 text) :
      ExponentWord (mark ++ text)

/-- A number literal without radix mark, with `next` behind it.  Only before a second point may it
end with a point. -/
inductive NumberWord (next : Option Char) : List Char → Prop
  | integer {whole : List Char} (h : IntegerWord whole) : NumberWord next whole
  | fraction {whole digits : List Char} (h : IntegerWord whole) (hd : DigitGroups 10 digits) :
      NumberWord next (whole ++ '.' :: digits)
  | power {whole power : List Char} (h : IntegerWord whole) (hp : ExponentWord power) :
      NumberWord next (whole ++ power)
  | fractionPower {whole digits power : List Char} (h : IntegerWord whole)
      (hd : DigitGroups 10 digits) (hp : ExponentWord power) :
      NumberWord next (whole ++ '.' :: (digits ++ power))
  | pointPower {whole power : List Char} (h : IntegerWord whole) (hp : ExponentWord power) :
      NumberWord next (whole ++ '.' :: power)
  | bareFraction {digits : List Char} (hd : DigitGroups 10 digits) :
      NumberWord next ('.' :: digits)
  | bareFractionPower {digits power : List Char} (hd : DigitGroups 10 digits)
      (hp : ExponentWord power) : NumberWord next ('.' :: (digits ++ power))
  | point {whole : List Char} (h : IntegerWord whole) (hn : next = some '.') :
      NumberWord next (whole ++ ['.'])

namespace IntegerWord

variable {word : List Char}

theorem digitGroups (h : IntegerWord word) : DigitGroups 10 word := by
  cases h with
  | zero => exact .last (by decide)
  | digits _ h => exact h

theorem unsigned (h : IntegerWord word) : Unsigned word := by
  obtain ⟨c, rest, rfl, hc⟩ := h.digitGroups.exists_cons
  exact unsigned_of_isDecimalDigit hc rest

/-- There is no radix mark in an integer without one. -/
theorem splitRadix_eq (h : IntegerWord word) : splitRadix word = (10, word) := by
  cases h with
  | zero => rfl
  | digits hz =>
    rw [splitRadix]
    rintro _ _ e
    exact hz (List.cons.inj e).1

theorem isSome_readInteger?_iff {n k : Nat} (h : IntegerWord word) (hn : WritesNat word n k) :
    (readInteger? word).isSome = true ↔ (n : Int) ≤ maxInteger := by
  rw [← hn.cleaned.value]
  exact PathExpr.isSome_readInteger?_iff h.unsigned
    (readMagnitude?_of_digitGroups h.splitRadix_eq h.digitGroups)

end IntegerWord

theorem ExponentWord.exists_writes {power : List Char} (h : ExponentWord power) :
    ∃ e, WritesExponent power e := by
  cases h with
  | digits hm h =>
    obtain ⟨n, k, hn⟩ := h.exists_writesNat
    cases hm with
    | bare hm => exact ⟨_, .power hm .none hn⟩
    | signed hm hs =>
      rcases hs with rfl | rfl
      · exact ⟨_, .power hm .plus hn⟩
      · exact ⟨_, .power hm .minus hn⟩

theorem exists_writes_of_mantissa {mantissa power : List Char} {n k : Nat}
    (hm : WritesMantissa mantissa n k) (hp : power = [] ∨ ExponentWord power) :
    ∃ v, Writes (mantissa ++ power) v := by
  obtain ⟨e, he⟩ : ∃ e, WritesExponent power e := by
    rcases hp with rfl | hp
    · exact ⟨0, .none⟩
    · exact hp.exists_writes
  exact ⟨_, Writes.literal .none hm he⟩

/-- **Each of these words writes a number.** -/
theorem NumberWord.exists_writes {next : Option Char} {word : List Char}
    (h : NumberWord next word) : ∃ v, Writes word v := by
  have hwhole : ∀ {whole}, IntegerWord whole → ∃ n k, WritesNat whole n k :=
    fun h => h.digitGroups.exists_writesNat
  cases h with
  | integer h =>
    obtain ⟨n, k, hn⟩ := hwhole h
    simpa using exists_writes_of_mantissa (.whole hn) (.inl rfl)
  | fraction h hd =>
    obtain ⟨n, k, hn⟩ := hwhole h
    obtain ⟨m, j, hm⟩ := hd.exists_writesNat
    simpa using exists_writes_of_mantissa (.both hn hm) (.inl rfl)
  | power h hp =>
    obtain ⟨n, k, hn⟩ := hwhole h
    exact exists_writes_of_mantissa (.whole hn) (.inr hp)
  | fractionPower h hd hp =>
    obtain ⟨n, k, hn⟩ := hwhole h
    obtain ⟨m, j, hm⟩ := hd.exists_writesNat
    simpa using exists_writes_of_mantissa (.both hn hm) (.inr hp)
  | pointPower h hp =>
    obtain ⟨n, k, hn⟩ := hwhole h
    simpa using exists_writes_of_mantissa (.wholePoint hn) (.inr hp)
  | bareFraction hd =>
    obtain ⟨m, j, hm⟩ := hd.exists_writesNat
    simpa using exists_writes_of_mantissa (.fraction hm) (.inl rfl)
  | bareFractionPower hd hp =>
    obtain ⟨m, j, hm⟩ := hd.exists_writesNat
    exact exists_writes_of_mantissa (.fraction hm) (.inr hp)
  | point h =>
    obtain ⟨n, k, hn⟩ := hwhole h
    simpa using exists_writes_of_mantissa (.wholePoint hn) (.inl rfl)

/-! ## Kinds of number words -/

/-- The word is an integer of 64 bits. -/
def SmallInteger (word : List Char) : Prop :=
  IntegerWord word ∧ ∃ n k, WritesNat word n k ∧ (n : Int) ≤ maxInteger

/-- The kind of token that a number word is by itself. -/
inductive WordKind (word : List Char) : TokenKind → Prop
  | integer (h : SmallInteger word) : WordKind word (.integer (String.ofList word))
  | decimal {v : ℚ} (h : ¬ SmallInteger word) (hv : Writes word v) (hs : Sized v) :
      WordKind word (.decimal (String.ofList word))
  | outOfRange {v : ℚ} (h : ¬ SmallInteger word) (hv : Writes word v) (hs : ¬ Sized v) :
      WordKind word (.faulty .outOfRange)

theorem IntegerWord.smallInteger_iff {word : List Char} (h : IntegerWord word) :
    SmallInteger word ↔ (readInteger? word).isSome = true := by
  constructor
  · rintro ⟨-, n, k, hn, hle⟩
    exact (h.isSome_readInteger?_iff hn).mpr hle
  · intro hsome
    obtain ⟨n, k, hn⟩ := h.digitGroups.exists_writesNat
    exact ⟨h, n, k, hn, (h.isSome_readInteger?_iff hn).mp hsome⟩

/-- **A number word that is finished is of the kind that it is by itself.** -/
theorem wordKind_decimalKind {next : Option Char} {word : List Char} {hasPoint : Bool}
    (h : NumberWord next word) (hp : hasPoint = false ↔ IntegerWord word) (more : Nat) :
    WordKind word (Lexeme.ofNumeral ⟨more, decimalKind word hasPoint⟩).kind := by
  have hsmall : (!hasPoint && (readInteger? word).isSome) = true ↔ SmallInteger word := by
    rw [Bool.and_eq_true, Bool.not_eq_true', hp]
    constructor
    · rintro ⟨hi, hsome⟩
      exact hi.smallInteger_iff.mpr hsome
    · intro hs
      exact ⟨hs.1, hs.1.smallInteger_iff.mp hs⟩
  obtain ⟨v, hv⟩ := h.exists_writes
  have hvalue : (Numeric.ofText? (String.ofList word)).isSome = true ↔ Sized v := by
    rw [Numeric.isSome_ofText?, String.toList_ofList]
    exact isSome_evaluate?_iff hv
  rw [decimalKind.eq_def]
  dsimp only
  by_cases hs : SmallInteger word
  · rw [if_pos (hsmall.mpr hs)]
    exact .integer hs
  · rw [if_neg (mt hsmall.mp hs)]
    by_cases hz : Sized v
    · rw [if_pos (hvalue.mpr hz)]
      exact .decimal hs hv hz
    · rw [if_neg (mt hvalue.mp hz)]
      exact .outOfRange hs hv hz

end PathExpr
