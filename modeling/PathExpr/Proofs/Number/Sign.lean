import Mathlib.Data.List.TakeWhile
import PathExpr.Proofs.Evidence
import PathExpr.Proofs.Number.Checked
import PathExpr.Proofs.Number.Value

/-!
# PathExpr/Proofs/Number/Sign — signs of literals

A literal keeps what it is when its sign is turned: `readInteger?_negateText` turns the value of an
integer, as long as it is in range, and `Numeric.exists_negated?` says that a decimal literal has an
opposite whenever it has a value.
-/

namespace PathExpr

/-! ## Signs at the front -/

/-- The literal begins with no sign. -/
def Unsigned (text : List Char) : Prop := text.head? ≠ some '-' ∧ text.head? ≠ some '+'

/-- The literal begins with one sign at most. -/
def SingleSigned (text : List Char) : Prop := Unsigned (splitSign text).2

theorem splitSign_of_unsigned {text : List Char} (h : Unsigned text) :
    splitSign text = (false, text) := by
  rw [splitSign]
  · rintro rest rfl
    exact h.1 rfl
  · rintro rest rfl
    exact h.2 rfl

theorem unsigned_cons {c : Char} {text : List Char} (hm : c ≠ '-') (hp : c ≠ '+') :
    Unsigned (c :: text) := ⟨by simpa, by simpa⟩

theorem Unsigned.singleSigned {text : List Char} (h : Unsigned text) : SingleSigned text := by
  rw [SingleSigned, splitSign_of_unsigned h]
  exact h

/-- A text is a minus, a plus or neither before another. -/
theorem sign_cases (text : List Char) :
    (∃ rest, text = '-' :: rest) ∨ (∃ rest, text = '+' :: rest) ∨ Unsigned text := by
  cases text with
  | nil => exact .inr (.inr ⟨by simp, by simp⟩)
  | cons c rest =>
    by_cases hm : c = '-'
    · exact .inl ⟨rest, by rw [hm]⟩
    · by_cases hp : c = '+'
      · exact .inr (.inl ⟨rest, by rw [hp]⟩)
      · exact .inr (.inr (unsigned_cons hm hp))

theorem negateText_of_unsigned {text : List Char} (h : Unsigned text) :
    negateText text = '-' :: text := by
  rw [negateText]
  · rintro rest rfl
    exact h.1 rfl
  · rintro rest rfl
    exact h.2 rfl

theorem SingleSigned.negateText {text : List Char} (h : SingleSigned text) :
    SingleSigned (negateText text) := by
  rcases sign_cases text with ⟨rest, rfl⟩ | ⟨rest, rfl⟩ | hu
  · exact Unsigned.singleSigned h
  · exact h
  · rw [negateText_of_unsigned hu]
    exact hu

/-! ## Integers -/

/-- The size of an integer literal without sign. -/
def readMagnitude? (text : List Char) : Option Nat :=
  let (radix, digits) := splitRadix text
  if digits ≠ [] ∧ digits.all (fun c => c = '_' || isDigitOf radix c) ∧ separated radix digits then
    some (natOfDigits radix (withoutSeparators digits))
  else none

/-- The integer of a sign and a size, if it is in range. -/
def integerOfMagnitude? (negative : Bool) (magnitude : Nat) : Option Int :=
  let value : Int := if negative then -(magnitude : Int) else magnitude
  if minInteger ≤ value ∧ value ≤ maxInteger then some value else none

/-- **An integer literal is a sign and a size.** -/
theorem readInteger?_eq (text : List Char) :
    readInteger? text =
      (readMagnitude? (splitSign text).2).bind (integerOfMagnitude? (splitSign text).1) := by
  rcases hs : splitSign text with ⟨negative, unsigned⟩
  rcases hr : splitRadix unsigned with ⟨radix, digits⟩
  simp only [readInteger?, readMagnitude?, hs, hr]
  split <;> rfl

theorem readInteger?_eq_some {text : List Char} {n : Int} :
    readInteger? text = some n ↔ ∃ m, readMagnitude? (splitSign text).2 = some m ∧
      integerOfMagnitude? (splitSign text).1 m = some n := by
  rw [readInteger?_eq]
  exact Option.bind_eq_some_iff

theorem integerOfMagnitude?_eq_some {negative : Bool} {m : Nat} {n : Int} :
    integerOfMagnitude? negative m = some n ↔
      (if negative then -(m : Int) else m) = n ∧ minInteger ≤ n ∧ n ≤ maxInteger := by
  rw [integerOfMagnitude?.eq_def]
  extract_lets value
  constructor
  · intro h
    split at h
    next hr =>
      obtain rfl := Option.some.inj h
      exact ⟨rfl, hr⟩
    · cases h
  · rintro ⟨rfl, hr⟩
    rw [if_pos hr]

/-- The value of an integer literal is a signed number of 64 bits. -/
theorem Integer.inRange (i : Integer) : minInteger ≤ i.value ∧ i.value ≤ maxInteger := by
  obtain ⟨m, -, hv⟩ := readInteger?_eq_some.mp i.reads
  exact (integerOfMagnitude?_eq_some.mp hv).2

theorem unsigned_of_readMagnitude? {text : List Char} {m : Nat}
    (h : readMagnitude? text = some m) : Unsigned text := by
  have hfirst : ∀ c rest, isDigitOf 10 c = false → c ≠ '_' → c ≠ '0' → text ≠ c :: rest := by
    rintro c rest hd hu hz rfl
    have hr : splitRadix (c :: rest) = (10, c :: rest) := by
      rw [splitRadix]
      exact fun _ _ e => hz (List.cons.inj e).1
    simp [readMagnitude?, hr, hd, hu] at h
  constructor
  · intro hh
    obtain ⟨rest, hrest⟩ := List.head?_eq_some_iff.mp hh
    exact hfirst '-' rest (by decide) (by decide) (by decide) hrest
  · intro hh
    obtain ⟨rest, hrest⟩ := List.head?_eq_some_iff.mp hh
    exact hfirst '+' rest (by decide) (by decide) (by decide) hrest

/-- An integer without sign is not below zero. -/
theorem nonneg_of_unsigned {text : List Char} {n : Int} (h : readInteger? text = some n)
    (hu : Unsigned text) : 0 ≤ n := by
  obtain ⟨m, -, hm⟩ := readInteger?_eq_some.mp h
  rw [splitSign_of_unsigned hu, integerOfMagnitude?_eq_some] at hm
  obtain ⟨rfl, -⟩ := hm
  exact Int.natCast_nonneg m

/-- **Turning the sign of an integer literal turns its value.** -/
theorem readInteger?_negateText {text : List Char} {n : Int} (h : readInteger? text = some n)
    (hn : n ≠ minInteger) : readInteger? (negateText text) = some (-n) := by
  obtain ⟨m, hm, hv⟩ := readInteger?_eq_some.mp h
  have hu := unsigned_of_readMagnitude? hm
  have hmin : minInteger = -maxInteger - 1 := rfl
  obtain ⟨hv, hlow, hhigh⟩ := integerOfMagnitude?_eq_some.mp hv
  rw [readInteger?_eq_some]
  rcases sign_cases text with ⟨rest, rfl⟩ | ⟨rest, rfl⟩ | hut
  · have hur : Unsigned rest := hu
    rw [negateText, splitSign_of_unsigned hur]
    refine ⟨m, hm, integerOfMagnitude?_eq_some.mpr ⟨?_, by omega, by omega⟩⟩
    rw [← hv]
    simp [splitSign]
  · refine ⟨m, hm, integerOfMagnitude?_eq_some.mpr ⟨?_, by omega, by omega⟩⟩
    rw [← hv]
    simp [splitSign, negateText]
  · rw [splitSign_of_unsigned hut] at hm hv
    rw [negateText_of_unsigned hut]
    refine ⟨m, hm, integerOfMagnitude?_eq_some.mpr ⟨?_, by omega, by omega⟩⟩
    rw [← hv]
    simp [splitSign]

/-- **An integer that is not the least one has an opposite.** -/
theorem Integer.exists_negated? {i : Integer} (h : i.value ≠ minInteger) :
    ∃ j : Integer, i.negated? = some j ∧ j.value = -i.value ∧
      j.literal.toList = negateText i.literal.toList := by
  have hneg := readInteger?_negateText i.reads h
  refine ⟨⟨String.ofList (negateText i.literal.toList), -i.value, by simpa using hneg⟩, ?_, rfl,
    String.toList_ofList⟩
  exact Integer.ofText?_eq_some.mpr rfl

/-! ## Decimal literals -/

namespace Decimal

/-- The digits before and after the point and the exponent of a literal without signs. -/
def parts? (unsigned : List Char) : Option (List Char × List Char × Int) :=
  let whole := unsigned.takeWhile isDecimalDigit
  let (fraction, rest) := splitFraction (unsigned.dropWhile isDecimalDigit)
  if whole = [] ∧ fraction = [] then none
  else (readExponent? rest).map fun exponent => (whole, fraction, exponent)

theorem readDigits?_eq_some {negative : Bool} {text : List Char} {d : Decimal} :
    readDigits? negative text = some d ↔ d.negative = negative ∧
      d.innerSign = (splitInnerSign text).1 ∧
      parts? (splitInnerSign text).2 = some (d.whole, d.fraction, d.exponent) := by
  obtain ⟨b, inner, whole, fraction, exponent⟩ := d
  rcases hs : splitInnerSign text with ⟨inner', unsigned⟩
  rcases hf : splitFraction (unsigned.dropWhile isDecimalDigit) with ⟨fraction', rest⟩
  simp only [readDigits?, parts?, hs, hf]
  split
  · simp
  · simp only [Option.map_eq_some_iff, Prod.mk.injEq, Decimal.mk.injEq]
    constructor
    · rintro ⟨e, he, rfl, rfl, rfl, rfl, rfl⟩
      exact ⟨rfl, rfl, e, he, rfl, rfl, rfl⟩
    · rintro ⟨rfl, rfl, e, he, rfl, rfl, rfl⟩
      exact ⟨e, he, rfl, rfl, rfl, rfl, rfl⟩

/-- A decimal literal is a sign, and digits in which underscores stand between two. -/
theorem read?_eq_some {text : List Char} {d : Decimal} :
    read? text = some d ↔ separated 10 (splitSign text).2 = true ∧
      readDigits? (splitSign text).1 (withoutSeparators (splitSign text).2) = some d := by
  rcases hs : splitSign text with ⟨negative, rest⟩
  simp [read?, hs]

theorem unsigned_of_parts? {text : List Char} {parts : List Char × List Char × Int}
    (h : parts? text = some parts) : Unsigned text := by
  have hfirst : ∀ c rest, isDecimalDigit c = false → c ≠ '.' → text ≠ c :: rest := by
    rintro c rest hd hp rfl
    have hdrop : (c :: rest).dropWhile isDecimalDigit = c :: rest :=
      List.dropWhile_cons_of_neg (by simp [hd])
    have hf : splitFraction (c :: rest) = ([], c :: rest) := by
      rw [splitFraction]
      exact fun _ e => hp (List.cons.inj e).1
    simp [parts?, hdrop, hf, hd] at h
  constructor
  · intro hh
    obtain ⟨rest, hrest⟩ := List.head?_eq_some_iff.mp hh
    exact hfirst '-' rest (by decide) (by decide) hrest
  · intro hh
    obtain ⟨rest, hrest⟩ := List.head?_eq_some_iff.mp hh
    exact hfirst '+' rest (by decide) (by decide) hrest

theorem splitInnerSign_of_unsigned {text : List Char} (h : Unsigned text) :
    splitInnerSign text = ([], text) := by
  rw [splitInnerSign]
  · rintro rest rfl
    exact h.1 rfl
  · rintro rest rfl
    exact h.2 rfl

/-- **The digits of a decimal literal are decimal ones.** -/
theorem digital_of_read? {text : List Char} {d : Decimal} (h : read? text = some d) :
    d.Digital := by
  obtain ⟨-, h⟩ := read?_eq_some.mp h
  obtain ⟨-, -, h⟩ := readDigits?_eq_some.mp h
  rcases hf : splitFraction ((splitInnerSign (withoutSeparators (splitSign text).2)).2.dropWhile
    isDecimalDigit) with ⟨fraction, rest⟩
  simp only [parts?, hf] at h
  split at h
  · cases h
  · obtain ⟨e, -, he⟩ := Option.map_eq_some_iff.mp h
    obtain ⟨hw, hfr, -⟩ := Prod.mk.inj he |>.imp_right Prod.mk.inj
    intro c hc
    rcases List.mem_append.mp hc with hc | hc
    · rw [← hw] at hc
      exact List.mem_takeWhile_imp hc
    · rw [← hfr] at hc
      unfold splitFraction at hf
      split at hf
      · rw [← (Prod.mk.inj hf).1] at hc
        exact List.mem_takeWhile_imp hc
      · rw [← (Prod.mk.inj hf).1] at hc
        cases hc

/-- A sign in front of the digits may be left out. -/
theorem readDigits?_innerSign {negative : Bool} {sign : Char} {text : List Char} {d : Decimal}
    (hs : sign = '-' ∨ sign = '+') (h : readDigits? negative (sign :: text) = some d)
    (negative' : Bool) :
    readDigits? negative' text = some { d with negative := negative', innerSign := [] } := by
  obtain ⟨-, -, hp⟩ := readDigits?_eq_some.mp h
  have hsplit : (splitInnerSign (sign :: text)).2 = text := by rcases hs with rfl | rfl <;> rfl
  rw [hsplit] at hp
  rw [readDigits?_eq_some, splitInnerSign_of_unsigned (unsigned_of_parts? hp)]
  exact ⟨rfl, rfl, hp⟩

/-- **Turning the sign of a decimal literal changes none of its parts but the signs**, and takes the
sign in front of the digits away if it changes that. -/
theorem read?_negateText {text : List Char} {d : Decimal} (h : read? text = some d) :
    ∃ d', read? (negateText text) = some d' ∧ d'.whole = d.whole ∧ d'.fraction = d.fraction ∧
      d'.exponent = d.exponent ∧ (d'.innerSign = [] ∨ d'.innerSign = d.innerSign) := by
  obtain ⟨hsep, hr⟩ := read?_eq_some.mp h
  -- Whatever follows the outer sign is read again with another one.
  have hkeep : ∀ {rest : List Char} {b : Bool} (b' : Bool),
      readDigits? b (withoutSeparators rest) = some d →
      readDigits? b' (withoutSeparators rest) = some { d with negative := b' } := by
    intro rest b b' hr
    obtain ⟨-, hi, hp⟩ := readDigits?_eq_some.mp hr
    exact readDigits?_eq_some.mpr ⟨rfl, hi, hp⟩
  rcases sign_cases text with ⟨rest, rfl⟩ | ⟨rest, rfl⟩ | hu
  · rcases sign_cases rest with ⟨r, rfl⟩ | ⟨r, rfl⟩ | hu
    · exact ⟨_, read?_eq_some.mpr ⟨hsep, readDigits?_innerSign (.inl rfl) hr true⟩, rfl, rfl, rfl,
        .inl rfl⟩
    · exact ⟨_, read?_eq_some.mpr ⟨hsep, readDigits?_innerSign (.inr rfl) hr false⟩, rfl, rfl, rfl,
        .inl rfl⟩
    · refine ⟨{ d with negative := false }, read?_eq_some.mpr ?_, rfl, rfl, rfl, .inr rfl⟩
      rw [negateText, splitSign_of_unsigned hu]
      exact ⟨hsep, hkeep false hr⟩
  · exact ⟨_, read?_eq_some.mpr ⟨hsep, hkeep true hr⟩, rfl, rfl, rfl, .inr rfl⟩
  · rw [splitSign_of_unsigned hu] at hsep hr
    rw [negateText_of_unsigned hu]
    exact ⟨_, read?_eq_some.mpr ⟨hsep, hkeep true hr⟩, rfl, rfl, rfl, .inr rfl⟩

/-- No underscore stands in front of a literal. -/
theorem unsigned_withoutSeparators {text : List Char} (h : separated 10 text = true)
    (hu : Unsigned text) : Unsigned (withoutSeparators text) := by
  cases text with
  | nil => exact hu
  | cons c rest =>
    have hc : c ≠ '_' := by
      rintro rfl
      simp [separated, separatedAfter] at h
    rw [withoutSeparators, List.filter_cons_of_pos (by simpa using hc)]
    exact hu

/-- A literal with one sign has none in front of its digits. -/
theorem innerSign_of_singleSigned {text : List Char} {d : Decimal} (h : read? text = some d)
    (hs : SingleSigned text) : d.innerSign = [] := by
  obtain ⟨hsep, hr⟩ := read?_eq_some.mp h
  obtain ⟨-, hi, -⟩ := readDigits?_eq_some.mp hr
  rw [hi, splitInnerSign_of_unsigned (unsigned_withoutSeparators hsep hs)]

/-- A decimal literal has a value if its parts can be read, the value is of the right size, and its
text can be written. -/
theorem evaluate?_eq_some {text canonical : List Char} {value : Binary64} :
    evaluate? text = some (canonical, value) ↔
      ∃ d, read? text = some d ∧ d.binary64? = some value ∧ d.canonical = canonical ∧
        d.formatted?.isSome = true := by
  simp only [evaluate?, Option.bind_eq_some_iff, Option.map_eq_some_iff, formatted?_eq_some]
  refine exists_congr fun d => and_congr_right fun _ => ?_
  constructor
  · rintro ⟨x, hx, t, ht, he⟩
    obtain ⟨rfl, rfl⟩ := Prod.mk.inj he
    exact ⟨hx, ht⟩
  · rintro ⟨hx, ht⟩
    exact ⟨_, hx, _, ht, rfl⟩

end Decimal

/-- **Every decimal number has an opposite**, and one sign at most if it has so itself. -/
theorem Numeric.exists_negated? (n : Numeric) :
    ∃ m : Numeric, n.negated? = some m ∧ m.literal.toList = negateText n.literal.toList := by
  obtain ⟨d, hd, hv, -, hwritten⟩ := Decimal.evaluate?_eq_some.mp n.reads
  obtain ⟨d', hd', hw, hf, he, hi⟩ := Decimal.read?_negateText hd
  have hsome := Decimal.isSome_binary64?_of_unsigned (Decimal.digital_of_read? hd) hw.symm hf.symm
    he.symm (by rw [hv]; rfl)
  obtain ⟨v, hv'⟩ := Option.isSome_iff_exists.mp hsome
  have hwritten' : d'.formatted?.isSome = true := by
    rcases hi with hi | hi
    · exact Decimal.isSome_formatted? hi
    · rwa [Decimal.isSome_formatted?_congr hi hw hf he]
  have hreads := Decimal.evaluate?_eq_some.mpr ⟨d', hd', hv', rfl, hwritten'⟩
  refine ⟨⟨String.ofList (negateText n.literal.toList), String.ofList d'.canonical, v,
    by simpa using hreads⟩, ?_, String.toList_ofList⟩
  exact Numeric.ofText?_eq_some.mpr rfl

end PathExpr
