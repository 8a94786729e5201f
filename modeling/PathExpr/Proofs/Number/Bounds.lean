import Mathlib.Data.String.Basic
import PathExpr.Number.Integer
import PathExpr.Proofs.Number.Canonical

/-!
# PathExpr/Proofs/Number/Bounds — canonical texts in numbers of 64 bits

`Decimal.canonical` counts with integers of any size.  `Decimal.canonical64?` takes the same steps
with numbers of 64 bits and fails as soon as one of them does not fit, or where a count would be
below zero.  For a literal that has a value it never fails (`canonical64?_eq`): the exponent may be
large only if as many digits make up for it (`canonical64?_eq_of_magnitude`), or all digits are
zeros, which are written without it.
-/

namespace PathExpr

theorem int64?_eq {n : Int} (hlow : minInteger ≤ n) (hhigh : n ≤ maxInteger) :
    int64? n = some n := if_pos ⟨hlow, hhigh⟩

theorem count64?_eq {n : Int} (hlow : 0 ≤ n) (hhigh : n ≤ maxInteger) :
    count64? n = some n.toNat := by
  refine if_pos ⟨hlow, ?_⟩
  have hmax : maxInteger = 0x7fffffffffffffff := rfl
  omega

namespace Decimal

/-! ## Nothing is out of range -/

theorem length_dropTrailingZeros_le (text : List Char) :
    (dropTrailingZeros text).length ≤ text.length := by
  have h := (List.dropWhile_suffix (· = '0') (l := text.reverse)).length_le
  rwa [List.length_reverse, ← List.length_reverse] at h

theorem length_significant_le (d : Decimal) : d.significant.length ≤ d.digits.length :=
  (length_dropTrailingZeros_le _).trans (List.dropWhile_suffix _).length_le

theorem placePoint64?_eq {digits : List Char} {point : Int}
    (hd : (digits.length : Int) ≤ maxInteger) (hlow : minInteger < point)
    (hhigh : point ≤ maxInteger) :
    placePoint64? digits point = some (placePoint digits point) := by
  have hmin : minInteger = -0x8000000000000000 := rfl
  have hmax : maxInteger = 0x7fffffffffffffff := rfl
  simp only [placePoint64?, placePoint, int64?_eq (n := (digits.length : Int)) (by omega) hd,
    Option.bind_eq_bind, Option.bind_some]
  split
  next hp =>
    rw [int64?_eq (by omega) (by omega), Option.bind_some, count64?_eq (by omega) (by omega),
      Option.bind_some]
    have hn : (-point).toNat = point.natAbs := by omega
    rw [hn]
  next hp =>
    split
    next hlen =>
      rw [int64?_eq (by omega) (by omega), Option.bind_some, count64?_eq (by omega) (by omega),
        Option.bind_some]
      have hn : (point - digits.length).toNat = point.natAbs - digits.length := by omega
      rw [hn]
    next hlen =>
      rw [count64?_eq (by omega) (by omega), Option.bind_some]
      have hn : point.toNat = point.natAbs := by omega
      rw [hn]

theorem point64?_eq {whole skipped : Nat} {exponent : Int} (hwhole : (whole : Int) ≤ maxInteger)
    (hskipped : (skipped : Int) ≤ maxInteger)
    (hexponent : minInteger ≤ exponent) (hexponent' : exponent ≤ maxInteger)
    (hmoved : whole + exponent ≤ maxInteger) (hpoint : minInteger ≤ whole + exponent - skipped) :
    point64? whole exponent skipped = some (whole + exponent - skipped) := by
  have hmin : minInteger = -0x8000000000000000 := rfl
  have hmax : maxInteger = 0x7fffffffffffffff := rfl
  simp only [point64?, Option.bind_eq_bind]
  rw [int64?_eq hexponent hexponent', Option.bind_some, int64?_eq (by omega) hwhole,
    Option.bind_some, int64?_eq (by omega) hmoved, Option.bind_some, int64?_eq (by omega) hskipped,
    Option.bind_some, int64?_eq hpoint (by omega)]

/-- The zeros in front of a text can be counted if its characters can. -/
theorem count64?_skipped (text : List Char) (h : (text.length : Int) ≤ maxInteger) :
    count64? (text.length - (text.dropWhile (· = '0')).length) =
      some (text.length - (text.dropWhile (· = '0')).length) := by
  have hdrop := (List.dropWhile_suffix (· = '0') (l := text)).length_le
  have hcount : ((text.length : Int) - (text.dropWhile (· = '0')).length).toNat =
      text.length - (text.dropWhile (· = '0')).length := by omega
  rw [count64?_eq (by omega) (by omega), hcount]

/-- **The exponent of a literal of ordinary magnitude is in range**, and so is what is added to it;
a sign in front of the digits makes no more of a difference than a digit. -/
theorem canonical64?_eq_of_magnitude {d : Decimal} (hi : d.innerSign.length ≤ 1)
    (hlow : -magnitudeLimit ≤ d.magnitude) (hhigh : d.magnitude ≤ magnitudeLimit)
    (hlen : d.digits.length ≤ 2 ^ 62 + 1000) : d.canonical64? = some d.canonical := by
  have hmin : minInteger = -0x8000000000000000 := rfl
  have hmax : maxInteger = 0x7fffffffffffffff := rfl
  have hlimit : magnitudeLimit = 400 := rfl
  have hpoint := d.point_eq_magnitude
  have hdigits : d.digits.length = d.whole.length + d.fraction.length := List.length_append
  have hskipped := Nat.sub_le d.digits.length (d.digits.dropWhile (· = '0')).length
  have hwhole : (d.innerSign ++ d.whole).length = d.innerSign.length + d.whole.length :=
    List.length_append
  have hall : (d.innerSign ++ d.whole ++ d.fraction).length =
      d.innerSign.length + d.digits.length := by
    rw [List.length_append, hwhole]
    omega
  generalize hfront : d.innerSign ++ d.whole = front at hwhole hall
  have hdrop := (List.dropWhile_suffix (· = '0') (l := front ++ d.fraction)).length_le
  have htrailing := length_dropTrailingZeros_le ((front ++ d.fraction).dropWhile (· = '0'))
  have hcount := count64?_skipped (front ++ d.fraction) (by omega)
  simp only [canonical64?, canonical, hfront, hcount, Option.bind_eq_bind, Option.bind_some]
  split
  · rfl
  · rw [point64?_eq (by omega) (by omega) (by omega) (by omega) (by omega) (by omega),
      Option.bind_some, placePoint64?_eq (by omega) (by omega) (by omega), Option.bind_some]

/-- **Numbers of 64 bits are enough for the canonical text of a literal that has a value.** -/
theorem canonical64?_eq {d : Decimal} (hd : d.Digital) (hi : d.innerSign = [])
    (hv : d.binary64?.isSome = true) (hlen : d.digits.length ≤ 2 ^ 62 + 1000) :
    d.canonical64? = some d.canonical := by
  rcases (isSome_binary64?_iff hd).mp hv with hzero | ⟨hlow, hhigh, -⟩
  · have hsig : dropTrailingZeros (d.digits.dropWhile (· = '0')) = [] := hzero
    have hmax : maxInteger = 0x7fffffffffffffff := rfl
    have hdigits : d.whole ++ d.fraction = d.digits := rfl
    have hcount := count64?_skipped d.digits (by omega)
    rw [canonical_eq hi, if_pos hzero, canonical64?.eq_def]
    simp only [hi, List.nil_append, hdigits, Option.bind_eq_bind, hcount, Option.bind_some, hsig]
  · exact canonical64?_eq_of_magnitude (by rw [hi]; exact Nat.zero_le 1) hlow hhigh hlen

/-! ## Lengths of canonical texts -/

theorem length_placePoint_le (digits : List Char) (point : Int) :
    (placePoint digits point).length ≤ digits.length + point.natAbs + 2 := by
  unfold placePoint
  split
  · simp only [List.length_append, List.length_cons, List.length_replicate]
    omega
  · split <;>
    · simp only [List.length_append, List.length_cons, List.length_replicate, List.length_take,
        List.length_drop]
      omega

/-- The canonical text of a literal that has a value is hardly longer than its digits. -/
theorem length_canonical_le {d : Decimal} (hd : d.Digital) (hi : d.innerSign = [])
    (hv : d.binary64?.isSome = true) : d.canonical.length ≤ d.digits.length + 403 := by
  rw [canonical_eq hi]
  split
  · exact Nat.le_add_left 1 _
  next hne =>
    obtain ⟨hlow, hhigh, -⟩ := ((isSome_binary64?_iff hd).mp hv).resolve_left hne
    have hlimit : magnitudeLimit = 400 := rfl
    have hplaced := length_placePoint_le d.significant d.magnitude
    have hsignificant := length_significant_le d
    have hsign : (if d.negative then ['-'] else [] : List Char).length ≤ 1 := by split <;> simp
    rw [List.length_append]
    omega

/-! ## Digits of literals -/

theorem length_of_parts? {text whole fraction : List Char} {exponent : Int}
    (h : parts? text = some (whole, fraction, exponent)) :
    whole.length + fraction.length ≤ text.length := by
  have htext := congrArg List.length
    (List.takeWhile_append_dropWhile (p := isDecimalDigit) (l := text))
  rcases hf : splitFraction (text.dropWhile isDecimalDigit) with ⟨fraction', rest⟩
  have hlen : fraction'.length ≤ (text.dropWhile isDecimalDigit).length := by
    unfold splitFraction at hf
    split at hf
    next more hmore =>
      obtain ⟨rfl, -⟩ := Prod.mk.inj hf
      rw [hmore]
      exact Nat.le_succ_of_le (List.takeWhile_prefix _).length_le
    next =>
      obtain ⟨rfl, -⟩ := Prod.mk.inj hf
      exact Nat.zero_le _
  simp only [parts?, hf] at h
  split at h
  · cases h
  · obtain ⟨e, -, he⟩ := Option.map_eq_some_iff.mp h
    obtain ⟨hw, he⟩ := Prod.mk.inj he
    obtain ⟨hfr, -⟩ := Prod.mk.inj he
    rw [List.length_append, hw] at htext
    rw [hfr] at hlen
    omega

/-- A literal has no more digits than characters. -/
theorem length_digits_le {text : List Char} {d : Decimal} (h : read? text = some d) :
    d.digits.length ≤ text.length := by
  obtain ⟨-, hr⟩ := read?_eq_some.mp h
  obtain ⟨-, -, hp⟩ := readDigits?_eq_some.mp hr
  have hparts := length_of_parts? hp
  have hinner : ∀ text : List Char, (splitInnerSign text).2.length ≤ text.length := by
    intro text
    unfold splitInnerSign
    split <;> simp
  have hsign : (splitSign text).2.length ≤ text.length := by
    unfold splitSign
    split <;> simp
  have hfilter : (withoutSeparators (splitSign text).2).length ≤ (splitSign text).2.length :=
    List.length_filter_le _ _
  have hunsigned := hinner (withoutSeparators (splitSign text).2)
  rw [digits, List.length_append]
  omega

end Decimal

/-- A text has no more characters than bytes. -/
theorem length_le_utf8Len (text : List Char) : text.length ≤ String.utf8Len text := by
  induction text with
  | nil => exact Nat.le_refl _
  | cons c text ih =>
    have hc := c.utf8Size_pos
    rw [List.length_cons, String.utf8Len_cons]
    omega

end PathExpr
