import Mathlib.Tactic.FieldSimp
import PathExpr.Number.Decimal
import PathExpr.Proofs.Number.Digits
import PathExpr.Proofs.Number.Ratio

/-!
# PathExpr/Proofs/Number/Value — which decimal literals have a value

A decimal number is given by its digits without the zeros at both ends and by its magnitude, the
power of ten just above it.  Whether a literal has a value depends on these two alone
(`isSome_binary64?_congr`), as the fraction that is rounded does, and no sign changes it.
-/

namespace PathExpr.Decimal

/-! ## Zeros at the ends -/

/-- The digits without the zeros at both ends. -/
def significant (d : Decimal) : List Char := dropTrailingZeros (d.digits.dropWhile (· = '0'))

theorem exists_replicate_dropWhile (text : List Char) :
    ∃ n, text = List.replicate n '0' ++ text.dropWhile (· = '0') := by
  induction text with
  | nil => exact ⟨0, rfl⟩
  | cons c text ih =>
    by_cases hc : c = '0'
    · obtain ⟨n, hn⟩ := ih
      refine ⟨n + 1, ?_⟩
      rw [List.dropWhile_cons_of_pos (by simpa using hc), List.replicate_succ, List.cons_append,
        ← hn, hc]
    · exact ⟨0, by rw [List.dropWhile_cons_of_neg (by simpa using hc)]; rfl⟩

theorem exists_replicate_dropTrailingZeros (text : List Char) :
    ∃ n, text = dropTrailingZeros text ++ List.replicate n '0' := by
  obtain ⟨n, hn⟩ := exists_replicate_dropWhile text.reverse
  refine ⟨n, ?_⟩
  have h := congrArg List.reverse hn
  rwa [List.reverse_reverse, List.reverse_append, List.reverse_replicate] at h

/-- Digits are those between the zeros at both ends, with the zeros. -/
theorem exists_significant (d : Decimal) :
    ∃ m n : Nat, d.digits = List.replicate m '0' ++ (d.significant ++ List.replicate n '0') ∧
      d.magnitude = d.scale + (d.significant.length + n) := by
  obtain ⟨m, hm⟩ := exists_replicate_dropWhile d.digits
  obtain ⟨n, hn⟩ := exists_replicate_dropTrailingZeros (d.digits.dropWhile (· = '0'))
  refine ⟨m, n, ?_, ?_⟩
  · rw [significant, ← hn]
    exact hm
  · have hlen := congrArg List.length hn
    rw [List.length_append, List.length_replicate] at hlen
    rw [magnitude, hlen, significant, Nat.cast_add]

/-! ## The value as a fraction -/

/-- The digits of the number are decimal ones. -/
def Digital (d : Decimal) : Prop := ∀ c ∈ d.digits, isDecimalDigit c = true

theorem mantissa_eq (d : Decimal) :
    ∃ n : Nat, d.mantissa = natOfDigits 10 d.significant * 10 ^ n ∧
      d.magnitude = d.scale + (d.significant.length + n) := by
  obtain ⟨m, n, hd, hm⟩ := exists_significant d
  refine ⟨n, ?_, hm⟩
  rw [mantissa, hd, natOfDigits_append, natOfDigits_replicate_zero, Nat.zero_mul, Nat.zero_add,
    natOfDigits_append, natOfDigits_replicate_zero, List.length_replicate, Nat.add_zero]

theorem head_significant_ne_zero (d : Decimal) : d.significant.head? ≠ some '0' := by
  obtain ⟨n, hn⟩ := exists_replicate_dropTrailingZeros (d.digits.dropWhile (· = '0'))
  have hdrop : (d.digits.dropWhile (· = '0')).head? ≠ some '0' := by
    intro h
    have hnot := List.head?_dropWhile_not (fun c => decide (c = '0')) d.digits
    rw [h] at hnot
    simp at hnot
  intro h
  rw [hn, ← significant, List.head?_append, h] at hdrop
  exact hdrop rfl

theorem mantissa_eq_zero_iff {d : Decimal} (hd : d.Digital) :
    d.mantissa = 0 ↔ d.significant = [] := by
  obtain ⟨m, n, hdigits, -⟩ := exists_significant d
  obtain ⟨n', hmantissa, -⟩ := mantissa_eq d
  constructor
  · intro h
    by_contra hne
    have hs : ∀ c ∈ d.significant, isDecimalDigit c = true := fun c hc =>
      hd c (by rw [hdigits]; simp [hc])
    have hpos := natOfDigits_pos hs hne (head_significant_ne_zero d)
    rw [hmantissa] at h
    exact absurd h (Nat.mul_pos hpos (Nat.pow_pos (by decide))).ne'
  · intro h
    rw [hmantissa, h, natOfDigits_nil, Nat.zero_mul]

/-- Numerator and denominator of the value without its sign. -/
def ratio (d : Decimal) : Nat × Nat :=
  if d.scale < 0 then (d.mantissa, Nat.pow 10 d.scale.natAbs)
  else (d.mantissa * Nat.pow 10 d.scale.natAbs, 1)

theorem ratio_pos (d : Decimal) : 0 < d.ratio.2 := by
  unfold ratio
  split
  · exact Nat.pow_pos (by decide)
  · exact Nat.one_pos

/-- **The value is that of the significant digits after the magnitude.** -/
theorem ratio_eq (d : Decimal) :
    (d.ratio.1 : ℚ) =
      natOfDigits 10 d.significant * 10 ^ (d.magnitude - d.significant.length) * d.ratio.2 := by
  obtain ⟨n, hmantissa, hmagnitude⟩ := mantissa_eq d
  have hexp : d.magnitude - d.significant.length = d.scale + n := by omega
  have hm : (d.mantissa : ℚ) = natOfDigits 10 d.significant * 10 ^ n := by
    rw [hmantissa]
    push_cast
    rfl
  rw [hexp, zpow_add₀ (by norm_num), zpow_natCast]
  unfold ratio
  split
  next h =>
    obtain ⟨k, hk⟩ : ∃ k : Nat, d.scale = -k := ⟨d.scale.natAbs, by omega⟩
    simp only [hk, Int.natAbs_neg, Int.natAbs_natCast, Nat.pow_eq, zpow_neg, zpow_natCast, hm]
    push_cast
    field_simp
  next h =>
    obtain ⟨k, hk⟩ := Int.eq_ofNat_of_zero_le (Int.not_lt.mp h)
    simp only [hk, Int.natAbs_natCast, Nat.pow_eq, zpow_natCast]
    push_cast
    rw [hm]
    ring

theorem nearest?_eq_ofRatio? {d : Decimal} (hm : d.mantissa ≠ 0)
    (hlow : -magnitudeLimit ≤ d.magnitude) (hhigh : d.magnitude ≤ magnitudeLimit) :
    d.nearest? = Binary64.ofRatio? d.isNegative d.ratio.1 d.ratio.2 := by
  rw [nearest?, if_neg (by rintro (h | h) <;> [exact hm h; omega]), if_neg (by omega), ratio]
  split <;> rfl

/-- **A literal has a value if it is zero, or if the nearest number of its size is there and is not
zero.** -/
theorem isSome_binary64?_iff {d : Decimal} (hd : d.Digital) :
    d.binary64?.isSome = true ↔ d.significant = [] ∨
      (-magnitudeLimit ≤ d.magnitude ∧ d.magnitude ≤ magnitudeLimit ∧
        ∃ x, Binary64.ofRatio? false d.ratio.1 d.ratio.2 = some x ∧ x.isZero = false) := by
  rw [← mantissa_eq_zero_iff hd]
  by_cases hm : d.mantissa = 0
  · simp [binary64?, nearest?, hm]
  · have hz : ∀ x : Option Binary64, (x.filter fun y => !y.isZero || d.mantissa = 0).isSome = true ↔
        ∃ y, x = some y ∧ y.isZero = false := by
      intro x
      cases x <;> simp [hm]
    rw [binary64?, hz]
    constructor
    · rintro ⟨y, hy, hzero⟩
      right
      have hlow : -magnitudeLimit ≤ d.magnitude := by
        by_contra hlt
        rw [nearest?, if_pos (.inr (Int.not_le.mp hlt))] at hy
        obtain rfl := Option.some.inj hy
        exact absurd hzero (by simp [Binary64.isZero])
      have hhigh : d.magnitude ≤ magnitudeLimit := by
        by_contra hlt
        rw [nearest?, if_neg (by rintro (h | h) <;> [exact hm h; omega]),
          if_pos (Int.not_le.mp hlt)] at hy
        cases hy
      rw [nearest?_eq_ofRatio? hm hlow hhigh, Binary64.ofRatio?_sign] at hy
      obtain ⟨x, hx, rfl⟩ := Option.map_eq_some_iff.mp hy
      exact ⟨hlow, hhigh, x, hx, hzero⟩
    · rintro (h | ⟨hlow, hhigh, x, hx, hzero⟩)
      · exact absurd h hm
      · rw [nearest?_eq_ofRatio? hm hlow hhigh, Binary64.ofRatio?_sign, hx]
        exact ⟨_, rfl, hzero⟩

/-- **Whether a literal has a value depends on its significant digits and its magnitude alone.** -/
theorem isSome_binary64?_congr {d d' : Decimal} (hd : d.Digital) (hd' : d'.Digital)
    (hs : d.significant = d'.significant) (hm : d.magnitude = d'.magnitude)
    (h : d.binary64?.isSome = true) : d'.binary64?.isSome = true := by
  rw [isSome_binary64?_iff hd] at h
  rw [isSome_binary64?_iff hd', ← hs, ← hm]
  refine h.imp_right fun ⟨hlow, hhigh, x, hx, hzero⟩ => ⟨hlow, hhigh, x, ?_, hzero⟩
  rw [← hx]
  refine (Binary64.ofRatio?_congr false d.ratio_pos d'.ratio_pos ?_).symm
  have h₁ := d.ratio_eq
  have h₂ := d'.ratio_eq
  rw [hs, hm] at h₁
  have hcross : (d.ratio.1 * d'.ratio.2 : ℚ) = d'.ratio.1 * d.ratio.2 := by
    rw [h₁, h₂]
    ring
  exact_mod_cast hcross

/-- No sign plays a part. -/
theorem isSome_binary64?_of_unsigned {d d' : Decimal} (hd : d.Digital) (hw : d.whole = d'.whole)
    (hf : d.fraction = d'.fraction) (he : d.exponent = d'.exponent)
    (h : d.binary64?.isSome = true) : d'.binary64?.isSome = true := by
  have hdigits : d.digits = d'.digits := by rw [digits, hw, hf, digits]
  have hscale : d.scale = d'.scale := by rw [scale, he, hf, scale]
  refine isSome_binary64?_congr hd (by rwa [Digital, ← hdigits]) ?_ ?_ h
  · rw [significant, hdigits, significant]
  · rw [magnitude, hscale, hdigits, magnitude]

end PathExpr.Decimal
