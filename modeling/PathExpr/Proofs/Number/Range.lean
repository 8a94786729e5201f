import PathExpr.Proofs.Number.Exact

/-!
# PathExpr/Proofs/Number/Range — which numbers have a nearest binary64 number

Rounding to the nearest number, and half-way to the even one, keeps a positive number finite exactly
below `2 ^ 1024 - 2 ^ 970`, half a unit under the first power of two that is out of range, and
makes zero of it exactly up to `2 ^ -1075`, half the least number.  A literal therefore has a value
if and only if its number is `Sized`, and all that counts is that number (`isSome_evaluate?_iff`).
-/

namespace PathExpr

/-- The number is zero, or it is rounded to a finite number other than zero. -/
def Sized (v : ℚ) : Prop := v = 0 ∨ (2 : ℚ) ^ (-1075 : Int) < |v| ∧ |v| < 2 ^ 1024 - 2 ^ 970

namespace Binary64

variable {num den : Nat} {e : Int}

/-! ## Rounding to integers -/

/-- Half a unit and less is rounded to zero. -/
theorem divNearestEven_eq_zero (hd : 0 < den) : divNearestEven num den = 0 ↔ 2 * num ≤ den := by
  have hsplit := Nat.div_add_mod num den
  have hr := Nat.mod_lt num hd
  have hzero : divNearestEven num den = 0 ↔ num / den = 0 ∧ 2 * (num % den) ≤ den := by
    unfold divNearestEven
    dsimp only
    generalize num / den = q
    split_ifs
    · omega
    · simp only [false_iff]
      omega
    · omega
  rw [hzero]
  constructor
  · rintro ⟨hq, hhalf⟩
    rw [hq, Nat.mul_zero, Nat.zero_add] at hsplit
    rwa [hsplit] at hhalf
  · intro h
    have hlt : num < den := by omega
    rw [Nat.div_eq_of_lt hlt, Nat.mod_eq_of_lt hlt]
    exact ⟨rfl, h⟩

/-- Below an even bound a number is rounded to the bound from half a unit before it on. -/
theorem divNearestEven_eq_bound {m : Nat} (hm : 0 < m) (hlt : num < 2 * m * den) :
    divNearestEven num den = 2 * m ↔ (4 * m - 1) * den ≤ 2 * num := by
  have hd : 0 < den := Nat.pos_of_ne_zero (by rintro rfl; simp at hlt)
  have hsplit := Nat.div_add_mod num den
  have hr := Nat.mod_lt num hd
  have hq : num / den < 2 * m := (Nat.div_lt_iff_lt_mul hd).mpr hlt
  -- The number lies in the last unit before the bound, and not in the first half of that.
  have hlast : divNearestEven num den = 2 * m ↔
      num / den = 2 * m - 1 ∧ den ≤ 2 * (num % den) := by
    unfold divNearestEven
    dsimp only
    generalize num / den = q at hq
    split_ifs <;> omega
  obtain ⟨k, rfl⟩ : ∃ k, m = k + 1 := ⟨m - 1, by omega⟩
  have hbound : (4 * (k + 1) - 1) * den = 2 * (den * (2 * k + 1)) + den := by
    rw [show 4 * (k + 1) - 1 = 2 * (2 * k + 1) + 1 by omega]
    ring
  rw [hlast, hbound]
  constructor
  · rintro ⟨hunit, hhalf⟩
    rw [hunit, show 2 * (k + 1) - 1 = 2 * k + 1 by omega] at hsplit
    omega
  · intro h
    have hunit : 2 * k + 1 ≤ num / den := by
      by_contra hlt
      have hle : den * (num / den + 1) ≤ den * (2 * k + 1) := Nat.mul_le_mul_left den (by omega)
      rw [Nat.mul_succ] at hle
      omega
    have heq : num / den = 2 * k + 1 := by omega
    rw [heq] at hsplit
    omega

/-! ## Rounding to units -/

/-- Units are counted by a fraction. -/
theorem exists_units (num : Nat) (hd : 0 < den) (e : Int) : ∃ a b : Nat, 0 < b ∧
    inUnits num den e = divNearestEven a b ∧ (num / den : ℚ) = a / b * 2 ^ e := by
  have hden : (den : ℚ) ≠ 0 := by exact_mod_cast hd.ne'
  unfold inUnits
  split
  next he =>
    obtain ⟨n, rfl⟩ : ∃ n : Nat, e = -n := ⟨e.natAbs, by omega⟩
    refine ⟨_, _, hd, rfl, ?_⟩
    rw [Nat.shiftLeft_eq, Int.natAbs_neg, Int.natAbs_natCast, zpow_neg, zpow_natCast]
    push_cast
    field_simp
  next he =>
    obtain ⟨n, rfl⟩ := Int.eq_ofNat_of_zero_le (Int.not_lt.mp he)
    refine ⟨_, _, by rw [Nat.shiftLeft_eq]; positivity, rfl, ?_⟩
    rw [Nat.shiftLeft_eq, Int.natAbs_natCast, zpow_natCast]
    push_cast
    field_simp

/-- No more than half a unit counts as none. -/
theorem inUnits_eq_zero (hd : 0 < den) :
    inUnits num den e = 0 ↔ (num / den : ℚ) ≤ 2 ^ (e - 1) := by
  obtain ⟨a, b, hb, hunits, hratio⟩ := exists_units num hd e
  have hpow : (2 : ℚ) ^ (e - 1) = 1 / 2 * 2 ^ e := by
    rw [zpow_sub_one₀ (by norm_num)]
    ring
  rw [hunits, divNearestEven_eq_zero hb, hratio, hpow, mul_le_mul_iff_left₀ (by positivity),
    div_le_div_iff₀ (by exact_mod_cast hb) (by norm_num)]
  norm_cast
  omega

/-- Less than two leading bits count as such from half a unit before them on. -/
theorem inUnits_eq_bound (hd : 0 < den) (hlt : (num / den : ℚ) < 2 ^ (e + 53)) :
    inUnits num den e = 2 * leadingBit ↔ (2 : ℚ) ^ (e + 53) - 2 ^ (e - 1) ≤ num / den := by
  obtain ⟨a, b, hb, hunits, hratio⟩ := exists_units num hd e
  have hpow : (2 : ℚ) ^ (e - 1) = 1 / 2 * 2 ^ e := by
    rw [zpow_sub_one₀ (by norm_num)]
    ring
  have hbound : (2 : ℚ) ^ (e + 53) = (2 * leadingBit : Nat) * 2 ^ e := by
    rw [zpow_add₀ (by norm_num), mul_comm]
    norm_num [leadingBit]
  have hb' : (0 : ℚ) < b := by exact_mod_cast hb
  rw [hratio, hbound, mul_lt_mul_iff_left₀ (by positivity), div_lt_iff₀ hb'] at hlt
  have hless : a < 2 * leadingBit * b := by exact_mod_cast hlt
  rw [hunits, divNearestEven_eq_bound (by decide) hless, hratio, hbound, hpow, ← sub_mul,
    mul_le_mul_iff_left₀ (by positivity), le_div_iff₀ hb']
  have hcast : ((4 * leadingBit - 1) * b ≤ 2 * a) ↔
      ((4 * leadingBit - 1 : Nat) : ℚ) * b ≤ 2 * a := by norm_cast
  have hhalf : ((4 * leadingBit - 1 : Nat) : ℚ) = 2 * ((2 * leadingBit : Nat) - 1 / 2) := by
    norm_num [leadingBit]
  rw [hcast, hhalf, mul_assoc, mul_le_mul_iff_right₀ (by norm_num)]

/-! ## Rounding to numbers -/

/-- The exponent of a ratio says between which powers of two it is. -/
theorem log2Ratio_spec (hn : num ≠ 0) (hd : den ≠ 0) :
    (2 : ℚ) ^ log2Ratio num den ≤ num / den ∧
      (num / den : ℚ) < 2 ^ (log2Ratio num den + 1) := by
  have hden : (0 : ℚ) < den := by exact_mod_cast Nat.pos_of_ne_zero hd
  obtain ⟨hle, hlt⟩ := (log2Ratio_eq_iff hn hd _).mp rfl
  rw [twoPowLe_iff] at hle
  rw [Bool.eq_false_iff, ne_eq, twoPowLe_iff, not_le] at hlt
  exact ⟨(le_div_iff₀ hden).mpr hle, (div_lt_iff₀ hden).mpr hlt⟩

/-- What is not zero when it is rounded. -/
theorem nearest_fst_ne_zero (hn : num ≠ 0) (hd : den ≠ 0) :
    (nearest num den).1 ≠ 0 ↔ (2 : ℚ) ^ (-1075 : Int) < num / den := by
  obtain ⟨hlow, -⟩ := log2Ratio_spec hn hd
  have hzero : (nearest num den).1 = 0 ↔
      inUnits num den (max (log2Ratio num den - 52) minExponent) = 0 := by
    rw [nearest, if_neg hn]
    dsimp only
    split
    next h => simp [h, leadingBit]
    next => rfl
  rw [ne_eq, hzero, inUnits_eq_zero (Nat.pos_of_ne_zero hd), not_le]
  rcases le_total (log2Ratio num den - 52) minExponent with hsmall | hlarge
  · rw [max_eq_right hsmall]
    norm_num [minExponent]
  · have hmono : ∀ {k l : Int}, k < l → (2 : ℚ) ^ k < 2 ^ l :=
      fun h => zpow_lt_zpow_right₀ (by norm_num) h
    rw [max_eq_left hlarge]
    unfold minExponent at hlarge
    exact ⟨fun _ => (hmono (by omega)).trans_le hlow, fun _ => (hmono (by omega)).trans_le hlow⟩

/-- When the exponent stays in range. -/
theorem nearest_snd_le_iff (hn : num ≠ 0) :
    (nearest num den).2 ≤ maxExponent ↔ log2Ratio num den < 1023 ∨
      log2Ratio num den = 1023 ∧ inUnits num den maxExponent ≠ 2 * leadingBit := by
  rw [nearest, if_neg hn]
  unfold minExponent maxExponent
  dsimp only
  split
  next h =>
    constructor
    · intro hle
      exact .inl (by omega)
    · rintro (hlt | ⟨heq, hne⟩)
      · omega
      · rw [heq] at h
        exact absurd h hne
  next h =>
    constructor
    · intro hle
      refine (Int.le_iff_lt_or_eq.mp (by omega)).imp_right fun heq => ⟨heq, ?_⟩
      rwa [heq] at h
    · rintro (hlt | ⟨heq, -⟩) <;> omega

/-- What is not out of range when it is rounded. -/
theorem nearest_snd_le (hn : num ≠ 0) (hd : den ≠ 0) :
    (nearest num den).2 ≤ maxExponent ↔ (num / den : ℚ) < 2 ^ 1024 - 2 ^ 970 := by
  obtain ⟨hlow, hhigh⟩ := log2Ratio_spec hn hd
  have hmono : ∀ {k l : Int}, k ≤ l → (2 : ℚ) ^ k ≤ 2 ^ l :=
    fun h => zpow_le_zpow_right₀ (by norm_num) h
  rw [nearest_snd_le_iff hn]
  rcases lt_trichotomy (log2Ratio num den) 1023 with hlt | heq | hgt
  · have hbelow : (2 : ℚ) ^ (log2Ratio num den + 1) ≤ 2 ^ 1023 := hmono (l := (1023 : Nat)) hlt
    have hunit : (2 : ℚ) ^ 970 ≤ 2 ^ 1023 := pow_le_pow_right₀ (by norm_num) (by norm_num)
    have hbound : (2 : ℚ) ^ 1024 - 2 ^ 1023 = 2 ^ 1023 := by
      rw [pow_succ', two_mul, add_sub_cancel_right]
    exact iff_of_true (.inl hlt) <|
      calc (num / den : ℚ) < 2 ^ 1023 := hhigh.trans_le hbelow
        _ = 2 ^ 1024 - 2 ^ 1023 := hbound.symm
        _ ≤ 2 ^ 1024 - 2 ^ 970 := sub_le_sub_left hunit _
  · rw [heq] at hhigh
    have hhalf := inUnits_eq_bound (e := maxExponent) (Nat.pos_of_ne_zero hd) hhigh
    rw [show maxExponent + 53 = (1024 : Nat) from rfl, show maxExponent - 1 = (970 : Nat) from rfl,
      zpow_natCast, zpow_natCast] at hhalf
    rw [← not_le (b := (num / den : ℚ)), ← hhalf, heq]
    simp
  · have habove : (2 : ℚ) ^ 1024 ≤ 2 ^ log2Ratio num den := hmono (k := (1024 : Nat)) hgt
    have hunit : (0 : ℚ) ≤ 2 ^ 970 := by positivity
    refine iff_of_false (by omega) (not_lt.mpr ?_)
    calc (2 : ℚ) ^ 1024 - 2 ^ 970 ≤ 2 ^ 1024 := sub_le_self _ hunit
      _ ≤ num / den := habove.trans hlow

/-- **What is rounded to a finite number other than zero.** -/
theorem exists_ofRatio?_iff (hn : num ≠ 0) (hd : den ≠ 0) :
    (∃ x, ofRatio? false num den = some x ∧ x.isZero = false) ↔
      (2 : ℚ) ^ (-1075 : Int) < num / den ∧ (num / den : ℚ) < 2 ^ 1024 - 2 ^ 970 := by
  rw [← nearest_fst_ne_zero hn hd, ← nearest_snd_le hn hd, ofRatio?]
  dsimp only
  split
  next h => simp [isZero, h]
  next h => simp [h]

end Binary64

namespace Decimal

variable {d : Decimal}

/-! ## Sizes of literals -/

/-- The value without its sign. -/
def size (d : Decimal) : ℚ :=
  natOfDigits 10 d.significant * 10 ^ (d.magnitude - d.significant.length)

theorem abs_exact (d : Decimal) : |d.exact| = d.size := by
  have hsign : |signFactor d.isNegative| = 1 := by
    unfold signFactor
    split <;> simp
  have hsize : 0 ≤ d.size := by
    unfold size
    positivity
  rw [exact_eq, abs_mul, hsign, one_mul]
  exact abs_of_nonneg hsize

/-- The magnitude says between which powers of ten the size is. -/
theorem size_spec (h : Significant d.significant) :
    (10 : ℚ) ^ (d.magnitude - 1) ≤ d.size ∧ d.size < 10 ^ d.magnitude := by
  obtain ⟨c, rest, hs⟩ := List.exists_cons_of_ne_nil h.ne_nil
  have hc := getD_digitValue?_pos (h.digital c (by simp [hs])) fun e => h.head (by simp [hs, e])
  have hlow : 10 ^ rest.length ≤ natOfDigits 10 (c :: rest) := by
    rw [natOfDigits_cons]
    exact Nat.le_add_right_of_le (Nat.le_mul_of_pos_left _ hc)
  have hhigh : natOfDigits 10 (c :: rest) < 10 ^ (rest.length + 1) :=
    natOfDigits_lt (by decide) (c :: rest)
  rw [size, hs, List.length_cons]
  have hpos : (0 : ℚ) < 10 ^ (d.magnitude - (rest.length + 1 : Nat)) := zpow_pos (by norm_num) _
  constructor
  · calc (10 : ℚ) ^ (d.magnitude - 1)
        = 10 ^ rest.length * 10 ^ (d.magnitude - (rest.length + 1 : Nat)) := by
          rw [← zpow_natCast, ← zpow_add₀ (by norm_num)]
          congr 1
          omega
      _ ≤ natOfDigits 10 (c :: rest) * 10 ^ (d.magnitude - (rest.length + 1 : Nat)) := by
          gcongr
          exact_mod_cast hlow
  · calc natOfDigits 10 (c :: rest) * (10 : ℚ) ^ (d.magnitude - (rest.length + 1 : Nat))
        < 10 ^ (rest.length + 1) * 10 ^ (d.magnitude - (rest.length + 1 : Nat)) := by
          gcongr
          exact_mod_cast hhigh
      _ = 10 ^ d.magnitude := by
          rw [← zpow_natCast, ← zpow_add₀ (by norm_num)]
          congr 1
          omega

/-- Magnitudes beyond the limit are out of range. -/
theorem magnitude_le_of_sized (h : Significant d.significant)
    (hv : (2 : ℚ) ^ (-1075 : Int) < d.size ∧ d.size < 2 ^ 1024 - 2 ^ 970) :
    -magnitudeLimit ≤ d.magnitude ∧ d.magnitude ≤ magnitudeLimit := by
  obtain ⟨hlow, hhigh⟩ := size_spec h
  have hmono : ∀ {k l : Int}, (10 : ℚ) ^ k < 10 ^ l → k < l :=
    fun h => (zpow_lt_zpow_iff_right₀ (by norm_num)).mp h
  have hleast : (10 : ℚ) ^ (-400 : Int) ≤ 2 ^ (-1075 : Int) := by
    have hpow : 2 ^ 1075 ≤ 10 ^ 400 := by decide +kernel
    rw [zpow_neg, zpow_neg, inv_le_inv₀ (by positivity) (by positivity)]
    exact_mod_cast hpow
  have hgreatest : (2 : ℚ) ^ 1024 - 2 ^ 970 ≤ 10 ^ (400 : Int) := by
    have hpow : 2 ^ 1024 ≤ 10 ^ 400 := by decide +kernel
    have hunit : (0 : ℚ) ≤ 2 ^ 970 := by positivity
    exact (sub_le_self _ hunit).trans (by exact_mod_cast hpow)
  have hl := hmono (hleast.trans_lt (hv.1.trans hhigh))
  have hg := hmono (hlow.trans_lt (hv.2.trans_le hgreatest))
  unfold magnitudeLimit
  omega

/-- **Whether a literal has a value depends on its number alone.** -/
theorem isSome_binary64?_iff_sized (hd : d.Digital) :
    d.binary64?.isSome = true ↔ Sized d.exact := by
  rw [isSome_binary64?_iff hd, Sized, exact_eq_zero_iff hd, abs_exact]
  refine or_congr_right' fun hne => ?_
  have hs := significant_of_ne_nil hd hne
  have hden : (d.ratio.2 : ℚ) ≠ 0 := by exact_mod_cast d.ratio_pos.ne'
  have hratio : (d.ratio.1 / d.ratio.2 : ℚ) = d.size := by
    rw [ratio_eq, mul_div_cancel_right₀ _ hden, size]
  have hnum : d.ratio.1 ≠ 0 := by
    intro h0
    rw [h0, Nat.cast_zero, zero_div] at hratio
    exact absurd hratio (hs.value_pos _).ne
  rw [Binary64.exists_ofRatio?_iff hnum d.ratio_pos.ne', hratio, ← and_assoc]
  exact and_iff_right_of_imp (magnitude_le_of_sized hs)

end Decimal

/-- **A literal has a value exactly if its number is rounded to a finite one, and not to zero unless
it is zero.** -/
theorem isSome_evaluate?_iff {text : List Char} {v : ℚ} (h : Writes text v) :
    (Decimal.evaluate? text).isSome = true ↔ Sized v := by
  obtain ⟨d, hr, hi, rfl⟩ := h.exists_read
  rw [← Decimal.isSome_binary64?_iff_sized (Decimal.digital_of_read? hr), Decimal.evaluate?, hr]
  simp only [Option.bind_some, Decimal.formatted?_of_innerSign hi, Option.map_some]
  cases d.binary64? <;> exact Iff.rfl

end PathExpr
