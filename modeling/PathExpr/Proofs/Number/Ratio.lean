import Mathlib.Algebra.Order.Field.Power
import Mathlib.Data.Rat.Cast.Order
import Mathlib.Tactic.Linarith
import Mathlib.Tactic.Positivity
import PathExpr.Number.Binary64

/-!
# PathExpr/Proofs/Number/Ratio — rounding depends on the ratio alone

Two fractions of one ratio have the same nearest binary64 number (`ofRatio?_congr`).  Numerator and
denominator enter the search for it in two places: in `log2Ratio`, which is the only exponent
between two powers of two, and in `divNearestEven`, where a common factor cancels.
-/

namespace PathExpr.Binary64

variable {num den : Nat}

/-! ## The exponent -/

theorem twoPowLe_iff (k : Int) : twoPowLe num den k = true ↔ (2 : ℚ) ^ k * den ≤ num := by
  unfold twoPowLe
  split
  next hk =>
    obtain ⟨n, rfl⟩ : ∃ n : Nat, k = -n := ⟨k.natAbs, by omega⟩
    rw [decide_eq_true_iff, Nat.shiftLeft_eq, Int.natAbs_neg, Int.natAbs_natCast, zpow_neg,
      zpow_natCast, inv_mul_le_iff₀ (by positivity), mul_comm]
    norm_cast
  next hk =>
    obtain ⟨n, rfl⟩ := Int.eq_ofNat_of_zero_le (Int.not_lt.mp hk)
    rw [decide_eq_true_iff, Nat.shiftLeft_eq, Int.natAbs_natCast, zpow_natCast, mul_comm]
    norm_cast

/-- A power of two below a ratio has all smaller ones below it as well. -/
theorem twoPowLe_mono {k l : Int} (h : k ≤ l) (hl : twoPowLe num den l = true) :
    twoPowLe num den k = true := by
  rw [twoPowLe_iff] at hl ⊢
  have hpow : (2 : ℚ) ^ k ≤ 2 ^ l := zpow_le_zpow_right₀ (by norm_num) h
  calc (2 : ℚ) ^ k * den ≤ 2 ^ l * den := by gcongr
    _ ≤ num := hl

/-- The exponent of the numerator less that of the denominator is too great by one at most. -/
theorem twoPowLe_sub_one (hn : num ≠ 0) :
    twoPowLe num den ((num.log2 : Int) - (den.log2 : Int) - 1) = true := by
  rw [twoPowLe_iff]
  have hlow : (2 : ℚ) ^ (num.log2 : Int) ≤ num := by
    rw [zpow_natCast]
    exact_mod_cast Nat.log2_self_le hn
  have hhigh : (den : ℚ) ≤ 2 ^ ((den.log2 : Int) + 1) := by
    rw [← Nat.cast_succ, zpow_natCast]
    exact_mod_cast Nat.lt_log2_self.le
  calc (2 : ℚ) ^ ((num.log2 : Int) - den.log2 - 1) * den
      ≤ 2 ^ ((num.log2 : Int) - den.log2 - 1) * 2 ^ ((den.log2 : Int) + 1) := by gcongr
    _ = 2 ^ (num.log2 : Int) := by
      rw [← zpow_add₀ (by norm_num)]
      congr 1
      omega
    _ ≤ num := hlow

/-- …and one more is too great. -/
theorem not_twoPowLe_add_one (hd : den ≠ 0) :
    twoPowLe num den ((num.log2 : Int) - (den.log2 : Int) + 1) = false := by
  rw [Bool.eq_false_iff, ne_eq, twoPowLe_iff, not_le]
  have hlow : (2 : ℚ) ^ (den.log2 : Int) ≤ den := by
    rw [zpow_natCast]
    exact_mod_cast Nat.log2_self_le hd
  have hhigh : (num : ℚ) < 2 ^ ((num.log2 : Int) + 1) := by
    rw [← Nat.cast_succ, zpow_natCast]
    exact_mod_cast Nat.lt_log2_self
  calc (num : ℚ) < 2 ^ ((num.log2 : Int) + 1) := hhigh
    _ = 2 ^ ((num.log2 : Int) - den.log2 + 1) * 2 ^ (den.log2 : Int) := by
      rw [← zpow_add₀ (by norm_num)]
      congr 1
      omega
    _ ≤ 2 ^ ((num.log2 : Int) - den.log2 + 1) * den := by gcongr

/-- **The exponent of a ratio is the greatest whose power of two is not above it.** -/
theorem log2Ratio_eq_iff (hn : num ≠ 0) (hd : den ≠ 0) (k : Int) :
    log2Ratio num den = k ↔ twoPowLe num den k = true ∧ twoPowLe num den (k + 1) = false := by
  have hspec : twoPowLe num den (log2Ratio num den) = true ∧
      twoPowLe num den (log2Ratio num den + 1) = false := by
    rw [log2Ratio.eq_def]
    extract_lets l
    split
    next h => exact ⟨h, not_twoPowLe_add_one hd⟩
    next h => exact ⟨twoPowLe_sub_one hn, by rw [Int.sub_add_cancel]; simpa using h⟩
  constructor
  · rintro rfl
    exact hspec
  · rintro ⟨hk, hk'⟩
    by_contra hne
    rcases Int.lt_or_gt_of_ne hne with hlt | hgt
    · exact absurd (twoPowLe_mono hlt hk) (by simp [hspec.2])
    · exact absurd (twoPowLe_mono hgt hspec.1) (by simp [hk'])

/-! ## Common factors -/

variable {c : Nat}

theorem divNearestEven_mul_right (hc : 0 < c) :
    divNearestEven (num * c) (den * c) = divNearestEven num den := by
  have hlt : ∀ a b : Nat, a * c < b * c ↔ a < b := fun a b => Nat.mul_lt_mul_right hc
  simp only [divNearestEven, Nat.mul_div_mul_right _ _ hc, Nat.mul_mod_mul_right, ← Nat.mul_assoc,
    hlt]

theorem inUnits_mul_right (hc : 0 < c) (exponent : Int) :
    inUnits (num * c) (den * c) exponent = inUnits num den exponent := by
  unfold inUnits
  split
  · rw [Nat.shiftLeft_eq, Nat.mul_right_comm, divNearestEven_mul_right hc, Nat.shiftLeft_eq]
  · rw [Nat.shiftLeft_eq, Nat.mul_right_comm, divNearestEven_mul_right hc, Nat.shiftLeft_eq]

theorem twoPowLe_mul_right (hc : 0 < c) (k : Int) :
    twoPowLe (num * c) (den * c) k = twoPowLe num den k := by
  have hle : ∀ a b : Nat, a * c ≤ b * c ↔ a ≤ b := fun a b => Nat.mul_le_mul_right_iff hc
  unfold twoPowLe
  split <;> simp only [Nat.shiftLeft_eq, Nat.mul_right_comm _ c, hle]

theorem log2Ratio_mul_right (hn : num ≠ 0) (hd : den ≠ 0) (hc : 0 < c) :
    log2Ratio (num * c) (den * c) = log2Ratio num den := by
  rw [log2Ratio_eq_iff (Nat.mul_ne_zero hn hc.ne') (Nat.mul_ne_zero hd hc.ne'),
    twoPowLe_mul_right hc, twoPowLe_mul_right hc]
  exact (log2Ratio_eq_iff hn hd _).mp rfl

theorem nearest_mul_right (hd : den ≠ 0) (hc : 0 < c) :
    nearest (num * c) (den * c) = nearest num den := by
  unfold nearest
  by_cases hn : num = 0
  · rw [if_pos hn, if_pos (by rw [hn, Nat.zero_mul])]
  · rw [if_neg hn, if_neg (Nat.mul_ne_zero hn hc.ne'), log2Ratio_mul_right hn hd hc]
    simp only [inUnits_mul_right hc]

/-- **Fractions of one ratio have one nearest number.** -/
theorem ofRatio?_congr {num' den' : Nat} (negative : Bool) (hd : 0 < den) (hd' : 0 < den')
    (h : num * den' = num' * den) : ofRatio? negative num den = ofRatio? negative num' den' := by
  have hnear : nearest num den = nearest num' den' :=
    calc nearest num den = nearest (num * den') (den * den') :=
          (nearest_mul_right hd.ne' hd').symm
      _ = nearest (num' * den) (den' * den) := by rw [h, Nat.mul_comm den]
      _ = nearest num' den' := nearest_mul_right hd'.ne' hd
  rw [ofRatio?, hnear, ofRatio?]

/-- The sign of a number plays no part in its size. -/
theorem ofRatio?_sign (negative : Bool) :
    ofRatio? negative num den = (ofRatio? false num den).map ({ · with negative }) := by
  unfold ofRatio?
  split
  split <;> rfl

end PathExpr.Binary64
