import PathExpr.Proofs.Number.Range

/-!
# PathExpr/Proofs/Number/Rounding — the nearest binary64 number

`Rounded v x` says that `x` is the rational number `v` rounded: no number with as many bits is
closer, `x` has an even significand if another one is as close, and its exponent is in range.  The
numbers that `x` is compared with (`Formed`) have no greatest exponent, so that what is closer to a
number out of range is not in range.

`nearest` finds this number (`rounds_nearest`), and there is no other (`Rounds.unique`): between two
numbers with even significands lies a third.  So a number can be rounded, and not to zero unless it
is zero, exactly if it is `Sized` (`sized_iff_rounded`).
-/

namespace PathExpr

namespace Binary64

/-! ## Numbers of the format -/

/-- The number that it stands for. -/
def toRat (x : Binary64) : ℚ := signFactor x.negative * (x.significand * 2 ^ x.exponent)

/-- The significand has as many bits as it may, and fewer only with the least exponent. -/
structure Formed (x : Binary64) : Prop where
  lt : x.significand < 2 * leadingBit
  least : minExponent ≤ x.exponent
  leading : minExponent < x.exponent → leadingBit ≤ x.significand

/-- No number of as many bits is closer to `v`, and only if the significand is even another one is
as close. -/
structure Rounds (v : ℚ) (x : Binary64) : Prop where
  formed : x.Formed
  closest : ∀ y : Binary64, y.Formed → |v - x.toRat| ≤ |v - y.toRat|
  even : ∀ y : Binary64, y.Formed → y.toRat ≠ x.toRat → |v - y.toRat| = |v - x.toRat| →
    x.significand % 2 = 0

/-- The number rounded to a finite number. -/
structure Rounded (v : ℚ) (x : Binary64) : Prop extends Rounds v x where
  finite : x.exponent ≤ maxExponent

variable {x y : Binary64} {v w : ℚ} {e : Int}

theorem abs_toRat (x : Binary64) : |x.toRat| = x.significand * 2 ^ x.exponent := by
  have hsign : |signFactor x.negative| = 1 := by cases x.negative <;> norm_num [signFactor]
  rw [toRat, abs_mul, hsign, one_mul, abs_of_nonneg (by positivity)]

theorem toRat_eq_zero : x.toRat = 0 ↔ x.significand = 0 := by
  rw [← abs_eq_zero, abs_toRat, mul_eq_zero, Nat.cast_eq_zero]
  exact or_iff_left (zpow_ne_zero _ (by norm_num))

theorem toRat_neg (x : Binary64) : x.neg.toRat = -x.toRat := by
  obtain ⟨negative, significand, exponent⟩ := x
  cases negative <;> simp [toRat, neg, signFactor]

theorem Formed.neg (h : x.Formed) : x.neg.Formed := ⟨h.lt, h.least, h.leading⟩

theorem formed_zero (negative : Bool) : Formed ⟨negative, 0, minExponent⟩ :=
  ⟨Nat.mul_pos Nat.two_pos (by decide), le_refl _, fun h => absurd h (lt_irrefl _)⟩

/-- What is said of a number is said of its opposite, too. -/
theorem Rounds.neg (h : Rounds v x) : Rounds (-v) x.neg := by
  have hdist : ∀ y : Binary64, |-v - y.toRat| = |v - y.neg.toRat| := by
    intro y
    rw [toRat_neg, ← abs_neg]
    congr 1
    ring
  have hx : |-v - x.neg.toRat| = |v - x.toRat| := by
    rw [hdist, toRat_neg, toRat_neg, neg_neg]
  refine ⟨h.formed.neg, fun y hy => ?_, fun y hy hne heq => h.even y.neg hy.neg ?_ ?_⟩
  · rw [hx, hdist]
    exact h.closest _ hy.neg
  · rwa [toRat_neg, ne_eq, neg_eq_iff_eq_neg, ← toRat_neg]
  · rwa [hx, hdist] at heq

/-! ## Numbers and units -/

/-- A number counts units up to its own, and an even significand counts an even number of them. -/
theorem exists_multiple (h : e ≤ x.exponent) :
    ∃ z : ℤ, x.toRat = z * 2 ^ e ∧ (x.significand % 2 = 0 → z % 2 = 0) := by
  obtain ⟨k, hk⟩ : ∃ k : Nat, x.exponent = e + k := ⟨(x.exponent - e).toNat, by omega⟩
  have hsize : (x.significand * 2 ^ x.exponent : ℚ) = (x.significand * 2 ^ k : ℤ) * 2 ^ e := by
    rw [hk, zpow_add₀ (by norm_num), zpow_natCast]
    push_cast
    ring
  have heven : x.significand % 2 = 0 → (x.significand * 2 ^ k : ℤ) % 2 = 0 := fun h => by
    rw [Int.mul_emod, show (x.significand : ℤ) % 2 = 0 by omega, zero_mul, Int.zero_emod]
  rw [toRat, hsize]
  cases x.negative with
  | false => exact ⟨_, by simp [signFactor], heven⟩
  | true =>
    refine ⟨-(x.significand * 2 ^ k : ℤ), by simp [signFactor], fun h => ?_⟩
    have := heven h
    omega

/-- Beside the leading bit of a greater unit it is small… -/
theorem Formed.abs_lt (h : x.Formed) (hlt : x.exponent < e) : |x.toRat| < leadingBit * 2 ^ e := by
  have hsignificand : (x.significand : ℚ) < 2 * leadingBit := by exact_mod_cast h.lt
  rw [abs_toRat]
  calc (x.significand : ℚ) * 2 ^ x.exponent
      < 2 * leadingBit * 2 ^ x.exponent := by gcongr
    _ ≤ 2 * leadingBit * 2 ^ (e - 1) := by
      gcongr
      · norm_num
      · omega
    _ = leadingBit * 2 ^ e := by
      rw [zpow_sub_one₀ (by norm_num)]
      ring

/-- …and with more than the least exponent it has that of its own unit. -/
theorem Formed.le_abs (h : x.Formed) (hlt : minExponent < x.exponent) :
    leadingBit * 2 ^ x.exponent ≤ |x.toRat| := by
  have hsignificand : (leadingBit : ℚ) ≤ x.significand := by exact_mod_cast h.leading hlt
  rw [abs_toRat]
  gcongr

/-- The greater number has the greater exponent. -/
theorem Formed.exponent_le (hx : x.Formed) (hy : y.Formed) (h : |x.toRat| ≤ |y.toRat|) :
    x.exponent ≤ y.exponent := by
  by_contra hlt
  rw [not_le] at hlt
  exact absurd (hy.abs_lt hlt) (not_lt.mpr ((hx.le_abs (hy.least.trans_lt hlt)).trans h))

/-! ## Between two numbers -/

/-- **Between two numbers with even significands lies a third**, if they are not negative… -/
theorem exists_between_of_nonneg (hx : x.Formed) (hy : y.Formed) (hxe : x.significand % 2 = 0)
    (hye : y.significand % 2 = 0) (h : x.toRat < y.toRat) (h0 : 0 ≤ x.toRat) :
    ∃ z : Binary64, z.Formed ∧ x.toRat < z.toRat ∧ z.toRat < y.toRat := by
  have hexp : x.exponent ≤ y.exponent := by
    refine hx.exponent_le hy ?_
    rw [abs_of_nonneg h0, abs_of_nonneg (h0.trans h.le)]
    exact h.le
  -- The next number counts one unit more, which is less than `y` counts, as that is even.
  obtain ⟨n, hn, heven⟩ := exists_multiple hexp
  let z : Binary64 := ⟨false, x.significand + 1, x.exponent⟩
  have hlt : ∀ {m n : ℤ}, (m * 2 ^ x.exponent : ℚ) < n * 2 ^ x.exponent ↔ m < n := by
    intro m n
    rw [mul_lt_mul_iff_left₀ (by positivity), Int.cast_lt]
  have hxn : x.toRat = (x.significand : ℤ) * 2 ^ x.exponent := by
    rw [← abs_of_nonneg h0, abs_toRat, Int.cast_natCast]
  have hzn : z.toRat = (x.significand + 1 : ℤ) * 2 ^ x.exponent := by simp [toRat, z, signFactor]
  have hleading : leadingBit = 0x10000000000000 := rfl
  have hbound := hx.lt
  have hparity := heven hye
  rw [hxn, hn, hlt] at h
  refine ⟨z, ⟨?_, hx.least, fun hl => (hx.leading hl).trans (Nat.le_succ _)⟩, ?_, ?_⟩
  · change x.significand + 1 < 2 * leadingBit
    omega
  · rw [hxn, hzn, hlt]
    omega
  · rw [hzn, hn, hlt]
    omega

/-- …and if they are. -/
theorem exists_between (hx : x.Formed) (hy : y.Formed) (hxe : x.significand % 2 = 0)
    (hye : y.significand % 2 = 0) (h : x.toRat < y.toRat) :
    ∃ z : Binary64, z.Formed ∧ x.toRat < z.toRat ∧ z.toRat < y.toRat := by
  rcases le_or_gt 0 x.toRat with h0 | hneg
  · exact exists_between_of_nonneg hx hy hxe hye h h0
  rcases lt_or_ge 0 y.toRat with hpos | h0
  · exact ⟨_, formed_zero false, by simpa [toRat] using ⟨hneg, hpos⟩⟩
  · have hneg' : y.neg.toRat < x.neg.toRat := by
      rw [toRat_neg, toRat_neg]
      exact neg_lt_neg h
    obtain ⟨z, hz, hlow, hhigh⟩ := exists_between_of_nonneg hy.neg hx.neg hye hxe hneg' (by
      rw [toRat_neg]
      exact neg_nonneg.mpr h0)
    rw [toRat_neg] at hlow hhigh
    exact ⟨z.neg, hz.neg, by rw [toRat_neg]; exact lt_neg_of_lt_neg hhigh, by
      rw [toRat_neg]
      exact neg_lt_of_neg_lt hlow⟩

/-- Half-way between two numbers everything between them is closer than they are. -/
theorem abs_sub_lt_of_between {a b c : ℚ} (h : |v - a| = |v - b|) (hac : a < c) (hcb : c < b) :
    |v - c| < |v - a| := by
  rcases abs_eq_abs.mp h with heq | heq
  · linarith
  · have hva : 0 < v - a := by linarith
    rw [abs_of_pos hva, abs_lt]
    constructor <;> linarith

/-- **A number is rounded to one number only.** -/
theorem Rounds.unique (hx : Rounds v x) (hy : Rounds v y) : x.toRat = y.toRat := by
  by_contra hne
  have heq := le_antisymm (hx.closest y hy.formed) (hy.closest x hx.formed)
  have hxe := hx.even y hy.formed (Ne.symm hne) heq.symm
  have hye := hy.even x hx.formed hne heq
  rcases lt_or_gt_of_ne hne with hlt | hlt
  · obtain ⟨z, hz, hlow, hhigh⟩ := exists_between hx.formed hy.formed hxe hye hlt
    exact absurd (hx.closest z hz) (not_le.mpr (abs_sub_lt_of_between heq hlow hhigh))
  · obtain ⟨z, hz, hlow, hhigh⟩ := exists_between hy.formed hx.formed hye hxe hlt
    exact absurd (hy.closest z hz) (not_le.mpr (abs_sub_lt_of_between heq.symm hlow hhigh))

/-! ## Rounding to whole units -/

/-- A fraction is rounded by half a unit at most, and by just a half to an even number. -/
theorem divNearestEven_error (num : Nat) {den : Nat} (hd : 0 < den) :
    2 * |(num : ℤ) - divNearestEven num den * den| ≤ den ∧
      (2 * |(num : ℤ) - divNearestEven num den * den| = den →
        divNearestEven num den % 2 = 0) := by
  have hsplit := Nat.div_add_mod num den
  have hr := Nat.mod_lt num hd
  unfold divNearestEven
  dsimp only
  generalize num / den = q at hsplit
  generalize num % den = r at hsplit hr
  have herror : ∀ k : Nat, ((num : ℤ) - ((q + k : Nat) : ℤ) * den) = r - k * den := by
    intro k
    rw [← hsplit]
    push_cast
    ring
  split_ifs with hlow hhigh
  · have h0 := herror 0
    simp only [Nat.add_zero, Nat.cast_zero, zero_mul, sub_zero] at h0
    rw [h0, abs_of_nonneg (by omega)]
    omega
  · rw [herror 1, Nat.cast_one, one_mul, abs_of_nonpos (by omega)]
    omega
  · rw [herror]
    rcases Nat.mod_two_eq_zero_or_one q with h | h
    · rw [h, Nat.cast_zero, zero_mul, sub_zero, abs_of_nonneg (by omega)]
      omega
    · rw [h, Nat.cast_one, one_mul, abs_of_nonpos (by omega)]
      omega

/-- The same for the fraction as a rational number. -/
theorem divNearestEven_spec (num : Nat) {den : Nat} (hd : 0 < den) :
    2 * |(num / den : ℚ) - divNearestEven num den| ≤ 1 ∧
      (2 * |(num / den : ℚ) - divNearestEven num den| = 1 → divNearestEven num den % 2 = 0) := by
  have hd' : (0 : ℚ) < den := by exact_mod_cast hd
  have hdist : 2 * |(num / den : ℚ) - divNearestEven num den| =
      (2 * |(num : ℤ) - divNearestEven num den * den| : ℤ) / den := by
    rw [div_sub' hd'.ne', abs_div, abs_of_pos hd']
    push_cast
    rw [mul_div_assoc, mul_comm (_ : ℚ) (den : ℚ)]
  rw [hdist, div_le_one hd', div_eq_one_iff_eq hd'.ne']
  obtain ⟨hle, heven⟩ := divNearestEven_error num hd
  exact ⟨by exact_mod_cast hle, fun h => heven (by exact_mod_cast h)⟩

/-- No whole number is closer than one half a unit away, and one as close is just as far. -/
theorem abs_sub_le_of_half {q : ℤ} (h : 2 * |w - q| ≤ 1) (z : ℤ) :
    |w - q| ≤ |w - z| ∧ (z ≠ q → |w - z| = |w - q| → 2 * |w - q| = 1) := by
  by_cases hz : z = q
  · rw [hz]
    exact ⟨le_refl _, fun hne => absurd rfl hne⟩
  have hunit : (1 : ℚ) ≤ |(z : ℚ) - q| := by
    exact_mod_cast Int.one_le_abs (sub_ne_zero.mpr hz)
  have htriangle : |(z : ℚ) - q| ≤ |w - q| + |w - z| := by
    rw [abs_sub_comm w z, add_comm]
    exact abs_sub_le _ _ _
  exact ⟨by linarith, fun _ heq => by linarith⟩

/-! ## Rounding to numbers of the format -/

theorem abs_sub_mul_zpow (w z : ℚ) (e : Int) :
    |w * 2 ^ e - z * 2 ^ e| = |w - z| * 2 ^ e := by
  rw [← sub_mul, abs_mul, abs_zpow, abs_two]

/-- What is no multiple of the unit lies below the leading bit, which is closer to the number. -/
theorem abs_sub_lt_of_exponent_lt {q : Nat} (hy : y.Formed) (hlt : y.exponent < e)
    (hw : leadingBit ≤ w) (hhalf : 2 * |w - q| ≤ 1) :
    |w * 2 ^ e - q * 2 ^ e| < |w * 2 ^ e - y.toRat| := by
  have hsmall := (le_abs_self _).trans_lt (hy.abs_lt hlt)
  have hclose := (abs_sub_le_of_half (w := w) (q := q) (by simpa using hhalf) leadingBit).1
  push_cast at hclose
  calc |w * 2 ^ e - q * 2 ^ e| = |w - q| * 2 ^ e := abs_sub_mul_zpow w q e
    _ ≤ |w - leadingBit| * 2 ^ e := by gcongr
    _ = w * 2 ^ e - leadingBit * 2 ^ e := by
      rw [abs_of_nonneg (sub_nonneg.mpr hw), sub_mul]
    _ < w * 2 ^ e - y.toRat := by linarith
    _ ≤ |w * 2 ^ e - y.toRat| := le_abs_self _

/-- **A number is rounded by rounding what it counts of the right unit.** -/
theorem rounds_of_half {q : Nat} (hx : x.Formed) (hvalue : x.toRat = q * 2 ^ e)
    (hparity : x.significand % 2 = q % 2) (hhalf : 2 * |w - q| ≤ 1)
    (heven : 2 * |w - q| = 1 → q % 2 = 0) (hlarge : minExponent < e → leadingBit ≤ w) :
    Rounds (w * 2 ^ e) x := by
  have hcount := abs_sub_le_of_half (w := w) (q := q) (by simpa using hhalf)
  have hfar : ∀ y : Binary64, y.Formed → y.exponent < e →
      |w * 2 ^ e - x.toRat| < |w * 2 ^ e - y.toRat| := by
    intro y hy hlt
    rw [hvalue]
    exact abs_sub_lt_of_exponent_lt hy hlt (hlarge (hy.least.trans_lt hlt)) hhalf
  refine ⟨hx, fun y hy => ?_, fun y hy hne heq => ?_⟩
  · rcases le_or_gt e y.exponent with hle | hlt
    · obtain ⟨z, hz, -⟩ := exists_multiple hle
      have hclose := (hcount z).1
      push_cast at hclose
      rw [hvalue, hz, abs_sub_mul_zpow, abs_sub_mul_zpow]
      gcongr
    · exact (hfar y hy hlt).le
  · rcases le_or_gt e y.exponent with hle | hlt
    · obtain ⟨z, hz, -⟩ := exists_multiple hle
      have hzq : z ≠ q := by
        rintro rfl
        exact hne (by rw [hz, hvalue, Int.cast_natCast])
      rw [hvalue, hz, abs_sub_mul_zpow, abs_sub_mul_zpow] at heq
      have hsame := mul_right_cancel₀ (by positivity : (2 : ℚ) ^ e ≠ 0) heq
      have hone := (hcount z).2 hzq (by simpa using hsame)
      rw [hparity]
      exact heven (by simpa using hone)
    · exact absurd heq (hfar y hy hlt).ne'

variable {num den : Nat}

/-- What is not below a whole number is not rounded below it, and what is below is not rounded
above. -/
theorem le_of_half {q m : Nat} (h : 2 * |w - q| ≤ 1) (hm : (m : ℚ) ≤ w) : m ≤ q := by
  by_contra hlt
  have hsucc : (q : ℚ) + 1 ≤ m := by exact_mod_cast Nat.not_le.mp hlt
  have hle := le_abs_self (w - q)
  linarith

theorem le_of_half_of_lt {q m : Nat} (h : 2 * |w - q| ≤ 1) (hm : w < m) : q ≤ m := by
  by_contra hlt
  have hsucc : (m : ℚ) + 1 ≤ q := by exact_mod_cast Nat.not_le.mp hlt
  have hle := neg_abs_le (w - q)
  linarith

theorem leadingBit_mul_zpow (k : Int) : (leadingBit : ℚ) * 2 ^ k = 2 ^ (k + 52) := by
  rw [zpow_add₀ (by norm_num), mul_comm]
  norm_num [leadingBit]

/-- A fraction counts less than twice the leading bit of a unit that is not too small… -/
theorem lt_of_unit (hn : num ≠ 0) (hd : den ≠ 0) (he : log2Ratio num den - 52 ≤ e)
    (hw : (num / den : ℚ) = w * 2 ^ e) : w < (2 * leadingBit : Nat) := by
  obtain ⟨-, hhigh⟩ := log2Ratio_spec hn hd
  have hpos : (0 : ℚ) < 2 ^ e := by positivity
  rw [← mul_lt_mul_iff_left₀ hpos, ← hw, Nat.cast_mul, mul_assoc, leadingBit_mul_zpow]
  refine hhigh.trans_le ?_
  rw [Nat.cast_ofNat, ← zpow_one_add₀ (by norm_num)]
  exact zpow_le_zpow_right₀ (by norm_num) (by omega)

/-- …and no less than it of one that is not too large. -/
theorem le_of_unit (hn : num ≠ 0) (hd : den ≠ 0) (he : e ≤ log2Ratio num den - 52)
    (hw : (num / den : ℚ) = w * 2 ^ e) : leadingBit ≤ w := by
  obtain ⟨hlow, -⟩ := log2Ratio_spec hn hd
  have hpos : (0 : ℚ) < 2 ^ e := by positivity
  rw [← mul_le_mul_iff_left₀ hpos, ← hw, leadingBit_mul_zpow]
  exact le_trans (zpow_le_zpow_right₀ (by norm_num) (by omega)) hlow

/-- **A fraction is rounded to its nearest number.** -/
theorem rounds_nearest (hn : num ≠ 0) (hd : den ≠ 0) :
    Rounds (num / den) ⟨false, (nearest num den).1, (nearest num den).2⟩ := by
  rw [nearest, if_neg hn]
  dsimp only
  generalize he : max (log2Ratio num den - 52) minExponent = e
  obtain ⟨a, b, hb, hunits, hratio⟩ := exists_units num (Nat.pos_of_ne_zero hd) e
  obtain ⟨hhalf, heven⟩ := divNearestEven_spec a hb
  have hupper : (a / b : ℚ) < (2 * leadingBit : Nat) := lt_of_unit hn hd (by omega) hratio
  have hlower : minExponent < e → (leadingBit : ℚ) ≤ a / b := fun hlt =>
    le_of_unit hn hd (by omega) hratio
  rw [hunits, hratio]
  have hle := le_of_half_of_lt hhalf hupper
  split
  next hq =>
    -- Rounded up to a bit more than there may be, the number has the next unit.
    have hbound : leadingBit < 2 * leadingBit := by decide
    have hleast : minExponent ≤ e + 1 := by omega
    refine rounds_of_half ⟨hbound, hleast, fun _ => le_refl _⟩ ?_ ?_ hhalf heven hlower
    · rw [hq, toRat, zpow_add_one₀ (by norm_num)]
      simp only [signFactor, Bool.false_eq_true, if_false]
      push_cast
      ring
    · rw [hq]
      exact show leadingBit % 2 = 2 * leadingBit % 2 by decide
  next hq =>
    have hleast : minExponent ≤ e := by omega
    refine rounds_of_half ⟨lt_of_le_of_ne hle hq, hleast, fun hlt => le_of_half hhalf (hlower hlt)⟩
      ?_ rfl hhalf heven hlower
    simp [toRat, signFactor]

/-- …and with the other sign to the opposite. -/
theorem rounds_nearest_signed (hn : num ≠ 0) (hd : den ≠ 0) (negative : Bool) :
    Rounds (signFactor negative * (num / den))
      ⟨negative, (nearest num den).1, (nearest num den).2⟩ := by
  have hround := rounds_nearest hn hd
  cases negative with
  | false => simpa [signFactor] using hround
  | true => simpa [signFactor, neg] using hround.neg

theorem rounds_zero (negative : Bool) : Rounds 0 ⟨negative, 0, minExponent⟩ := by
  have hvalue : toRat ⟨negative, 0, minExponent⟩ = 0 := toRat_eq_zero.mpr rfl
  refine ⟨formed_zero negative, fun y _ => ?_, fun _ _ _ _ => rfl⟩
  rw [hvalue, sub_zero, abs_zero]
  exact abs_nonneg _

theorem rounded_zero (negative : Bool) : Rounded 0 ⟨negative, 0, minExponent⟩ :=
  ⟨rounds_zero negative, show minExponent ≤ maxExponent by decide⟩

theorem ofRatio?_eq_some {negative : Bool} : ofRatio? negative num den = some x ↔
    x = ⟨negative, (nearest num den).1, (nearest num den).2⟩ ∧
      (nearest num den).2 ≤ maxExponent := by
  rw [ofRatio?]
  dsimp only
  split
  next h => simp [h, eq_comm]
  next h => simp [h]

/-- **The number that is found is the rounded one.** -/
theorem rounded_of_ofRatio? {negative : Bool} (hn : num ≠ 0) (hd : den ≠ 0)
    (h : ofRatio? negative num den = some x) : Rounded (signFactor negative * (num / den)) x := by
  obtain ⟨rfl, hfinite⟩ := ofRatio?_eq_some.mp h
  exact ⟨rounds_nearest_signed hn hd negative, hfinite⟩

/-! ## Which numbers can be rounded -/

theorem Rounds.exponent_eq (hx : Rounds v x) (hy : Rounds v y) : x.exponent = y.exponent := by
  have hvalue := hx.unique hy
  exact le_antisymm (hx.formed.exponent_le hy.formed (by rw [hvalue]))
    (hy.formed.exponent_le hx.formed (by rw [hvalue]))

/-- A fraction that can be rounded, and not to zero, is rounded by `ofRatio?`, whatever the sign. -/
theorem exists_rounded_iff (hn : num ≠ 0) (hd : den ≠ 0) (negative : Bool) :
    (∃ x, Rounded (signFactor negative * (num / den)) x ∧ x.toRat ≠ 0) ↔
      ∃ x, ofRatio? false num den = some x ∧ x.isZero = false := by
  have hround := rounds_nearest_signed hn hd negative
  constructor
  · rintro ⟨x, hx, hne⟩
    have hfinite := hx.finite
    rw [hx.exponent_eq hround] at hfinite
    rw [hx.unique hround, ne_eq, toRat_eq_zero] at hne
    exact ⟨_, ofRatio?_eq_some.mpr ⟨rfl, hfinite⟩, decide_eq_false hne⟩
  · rintro ⟨x, hx, hne⟩
    obtain ⟨rfl, hfinite⟩ := ofRatio?_eq_some.mp hx
    exact ⟨_, ⟨hround, hfinite⟩, mt toRat_eq_zero.mp (of_decide_eq_false hne)⟩

theorem natAbs_num_div_den (v : ℚ) : (v.num.natAbs / v.den : ℚ) = |v| := by
  conv_rhs => rw [← Rat.num_div_den v]
  rw [abs_div, Nat.abs_cast, Nat.cast_natAbs, Int.cast_abs]

theorem signFactor_mul_abs (v : ℚ) : signFactor (v < 0) * |v| = v := by
  rcases lt_or_ge v 0 with hv | hv
  · rw [abs_of_neg hv, signFactor, decide_eq_true hv, if_pos rfl, neg_one_mul, neg_neg]
  · rw [abs_of_nonneg hv, signFactor, decide_eq_false (not_lt.mpr hv), if_neg Bool.false_ne_true,
      one_mul]

/-- **A number can be rounded, and not to zero unless it is zero, exactly if it is of the right
size.** -/
theorem sized_iff_rounded : Sized v ↔ ∃ x, Rounded v x ∧ (x.toRat = 0 → v = 0) := by
  by_cases h0 : v = 0
  · subst h0
    exact iff_of_true (.inl rfl) ⟨_, rounded_zero false, fun _ => rfl⟩
  have hn : v.num.natAbs ≠ 0 := by simpa using h0
  have hround := exists_rounded_iff hn v.den_nz (v < 0)
  rw [exists_ofRatio?_iff hn v.den_nz, natAbs_num_div_den, signFactor_mul_abs] at hround
  simpa [Sized, h0] using hround.symm

end Binary64

/-! ## Values of literals -/

namespace Decimal

variable {d : Decimal} {x : Binary64}

open Binary64

/-- The value is that of the fraction that is rounded. -/
theorem exact_eq_ratio (d : Decimal) :
    d.exact = signFactor d.isNegative * (d.ratio.1 / d.ratio.2) := by
  have hden : (d.ratio.2 : ℚ) ≠ 0 := by exact_mod_cast d.ratio_pos.ne'
  rw [exact_eq, ratio_eq, mul_div_cancel_right₀ _ hden]

/-- **The binary64 number of a literal is its value rounded**, and zero only if that is. -/
theorem rounded_of_binary64? (hd : d.Digital) (h : d.binary64? = some x) :
    Rounded d.exact x ∧ (x.toRat = 0 → d.exact = 0) := by
  obtain ⟨hx, hzero⟩ := Option.filter_eq_some_iff.mp h
  have hexact : d.exact = 0 ↔ d.mantissa = 0 :=
    (exact_eq_zero_iff hd).trans (mantissa_eq_zero_iff hd).symm
  by_cases hm : d.mantissa = 0
  · rw [nearest?, if_pos (.inl hm)] at hx
    obtain rfl := Option.some.inj hx
    rw [hexact.mpr hm]
    exact ⟨rounded_zero _, fun _ => rfl⟩
  · have hne : x.significand ≠ 0 := by simpa [isZero, hm] using hzero
    have hlow : -magnitudeLimit ≤ d.magnitude := by
      by_contra hlt
      rw [nearest?, if_pos (.inr (Int.not_le.mp hlt))] at hx
      obtain rfl := Option.some.inj hx
      exact hne rfl
    have hhigh : d.magnitude ≤ magnitudeLimit := by
      by_contra hlt
      rw [nearest?, if_neg (by rintro (h | h) <;> [exact hm h; omega]),
        if_pos (Int.not_le.mp hlt)] at hx
      cases hx
    have hnum : d.ratio.1 ≠ 0 := by
      intro h0
      rw [exact_eq_ratio, h0, Nat.cast_zero, zero_div, mul_zero] at hexact
      exact hm (hexact.mp rfl)
    rw [nearest?_eq_ofRatio? hm hlow hhigh] at hx
    rw [exact_eq_ratio]
    exact ⟨rounded_of_ofRatio? hnum d.ratio_pos.ne' hx, fun h0 => absurd (toRat_eq_zero.mp h0) hne⟩

end Decimal

end PathExpr
