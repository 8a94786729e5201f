import Mathlib.Data.List.Induction
import Mathlib.Tactic.Ring
import PathExpr.Text.Digit

/-!
# PathExpr/Proofs/Number/Digits — digits and numbers

`natOfDigits` and `Nat.toDigits` are inverse to one another: the digits that are written for a
number read back as the number (`natOfDigits_toDigits`), and decimal digits without a leading zero
are those written for their number (`toDigits_natOfDigits`).
-/

namespace PathExpr

/-! ## Single digits -/

theorem alphanumericValue?_digitChar : ∀ d < 16, alphanumericValue? (Nat.digitChar d) = some d := by
  decide

/-- **A digit is read as what it is written for.** -/
theorem digitValue?_digitChar {radix d : Nat} (h : d < radix) (hr : radix ≤ 16) :
    digitValue? radix (Nat.digitChar d) = some d := by
  rw [digitValue?, alphanumericValue?_digitChar d (Nat.lt_of_lt_of_le h hr)]
  simp [h]

theorem getD_digitValue?_lt {radix : Nat} (hr : 0 < radix) (c : Char) :
    (digitValue? radix c).getD 0 < radix := by
  cases h : digitValue? radix c with
  | none => exact hr
  | some n => exact digitValue?_lt h

theorem ofNat_eq_digitChar : ∀ d < 10, Char.ofNat ('0'.toNat + d) = Nat.digitChar d := by decide

/-- A decimal digit is one of the ten characters that are written for numbers below ten. -/
theorem eq_digitChar {c : Char} {d : Nat} (h : digitValue? 10 c = some d) :
    d < 10 ∧ c = Nat.digitChar d := by
  have hlt : d < 10 := digitValue?_lt h
  refine ⟨hlt, ?_⟩
  obtain ⟨hv, -⟩ := Option.filter_eq_some_iff.mp h
  unfold alphanumericValue? at hv
  split at hv
  next hc =>
    obtain rfl := Option.some.inj hv
    have hz : '0'.toNat ≤ c.toNat := hc.1
    rw [← ofNat_eq_digitChar _ hlt, Nat.add_sub_cancel' hz, Char.ofNat_toNat]
  next =>
    split at hv
    · obtain rfl := Option.some.inj hv
      omega
    · split at hv
      · obtain rfl := Option.some.inj hv
        omega
      · cases hv

theorem exists_of_isDecimalDigit {c : Char} (h : isDecimalDigit c = true) :
    ∃ d < 10, c = Nat.digitChar d := by
  obtain ⟨d, hd⟩ := Option.isSome_iff_exists.mp h
  exact ⟨d, eq_digitChar hd⟩

theorem isDigitOf_digitChar {radix d : Nat} (h : d < radix) (hr : radix ≤ 16) :
    isDigitOf radix (Nat.digitChar d) = true := by
  rw [isDigitOf, digitValue?_digitChar h hr]
  rfl

/-- A decimal digit that counts for something is not zero, and the other way round. -/
theorem getD_digitValue?_pos {c : Char} (h : isDecimalDigit c = true) (hc : c ≠ '0') :
    0 < (digitValue? 10 c).getD 0 := by
  obtain ⟨d, hd, rfl⟩ := exists_of_isDecimalDigit h
  rw [digitValue?_digitChar hd (by decide)]
  exact Nat.pos_of_ne_zero fun h0 => hc (Nat.digitChar_eq_zero.mpr h0)

/-! ## Runs of digits -/

theorem natOfDigits_append_singleton (radix : Nat) (digits : List Char) (c : Char) :
    natOfDigits radix (digits ++ [c]) =
      natOfDigits radix digits * radix + (digitValue? radix c).getD 0 := by
  simp [natOfDigits]

/-- **The digits at the end count as much as they would alone.** -/
theorem natOfDigits_append (radix : Nat) (as bs : List Char) :
    natOfDigits radix (as ++ bs) =
      natOfDigits radix as * radix ^ bs.length + natOfDigits radix bs := by
  induction bs using List.reverseRecOn with
  | nil => simp
  | append_singleton bs c ih =>
    rw [← List.append_assoc, natOfDigits_append_singleton, ih, natOfDigits_append_singleton,
      List.length_append, List.length_singleton, pow_succ]
    ring

theorem natOfDigits_cons (radix : Nat) (c : Char) (digits : List Char) :
    natOfDigits radix (c :: digits) =
      (digitValue? radix c).getD 0 * radix ^ digits.length + natOfDigits radix digits := by
  have h := natOfDigits_append radix [c] digits
  simpa [natOfDigits] using h

theorem natOfDigits_lt {radix : Nat} (hr : 0 < radix) (digits : List Char) :
    natOfDigits radix digits < radix ^ digits.length := by
  induction digits with
  | nil => simp
  | cons c digits ih =>
    have hc := getD_digitValue?_lt hr c
    calc natOfDigits radix (c :: digits)
        = (digitValue? radix c).getD 0 * radix ^ digits.length + natOfDigits radix digits :=
          natOfDigits_cons ..
      _ < (digitValue? radix c).getD 0 * radix ^ digits.length + radix ^ digits.length := by omega
      _ = ((digitValue? radix c).getD 0 + 1) * radix ^ digits.length := by ring
      _ ≤ radix * radix ^ digits.length := Nat.mul_le_mul_right _ hc
      _ = radix ^ (c :: digits).length := by rw [List.length_cons, pow_succ, mul_comm]

/-- Digits that do not begin with zero write a number above zero. -/
theorem natOfDigits_pos {digits : List Char} (h : ∀ c ∈ digits, isDecimalDigit c = true)
    (hne : digits ≠ []) (hz : digits.head? ≠ some '0') : 0 < natOfDigits 10 digits := by
  obtain ⟨c, rest, rfl⟩ := List.exists_cons_of_ne_nil hne
  have hc : c ≠ '0' := fun e => hz (congrArg some e)
  rw [natOfDigits_cons]
  have hpos := getD_digitValue?_pos (h c List.mem_cons_self) hc
  exact Nat.add_pos_left (Nat.mul_pos hpos (Nat.pow_pos (by decide))) _

theorem natOfDigits_replicate_zero (radix n : Nat) :
    natOfDigits radix (List.replicate n '0') = 0 := by
  induction n with
  | zero => rfl
  | succ n ih =>
    have hz : (digitValue? radix '0').getD 0 = 0 := by
      unfold digitValue?
      rw [show alphanumericValue? '0' = some 0 from rfl, Option.filter_some]
      split <;> rfl
    rw [List.replicate_succ, natOfDigits_cons, ih, hz, Nat.zero_mul]

/-! ## Digits of a number -/

/-- **The digits of a number are read as the number.** -/
theorem natOfDigits_toDigits {radix : Nat} (hr : 1 < radix) (hr' : radix ≤ 16) (n : Nat) :
    natOfDigits radix (Nat.toDigits radix n) = n := by
  induction n using Nat.strongRecOn with
  | ind n ih =>
    rw [Nat.toDigits_eq_if hr]
    split
    next h => simp [natOfDigits, digitValue?_digitChar h hr']
    next h =>
      have hpos : 0 < radix := by omega
      rw [natOfDigits_append_singleton, ih _ (Nat.div_lt_self (by omega) hr),
        digitValue?_digitChar (Nat.mod_lt n hpos) hr', Option.getD_some, Nat.mul_comm]
      exact Nat.div_add_mod n radix

theorem isDigitOf_of_mem_toDigits {radix n : Nat} (hr : 1 < radix) (hr' : radix ≤ 16) :
    ∀ c ∈ Nat.toDigits radix n, isDigitOf radix c = true := by
  induction n using Nat.strongRecOn with
  | ind n ih =>
    rw [Nat.toDigits_eq_if hr]
    split
    next h =>
      intro c hc
      rw [List.mem_singleton.mp hc]
      exact isDigitOf_digitChar h hr'
    next h =>
      intro c hc
      rcases List.mem_append.mp hc with hc | hc
      · exact ih _ (Nat.div_lt_self (by omega) hr) c hc
      · rw [List.mem_singleton.mp hc]
        exact isDigitOf_digitChar (Nat.mod_lt n (by omega)) hr'

/-- **Decimal digits without a leading zero are those of their number.** -/
theorem toDigits_natOfDigits {digits : List Char} (h : ∀ c ∈ digits, isDecimalDigit c = true)
    (hne : digits ≠ []) (hz : digits.head? ≠ some '0') :
    Nat.toDigits 10 (natOfDigits 10 digits) = digits := by
  induction digits using List.reverseRecOn with
  | nil => exact absurd rfl hne
  | append_singleton as c ih =>
    obtain ⟨d, hd, rfl⟩ := exists_of_isDecimalDigit (h c (by simp))
    rw [natOfDigits_append_singleton, digitValue?_digitChar hd (by decide), Option.getD_some]
    by_cases has : as = []
    · subst has
      rw [natOfDigits_nil, Nat.zero_mul, Nat.zero_add, Nat.toDigits_of_lt_base hd]
      rfl
    · have h' : ∀ c ∈ as, isDecimalDigit c = true := fun c hc => h c (by simp [hc])
      have hz' : as.head? ≠ some '0' := by
        obtain ⟨a, as, rfl⟩ := List.exists_cons_of_ne_nil has
        exact hz
      rw [Nat.mul_comm, ← Nat.toDigits_append_toDigits (by decide) (natOfDigits_pos h' has hz') hd,
        ih h' has hz', Nat.toDigits_of_lt_base hd]

end PathExpr
