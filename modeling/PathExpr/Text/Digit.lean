/-!
# PathExpr/Text/Digit — digits of a radix

`digitValue? radix c` is the value of `c` as a digit of `radix`, letters of either case standing
for ten and above.  `natOfDigits` reads a run of digits from the most significant one.
-/

namespace PathExpr

/-- The value of a decimal digit or of an ASCII letter counted on from ten. -/
def alphanumericValue? (c : Char) : Option Nat :=
  if '0' ≤ c ∧ c ≤ '9' then some (c.toNat - '0'.toNat)
  else if 'a' ≤ c ∧ c ≤ 'z' then some (c.toNat - 'a'.toNat + 10)
  else if 'A' ≤ c ∧ c ≤ 'Z' then some (c.toNat - 'A'.toNat + 10)
  else none

/-- The value of `c` as a digit of `radix`. -/
def digitValue? (radix : Nat) (c : Char) : Option Nat :=
  (alphanumericValue? c).filter (· < radix)

/-- Whether `c` is a digit of `radix`. -/
def isDigitOf (radix : Nat) (c : Char) : Bool := (digitValue? radix c).isSome

/-- Whether `c` is one of `0` to `9`. -/
abbrev isDecimalDigit (c : Char) : Bool := isDigitOf 10 c

/-- The number that a run of digits writes in `radix`; a character that is no digit counts as
zero. -/
def natOfDigits (radix : Nat) (digits : List Char) : Nat :=
  digits.foldl (fun n c => n * radix + (digitValue? radix c).getD 0) 0

@[simp] theorem natOfDigits_nil (radix : Nat) : natOfDigits radix [] = 0 := rfl

theorem digitValue?_lt {radix n : Nat} {c : Char} (h : digitValue? radix c = some n) :
    n < radix := by
  simp only [digitValue?, Option.filter_eq_some_iff, decide_eq_true_eq] at h
  exact h.2

end PathExpr
