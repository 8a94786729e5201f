/-!
# PathExpr/Number/Word — numbers of 64 bits

Integer literals have values of 64 bits, and the place of a decimal point is counted in such
numbers.  A step of a calculation that leaves their range has no result: `int64?` and `count64?`
give back the number that they are asked about, if it is in range, and nothing else.
-/

namespace PathExpr

/-- The least signed number of 64 bits. -/
def minInteger : Int := -0x8000000000000000

/-- The greatest signed number of 64 bits. -/
def maxInteger : Int := 0x7fffffffffffffff

/-- The number, if it is a signed number of 64 bits. -/
def int64? (n : Int) : Option Int := if minInteger ≤ n ∧ n ≤ maxInteger then some n else none

/-- The number, if it is an unsigned number of 64 bits. -/
def count64? (n : Int) : Option Nat :=
  if 0 ≤ n ∧ n < 0x10000000000000000 then some n.toNat else none

theorem int64?_eq_some {n m : Int} :
    int64? n = some m ↔ (minInteger ≤ n ∧ n ≤ maxInteger) ∧ n = m := by
  unfold int64?
  split
  next h => rw [Option.some.injEq, and_iff_right h]
  next h => exact ⟨nofun, fun hm => absurd hm.1 h⟩

theorem count64?_eq_some {n : Int} {m : Nat} :
    count64? n = some m ↔ n = m ∧ n < 0x10000000000000000 := by
  unfold count64?
  split
  next h =>
    rw [Option.some.injEq]
    omega
  next h =>
    refine ⟨nofun, ?_⟩
    rintro ⟨rfl, hn⟩
    exact absurd ⟨Int.natCast_nonneg m, hn⟩ h

end PathExpr
