/-!
# PathExpr/Number/Binary64 — the nearest binary64 number of a fraction

A finite number of the binary64 format is `± m · 2 ^ e` with `m` below `2 ^ 53` and `e` from `-1074`
to `971`.  `nearest num den` finds the `m` and `e` of the number closest to `num / den`, an even `m`
where two are equally close, and `bits` lays a number out in the 64 bits of the format.
-/

namespace PathExpr

/-- A finite number `± significand · 2 ^ exponent`. -/
structure Binary64 where
  negative : Bool
  significand : Nat
  exponent : Int
deriving DecidableEq

namespace Binary64

/-- The significand of a power of two, the least one of numbers with more than the least
exponent. -/
def leadingBit : Nat := 0x10000000000000

/-- The least exponent, that of the numbers next to zero. -/
def minExponent : Int := -1074

/-- The greatest exponent. -/
def maxExponent : Int := 971

/-- `num / den` to the nearest integer, a half to the even neighbour. -/
def divNearestEven (num den : Nat) : Nat :=
  let q := num / den
  let r := num % den
  if 2 * r < den then q
  else if den < 2 * r then q + 1
  else q + q % 2

/-- `num / den` in units of `2 ^ exponent`, to the nearest integer, a half to the even
neighbour. -/
def inUnits (num den : Nat) (exponent : Int) : Nat :=
  if exponent < 0 then divNearestEven (num <<< exponent.natAbs) den
  else divNearestEven num (den <<< exponent.natAbs)

/-- Whether `2 ^ k ≤ num / den`. -/
def twoPowLe (num den : Nat) (k : Int) : Bool :=
  if k < 0 then den ≤ num <<< k.natAbs else den <<< k.natAbs ≤ num

/-- The greatest `k` with `2 ^ k ≤ num / den`, for positive `num` and `den`. -/
def log2Ratio (num den : Nat) : Int :=
  let k : Int := (num.log2 : Int) - (den.log2 : Int)
  if twoPowLe num den k then k else k - 1

/-- The significand and the exponent of the number nearest to `num / den`, with no upper limit on
the exponent. -/
def nearest (num den : Nat) : Nat × Int :=
  if num = 0 then (0, minExponent)
  else
    let exponent := max (log2Ratio num den - 52) minExponent
    let significand := inUnits num den exponent
    if significand = 2 * leadingBit then (leadingBit, exponent + 1) else (significand, exponent)

/-- The number nearest to `± num / den`, if it is finite. -/
def ofRatio? (negative : Bool) (num den : Nat) : Option Binary64 :=
  let (significand, exponent) := nearest num den
  if exponent ≤ maxExponent then some ⟨negative, significand, exponent⟩ else none

/-- Whether the number is a zero of either sign. -/
def isZero (x : Binary64) : Bool := x.significand = 0

/-- The same number with the other sign. -/
def neg (x : Binary64) : Binary64 := { x with negative := !x.negative }

/-- The 64 bits of the number: the sign, eleven bits for the exponent, and the significand without
its leading one. -/
def bits (x : Binary64) : Nat :=
  (if x.negative then 0x8000000000000000 else 0) +
    if x.significand < leadingBit then x.significand
    else (x.exponent - minExponent + 1).toNat * leadingBit + (x.significand - leadingBit)

end Binary64

end PathExpr
