import PathExpr.Matcher.Expr

/-!
# PathExpr/Matcher/Size — how big a compiled expression is

The size of an expression is that of an automaton over bytes that reads it.  A character takes a
state for each byte of its UTF-8 form.  A class divides into sequences of byte ranges, and sequences
share the states of their common beginnings.  A counted repetition repeats its body, and so can be
many times as big.
-/

namespace PathExpr.Matcher

/-- The bytes that one state takes. -/
def stateSize : Nat := 32

/-- The bytes that one more way out of a state takes. -/
def branchSize : Nat := 4

/-- The bytes that one range of a class of ASCII characters takes. -/
def rangeSize : Nat := 8

/-! ## Byte sequences -/

/-- The sequences of byte ranges for numbers from `lo` to `hi` of `n + 1` digits to the base 64. -/
def digitRanges : (n : Nat) → (lo hi : Nat) → List (List (Nat × Nat))
  | 0, lo, hi => [[(lo, hi)]]
  | n + 1, lo, hi =>
    let unit := 64 ^ (n + 1)
    let first := lo / unit
    let last := hi / unit
    if first = last then
      (digitRanges n (lo % unit) (hi % unit)).map ((first, first) :: ·)
    else
      let front :=
        if lo % unit = 0 then []
        else (digitRanges n (lo % unit) (unit - 1)).map ((first, first) :: ·)
      let back :=
        if hi % unit = unit - 1 then []
        else (digitRanges n 0 (hi % unit)).map ((last, last) :: ·)
      let lo' := if lo % unit = 0 then first else first + 1
      let hi' := if hi % unit = unit - 1 then last else last - 1
      let middle :=
        if lo' ≤ hi' then (digitRanges n 0 (unit - 1)).map ((lo', hi') :: ·) else []
      front ++ middle ++ back

/-- The least and the greatest code points whose UTF-8 forms have each length, with the number of
bytes after the first. -/
def lengthClasses : List (Nat × Nat × Nat) :=
  [(0, 0, 0x7f), (1, 0x80, 0x7ff), (2, 0x800, 0xd7ff), (2, 0xe000, 0xffff), (3, 0x10000, 0x10ffff)]

/-- The sequences of byte ranges for a range of code points. -/
def byteSequences (r : Nat × Nat) : List (List (Nat × Nat)) :=
  lengthClasses.flatMap fun (n, lo, hi) =>
    if max lo r.1 ≤ min hi r.2 then digitRanges n (max lo r.1) (min hi r.2) else []

/-- The number of ranges that two sequences have in common at their beginnings. -/
def commonLength : List (Nat × Nat) → List (Nat × Nat) → Nat
  | a :: as, b :: bs => if a = b then commonLength as bs + 1 else 0
  | _, _ => 0

/-- The states for the sequences after `last`, common beginnings counted once. -/
def sharedStates (last : List (Nat × Nat)) : List (List (Nat × Nat)) → Nat
  | [] => 0
  | s :: ss => s.length - commonLength last s + sharedStates s ss

/-! ## The size of an expression -/

/-- The number of bytes of the UTF-8 form of a code point. -/
def utf8Length (n : Nat) : Nat :=
  if n < 0x80 then 1 else if n < 0x800 then 2 else if n < 0x10000 then 3 else 4

/-- The size of a class. -/
def setSize (s : CharSet) : Nat :=
  match s.normalize.ranges with
  | [] => stateSize
  | [(lo, hi)] =>
    if lo = hi then stateSize * utf8Length lo
    else if s.isAscii then stateSize * 2 + rangeSize
    else classSize [(lo, hi)]
  | ranges => if s.isAscii then stateSize * 2 + rangeSize * ranges.length else classSize ranges
where
  /-- The size of a class with characters outside ASCII. -/
  classSize (ranges : List (Nat × Nat)) : Nat :=
    let sequences := ranges.flatMap byteSequences
    stateSize * (2 + sharedStates [] sequences) + branchSize * sequences.length

namespace Expr

/-- Whether the expression matches no text but the empty one. -/
def isEmptyOnly : Expr → Bool
  | empty => true
  | set _ => false
  | look _ => true
  | seq first second => first.isEmptyOnly && second.isEmptyOnly
  | alt first second => first.isEmptyOnly && second.isEmptyOnly
  | repeated body _ most => body.isEmptyOnly || most = some 0

/-- The size of the expression. -/
def size : Expr → Nat
  | empty => stateSize
  | set s => setSize s
  | look _ => stateSize
  | seq first second => first.size + second.size
  | alt first second => first.size + second.size + stateSize + 2 * branchSize
  | repeated body least most =>
    let one := body.size
    if body.isEmptyOnly then one + 2 * stateSize
    else
      match most with
      | none => max least 1 * one + 2 * stateSize
      | some most =>
        least * one + (most - least) * (one + stateSize + 2 * branchSize) +
          if least < most then stateSize else 0

/-- The size of the automaton around any expression. -/
def frameSize : Nat := 8 * stateSize

/-- Whether the compiled expression keeps within the limit. -/
def fits (e : Expr) : Bool := frameSize + e.size ≤ sizeLimit

end Expr

end PathExpr.Matcher
