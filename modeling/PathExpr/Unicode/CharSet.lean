import PathExpr.Text.Digit

/-!
# PathExpr/Unicode/CharSet — sets of characters by ranges of code points

A `CharSet` is a list of closed ranges in any order, and a character belongs to the set when some
range holds its code point.  Union is concatenation; `normalize` sorts and joins the ranges, which
the complement needs.  `ofText` reads the notation of the property tables: words in hexadecimal,
each a code point `aa`, a range `41-5a`, or every second code point of a range `100-12e/2`.
-/

namespace PathExpr

/-- A set of characters: those whose code point lies in one of the closed ranges. -/
structure CharSet where
  ranges : List (Nat × Nat)

namespace CharSet

/-- The largest code point. -/
def top : Nat := 0x10ffff

def empty : CharSet := ⟨[]⟩

def all : CharSet := ⟨[(0, top)]⟩

def range (lo hi : Nat) : CharSet := ⟨[(lo, hi)]⟩

def singleton (c : Char) : CharSet := range c.toNat c.toNat

def hasCode (s : CharSet) (n : Nat) : Bool := s.ranges.any fun r => r.1 ≤ n && n ≤ r.2

/-- Whether the set holds `c`. -/
def contains (s : CharSet) (c : Char) : Bool := s.hasCode c.toNat

def union (s t : CharSet) : CharSet := ⟨s.ranges ++ t.ranges⟩

def unions (ss : List CharSet) : CharSet := ⟨ss.flatMap ranges⟩

instance : Append CharSet := ⟨union⟩

/-- Puts one more range, which starts no earlier than those before it, in front of a list of
disjoint ranges kept in descending order. -/
def push : List (Nat × Nat) → Nat × Nat → List (Nat × Nat)
  | [], r => [r]
  | last :: done, r =>
    if r.1 ≤ last.2 + 1 then (last.1, max last.2 r.2) :: done else r :: last :: done

/-- The same set by disjoint ranges in ascending order, with a gap between any two. -/
def normalize (s : CharSet) : CharSet :=
  ⟨((s.ranges.mergeSort fun a b => a.1 ≤ b.1).foldl push []).reverse⟩

/-- The ranges between the given ascending ones, the first gap starting at `next`. -/
def gaps : Nat → List (Nat × Nat) → List (Nat × Nat)
  | next, [] => if next ≤ top then [(next, top)] else []
  | next, r :: rs =>
    if next < r.1 then (next, r.1 - 1) :: gaps (r.2 + 1) rs else gaps (r.2 + 1) rs

/-- The code points outside the set. -/
def compl (s : CharSet) : CharSet := ⟨gaps 0 s.normalize.ranges⟩

def inter (s t : CharSet) : CharSet :=
  ⟨s.ranges.flatMap fun a => t.ranges.filterMap fun b =>
    let lo := max a.1 b.1
    let hi := min a.2 b.2
    if lo ≤ hi then some (lo, hi) else none⟩

/-- The members of `s` that are not in `t`. -/
def diff (s t : CharSet) : CharSet := s.inter t.compl

/-- The members of exactly one of the two sets. -/
def symmDiff (s t : CharSet) : CharSet := s.diff t ++ t.diff s

/-- Whether every member is an ASCII character. -/
def isAscii (s : CharSet) : Bool := s.ranges.all fun r => r.2 < 0x80

@[simp] theorem contains_empty (c : Char) : empty.contains c = false := rfl

@[simp] theorem contains_union (s t : CharSet) (c : Char) :
    (s ++ t).contains c = (s.contains c || t.contains c) :=
  List.any_append

theorem contains_singleton (a c : Char) : (singleton a).contains c = true ↔ c = a := by
  simp only [contains, hasCode, singleton, range, List.any_cons, List.any_nil, Bool.or_false,
    Bool.and_eq_true, decide_eq_true_eq]
  constructor
  · intro h
    exact Char.toNat_inj.1 (Nat.le_antisymm h.2 h.1)
  · rintro rfl
    exact ⟨Nat.le_refl _, Nat.le_refl _⟩

/-! ## Reading the tables -/

/-- The ranges `lo, lo + 2, …` up to `hi`, each of one code point. -/
def alternating (lo hi : Nat) : List (Nat × Nat) :=
  (List.range ((hi - lo) / 2 + 1)).map fun i => (lo + 2 * i, lo + 2 * i)

/-- The ranges that one word of a table stands for. -/
def rangesOfWord (word : List Char) : List (Nat × Nat) :=
  let lo := word.takeWhile (isDigitOf 16)
  match word.drop lo.length with
  | '-' :: more =>
    let hi := more.takeWhile (isDigitOf 16)
    if more.length = hi.length then [(natOfDigits 16 lo, natOfDigits 16 hi)]
    else alternating (natOfDigits 16 lo) (natOfDigits 16 hi)
  | _ => [(natOfDigits 16 lo, natOfDigits 16 lo)]

/-- The words of a table, which blanks and line ends divide. -/
def wordsOf (text : List Char) : List (List Char) :=
  (text.foldr (fun c acc =>
    match acc with
    | [] => if c = ' ' ∨ c = '\n' then [[], []] else [[c]]
    | w :: ws => if c = ' ' ∨ c = '\n' then [] :: w :: ws else (c :: w) :: ws) []).filter (· ≠ [])

/-- The set that a table writes. -/
def ofText (text : String) : CharSet :=
  ⟨(wordsOf text.toList).flatMap rangesOfWord⟩

end CharSet

end PathExpr
