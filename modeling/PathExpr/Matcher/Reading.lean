import PathExpr.Matcher.Refusal
import PathExpr.Unicode.Letter

/-!
# PathExpr/Matcher/Reading — reading a pattern from left to right

A `Reading α` takes a text and gives a value and what is left of the text, which is never longer
than the text was.  The bound is part of the type, so that a loop over readings ends because it
takes a character itself before each round.
-/

namespace PathExpr.Matcher

/-- What is left of a text after a part of it was read. -/
abbrev Rest (text : List Char) := { rest : List Char // rest.length ≤ text.length }

/-- All of the text is left. -/
def Rest.whole (text : List Char) : Rest text := ⟨text, Nat.le_refl _⟩

/-- What is left of a rest. -/
def Rest.trans {text : List Char} (r : Rest text) (s : Rest r.val) : Rest text :=
  ⟨s.val, Nat.le_trans s.property r.property⟩

/-- The text without its first `n` characters. -/
def Rest.drop (n : Nat) (text : List Char) : Rest text := ⟨text.drop n, by simp⟩

/-- A step of reading: a refusal, or a value and the rest of the text. -/
def Reading (α : Type) : Type := (text : List Char) → Except Refusal (α × Rest text)

namespace Reading

/-- Reads nothing. -/
protected def pure {α : Type} (a : α) : Reading α := fun text => .ok (a, .whole text)

/-- One reading after the other. -/
protected def bind {α β : Type} (p : Reading α) (f : α → Reading β) : Reading β := fun text =>
  match p text with
  | .error r => .error r
  | .ok (a, rest) =>
    match f a rest.val with
    | .error r => .error r
    | .ok (b, rest') => .ok (b, rest.trans rest')

instance : Monad Reading where
  pure := Reading.pure
  bind := Reading.bind

/-- Refuses the pattern. -/
def refuse {α : Type} (r : Refusal) : Reading α := fun _ => .error r

/-- The text ahead, none of which is read. -/
def ahead : Reading (List Char) := fun text => .ok (text, .whole text)

/-- Reads `n` characters. -/
def skip (n : Nat) : Reading Unit := fun text => .ok ((), .drop n text)

/-- Reads the characters up to the first that fails the test. -/
def takeWhile (p : Char → Bool) : Reading (List Char) := fun text =>
  .ok (text.takeWhile p, .drop (text.takeWhile p).length text)

end Reading

/-- What follows the first line feed. -/
def afterLine : List Char → List Char
  | [] => []
  | c :: rest => if c = '\n' then rest else afterLine rest

theorem length_afterLine_le (text : List Char) : (afterLine text).length ≤ text.length := by
  induction text with
  | nil => exact Nat.le_refl _
  | cons c rest ih =>
    unfold afterLine
    split
    · exact Nat.le_succ _
    · exact Nat.le_succ_of_le ih

/-- The text without the blanks and comments at its front; a comment begins with `#` and ends with
the line. -/
def dropComments : List Char → List Char
  | [] => []
  | c :: rest =>
    if isBlankSpace c then dropComments rest
    else if c = '#' then dropComments (afterLine rest)
    else c :: rest
termination_by text => text.length
decreasing_by
  · exact Nat.lt_succ_self _
  · exact Nat.lt_succ_of_le (length_afterLine_le rest)

theorem length_dropComments_le (text : List Char) :
    (dropComments text).length ≤ text.length := by
  fun_induction dropComments text with
  | case1 => exact Nat.le_refl _
  | case2 c rest _ ih => exact Nat.le_succ_of_le ih
  | case3 rest _ ih =>
    exact Nat.le_succ_of_le (Nat.le_trans ih (length_afterLine_le rest))
  | case4 => exact Nat.le_refl _

/-- What is left after blanks and comments, where they do not count. -/
def dropBlanks (blanks : Bool) (text : List Char) : Rest text :=
  if blanks then ⟨dropComments text, length_dropComments_le text⟩ else .whole text

namespace Reading

/-- Reads blanks and comments, where they do not count. -/
def blanks (b : Bool) : Reading Unit := fun text => .ok ((), dropBlanks b text)

/-- Reads one character and what does not count after it. -/
def advance (b : Bool) : Reading Unit := do
  skip 1
  blanks b

/-- Reads one character and what does not count after it; the pattern must not end there. -/
def advanceOr (b : Bool) (r : Refusal) : Reading Char := do
  advance b
  match ← ahead with
  | [] => refuse r
  | c :: _ => pure c

end Reading

/-- The characters up to the first that fails the test, and the rest; what does not count after each
character is left out. -/
def spacedRun (b : Bool) (p : Char → Bool) (text : List Char) : List Char × Rest text :=
  match text with
  | [] => ([], .whole [])
  | c :: rest =>
    if p c then
      match dropBlanks b rest with
      | ⟨next, h⟩ =>
        let (run, ⟨left, h'⟩) := spacedRun b p next
        (c :: run, ⟨left, by simp only [List.length_cons]; omega⟩)
    else ([], .whole (c :: rest))
termination_by text.length
decreasing_by
  simp only [List.length_cons]
  omega

/-- Reads the characters up to the first that fails the test, and what does not count between
them. -/
def Reading.spacedWhile (b : Bool) (p : Char → Bool) : Reading (List Char) := fun text =>
  .ok (spacedRun b p text)

end PathExpr.Matcher
