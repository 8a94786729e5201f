/-!
# PathExpr/Position — places in a text

A `Position` is a line and a column, both counted from one, in characters.  A `Cursor` is a place in
a text together with the characters ahead of it; `Cursor.advance` moves it and keeps count of lines,
columns and bytes.
-/

namespace PathExpr

/-- A line and a column, counted from one. -/
structure Position where
  line : Nat
  column : Nat
deriving DecidableEq

namespace Position

/-- Where every text begins. -/
def start : Position := ⟨1, 1⟩

/-- The place after one more character. -/
def step (p : Position) (c : Char) : Position :=
  if c = '\n' then ⟨p.line + 1, 1⟩ else ⟨p.line, p.column + 1⟩

/-- Line and column with a colon between. -/
def text (p : Position) : String := toString p.line ++ ":" ++ toString p.column

end Position

/-- A place in a text: the characters ahead, the bytes behind, and the position. -/
structure Cursor where
  rest : List Char
  offset : Nat
  position : Position

namespace Cursor

/-- The cursor at the beginning of a text. -/
def ofText (text : List Char) : Cursor := ⟨text, 0, .start⟩

/-- The cursor after the next character; at the end of the text it stays where it is. -/
def next (c : Cursor) : Cursor :=
  match c.rest with
  | [] => c
  | ch :: rest => ⟨rest, c.offset + ch.utf8Size, c.position.step ch⟩

/-- The cursor after the next `n` characters. -/
def advance : Nat → Cursor → Cursor
  | 0, c => c
  | n + 1, c => advance n c.next

@[simp] theorem advance_zero (c : Cursor) : c.advance 0 = c := rfl

@[simp] theorem advance_succ (n : Nat) (c : Cursor) : c.advance (n + 1) = c.next.advance n := rfl

@[simp] theorem rest_next (c : Cursor) : c.next.rest = c.rest.tail := by
  unfold next
  split <;> simp_all

@[simp] theorem rest_advance (n : Nat) (c : Cursor) : (c.advance n).rest = c.rest.drop n := by
  induction n generalizing c with
  | zero => rfl
  | succ n ih => simp [ih]

end Cursor

end PathExpr
