import PathExpr.Grammar.Expression

/-!
# PathExpr/Grammar/Whole — whole paths

A path is a word for its mode, which may be left out, and an expression.
-/

namespace PathExpr

variable [Regex.Engine]

/-- How a path is evaluated: structural errors count only in the strict mode. -/
inductive Mode
  | lax
  | strict
deriving DecidableEq

/-- What a path begins with in the mode. -/
def Mode.text : Mode → String
  | .lax => ""
  | .strict => "strict "

namespace Grammar

/-- The mode that the tokens begin with, lax if they name none, and what follows. -/
def mode : List TokenKind → Mode × List TokenKind
  | .keyword .strict _ :: rest => (.strict, rest)
  | .keyword .lax _ :: rest => (.lax, rest)
  | ts => (.lax, ts)

/-- An expression that takes up all tokens. -/
def complete (ts : List TokenKind) : Except Stop Chain := do
  let ⟨root, rest, _⟩ ← expression 0 ts
  match rest with
  | [] => .ok root
  | rest => unexpected .finish rest

/-- The mode and the expression of a path. -/
def whole (ts : List TokenKind) : Except Stop (Mode × Chain) :=
  (complete (mode ts).2).map fun root => ((mode ts).1, root)

end Grammar

end PathExpr
