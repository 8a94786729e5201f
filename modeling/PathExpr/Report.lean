import PathExpr.Position

/-!
# PathExpr/Report — errors as they are told

A `Report` says which stage of reading a path found fault, what the fault is, and where.
-/

namespace PathExpr

/-- The stage that found a fault. -/
inductive Stage
  | lexer
  | parser
  | tree
deriving DecidableEq

/-- The name of the stage at the head of a message. -/
def Stage.name : Stage → String
  | .lexer => "lexer"
  | .parser => "parser"
  | .tree => "ast"

/-- A fault as it is told: the stage that found it, its text, and its place if it has one. -/
structure Report where
  stage : Stage
  text : String
  position : Option Position
deriving DecidableEq

/-- The whole message: stage, text and place. -/
def Report.message (r : Report) : String :=
  r.stage.name ++ ": " ++ r.text ++
    match r.position with
    | some p => " at " ++ p.text
    | none => ""

end PathExpr
