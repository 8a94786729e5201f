import PathExpr.Chain.Equality
import PathExpr.Chain.Printer
import PathExpr.Chain.Scope
import PathExpr.Grammar.Whole
import PathExpr.Token.Stream

/-!
# PathExpr/Path — paths

A `Path` is an expression with a mode in which every constant stands where it has a meaning.
`Path.parse` reads the text of a path and `Path.text` writes it.
-/

namespace PathExpr

variable [Regex.Engine]

/-- An expression with its mode; `predicate` says whether it is evaluated as a predicate. -/
structure Path where
  root : Chain
  mode : Mode
  predicate : Bool
  inScope : root.check false false = none

/-- Why a text is no path. -/
inductive Failure
  | lexical (fault : PlacedFault)
  | grammar (fault : GrammarFault) (position : Position)
  | scope (fault : ScopeFault)
  | misuse (misuse : Misuse)

/-- The failure as it is told, unless it is a misuse. -/
def Failure.report (verbose : Bool) : Failure → Except Misuse Report
  | .lexical fault => .ok fault.report
  | .grammar fault position => .ok ⟨.parser, fault.message verbose, some position⟩
  | .scope fault => .ok fault.report
  | .misuse m => .error m

/-- The position of the token from which on `left` tokens are left. -/
def Stream.positionOf (s : Stream) (left : Nat) : Position :=
  ((s.tokens.drop (s.tokens.length - left)).head?.getD s.finish).position

/-- Why reading the tokens of a stream stopped. -/
def Stream.failure (s : Stream) : Stop → Failure
  | .fault fault left => .grammar fault (s.positionOf left)
  | .misuse m => .misuse m

namespace Path

/-- The path of an expression, if its constants stand where they have a meaning. -/
def ofChain (root : Chain) (mode : Mode) (predicate : Bool) : Except ScopeFault Path :=
  match h : root.check false false with
  | none => .ok ⟨root, mode, predicate, h⟩
  | some fault => .error fault

/-- The path that a stream of tokens writes. -/
def ofStream (s : Stream) : Except Failure Path := do
  let (mode, root) ← (Grammar.whole (s.tokens.map Token.kind)).mapError s.failure
  (ofChain root mode root.isPredicate).mapError .scope

/-- The path that a text writes. -/
def parse (text : String) : Except Failure Path := do
  ofStream (← (tokens? text).mapError .lexical)

/-- The canonical text of a path. -/
def text (p : Path) : String := String.ofList (p.mode.text.toList ++ p.root.render false true)

/-- Whether two paths are the same. -/
def same (p q : Path) : Bool :=
  p.root.same q.root && p.mode = q.mode && p.predicate = q.predicate

end Path

end PathExpr
