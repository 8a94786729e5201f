import PathExpr.Chain.Node
import PathExpr.Text.Shown

/-!
# PathExpr/Chain/Build — nodes from their parts

Not every text is a number, and not every list a list of arguments; a `Misuse` tells what was asked
for in vain.  `Chain.link` puts chains one after another, and `Chain.fold` puts a sign before a
value: a sign before a number becomes part of the number.
-/

namespace PathExpr

variable [Regex.Engine]

/-- A request that no node answers to. -/
inductive Misuse
  /-- A text that writes no decimal literal with a value. -/
  | numericLiteral (text : String)
  /-- A text that writes no integer literal. -/
  | integerLiteral (text : String)
  /-- More than a precision and a scale. -/
  | decimalArguments (count : Nat)
  /-- No chain to link. -/
  | nothingToLink
  /-- An operator that is no sign. -/
  | foldedOperator (operator : UnaryOperator)
deriving DecidableEq

/-- The wording of a misuse. -/
def Misuse.message : Misuse → String
  | .numericLiteral text => "invalid numeric literal " ++ showText text
  | .integerLiteral text => "invalid integer literal " ++ showText text
  | .decimalArguments count =>
    ".decimal() takes at most 2 arguments but " ++ toString count ++ " were given"
  | .nothingToLink => "link_nodes called with no nodes"
  | .foldedOperator operator => "cannot fold unary operator " ++ operator.name ++ " into a number"

namespace Node

/-- The node of a decimal literal. -/
def ofNumeric (text : String) : Except Misuse Node :=
  match Numeric.ofText? text with
  | some n => .ok (.numeric n)
  | none => .error (.numericLiteral text)

/-- The node of an integer literal. -/
def ofInteger (text : String) : Except Misuse Node :=
  match Integer.ofText? text with
  | some i => .ok (.integer i)
  | none => .error (.integerLiteral text)

/-- The method with a precision and a scale, either of which may be left out from the end. -/
def decimal : List Chain → Except Misuse Node
  | [] => .ok (.binary .decimal [] [])
  | [precision] => .ok (.binary .decimal precision [])
  | [precision, scale] => .ok (.binary .decimal precision scale)
  | arguments => .error (.decimalArguments arguments.length)

/-- A subscript: one index, or the first and the last of a range. -/
def subscript (first last : Chain) : Node := .binary .subscript first last

/-- The test whether a text matches a pattern under the flags that `flags` writes. -/
def matching (operand : Chain) (pattern flags : String) : Except PatternFault Node :=
  (Regex.Test.read pattern flags).map fun test => .likeRegex operand test

end Node

namespace Chain

/-- The chains one after another: each in turn goes to the end of those before it. -/
def link : List Chain → Except Misuse Chain
  | [] => .error .nothingToLink
  | first :: others => .ok (others.foldl (· ++ ·) first)

/-- So the nodes of all chains stand in order. -/
@[simp] theorem link_cons (first : Chain) (others : List Chain) :
    link (first :: others) = .ok (first ++ others.flatten) := by
  have h := @List.foldl_append_eq_append _ _ others id first
  rw [List.map_id] at h
  exact congrArg Except.ok h

/-- A minus before a value.  The opposite of a number is a number, if it is in range. -/
def negate : Chain → Except Misuse Chain
  | [.integer i] =>
    match i.negated? with
    | some j => .ok [.integer j]
    | none => .ok [.unary .minus [.integer i]]
  | [.numeric n] =>
    match n.negated? with
    | some m => .ok [.numeric m]
    | none => .error (.numericLiteral (String.ofList (negateText n.literal.toList)))
  | value => .ok [.unary .minus value]

/-- A plus before a value.  Before a number it says nothing. -/
def affirm : Chain → Chain
  | [.integer i] => [.integer i]
  | [.numeric n] => [.numeric n]
  | value => [.unary .plus value]

/-- A sign before a value. -/
def fold (operator : UnaryOperator) (value : Chain) : Except Misuse Chain :=
  match operator with
  | .plus => .ok value.affirm
  | .minus => value.negate
  | _ => .error (.foldedOperator operator)

end Chain

end PathExpr
