import PathExpr.Chain.Operator
import PathExpr.Number.Decimal
import PathExpr.Number.Integer
import PathExpr.Regex.Compile

/-!
# PathExpr/Chain/Node — nodes and chains

A path expression is a `Chain`: a node and the accessors that are applied to it in turn, so that
`$.a[0].b` is a chain of four nodes.  The operands of an operator are chains themselves, and an
operand that is left out is the empty chain.

`Chain.isPredicate` tells predicates from values: a predicate that heads further accessors is a
value.
-/

namespace PathExpr

variable [Regex.Engine]

/-- A level of the accessor `**`. -/
inductive Level
  | depth (n : Fin 4294967295)
  /-- The level of the deepest members. -/
  | deepest
deriving DecidableEq

namespace Level

/-- The level of a number, if there is one. -/
def ofInt? (n : Int) : Option Level :=
  if h : 0 ≤ n ∧ n < 4294967295 then some (depth ⟨n.toNat, by omega⟩) else none

/-- The level of a number; a number out of range means the deepest. -/
def ofInt (n : Int) : Level := (ofInt? n).getD deepest

/-- The level of the item itself. -/
def top : Level := ofInt 0

/-- The spelling of the level. -/
def text : Level → String
  | depth n => toString n.val
  | deepest => "last"

end Level

/-- A node: the head of a chain or one of its accessors. -/
inductive Node
  | constant (value : Constant)
  | method (value : Method)
  | string (value : String)
  /-- The accessor of a member. -/
  | key (name : String)
  | variable (name : String)
  | numeric (value : Numeric)
  | integer (value : Integer)
  | binary (operator : BinaryOperator) (left right : List Node)
  | unary (operator : UnaryOperator) (operand : List Node)
  /-- Whether a text matches a pattern. -/
  | likeRegex (operand : List Node) (test : Regex.Test)
  /-- The accessor of array elements, one subscript or more. -/
  | subscripts (items : List (List Node))
  /-- The accessor of all members from one level to another. -/
  | any (first last : Level)

/-- A node with the accessors that are applied to it in turn. -/
abbrev Chain := List Node

namespace Node

/-- How tightly the node binds. -/
def priority : Node → Nat
  | binary operator _ _ => operator.priority
  | unary operator _ => operator.priority
  | _ => atomic

/-- Whether the node, on its own, is a predicate. -/
def isPredicate : Node → Bool
  | binary operator _ _ => operator.isPredicate
  | unary operator _ => operator.isPredicate
  | likeRegex _ _ => true
  | _ => false

end Node

namespace Chain

/-- How tightly the head of the chain binds. -/
def priority : Chain → Nat
  | [] => atomic
  | head :: _ => head.priority

/-- Whether the chain is a predicate, not a value. -/
def isPredicate : Chain → Bool
  | [node] => node.isPredicate
  | _ => false

end Chain

end PathExpr
