import PathExpr.Chain.Node

/-!
# PathExpr/Chain/Equality — equality of chains

Two chains are the same if they have the same nodes, whatever the spelling of their numbers:
integers are compared by value, and where a decimal number takes part, canonical texts are.
-/

namespace PathExpr

variable [Regex.Engine]

mutual

/-- Whether two nodes are the same. -/
def Node.same : Node → Node → Bool
  | .constant a, .constant b => a = b
  | .method a, .method b => a = b
  | .string a, .string b => a = b
  | .key a, .key b => a = b
  | .variable a, .variable b => a = b
  | .numeric a, .numeric b => a.canonical = b.canonical
  | .numeric a, .integer b => a.canonical = b.canonical
  | .integer a, .numeric b => a.canonical = b.canonical
  | .integer a, .integer b => a.value = b.value
  | .binary a left right, .binary b left' right' =>
    a = b && Chain.same left left' && Chain.same right right'
  | .unary a operand, .unary b operand' => a = b && Chain.same operand operand'
  | .likeRegex operand a, .likeRegex operand' b => Chain.same operand operand' && a = b
  | .subscripts items, .subscripts items' => sameItems items items'
  | .any first last, .any first' last' => first = first' && last = last'
  | _, _ => false

/-- Whether two chains are the same. -/
def Chain.same : Chain → Chain → Bool
  | [], [] => true
  | a :: as, b :: bs => Node.same a b && Chain.same as bs
  | _, _ => false

/-- Whether two lists of subscripts are the same. -/
def sameItems : List Chain → List Chain → Bool
  | [], [] => true
  | a :: as, b :: bs => Chain.same a b && sameItems as bs
  | _, _ => false

end

/-- Whether the heads of two chains are the same, whatever follows them. -/
def Chain.sameHead : Chain → Chain → Bool
  | a :: _, b :: _ => a.same b
  | [], [] => true
  | _, _ => false

end PathExpr
