/-!
# PathExpr/Chain/Operator — constants, methods and operators

The names from which chains are built, each with its spelling in a path.  `BinaryOperator.priority`
and `UnaryOperator.priority` say how tightly an operator binds, from 0 for `||` to `atomic` for what
never needs parentheses; both reading and writing go by them.
-/

namespace PathExpr

/-- A node without parts. -/
inductive Constant
  /-- The document. -/
  | root
  /-- The item that a filter looks at. -/
  | current
  /-- The last index of an array. -/
  | last
  /-- All elements of an array. -/
  | anyArray
  /-- All members of an object. -/
  | anyKey
  | trueWord
  | falseWord
  | nullWord
deriving DecidableEq

/-- The spelling of a constant. -/
def Constant.text : Constant → String
  | .root => "$"
  | .current => "@"
  | .last => "last"
  | .anyArray => "[*]"
  | .anyKey => "*"
  | .trueWord => "true"
  | .falseWord => "false"
  | .nullWord => "null"

/-- A method without arguments. -/
inductive Method
  | abs
  | size
  | type
  | floor
  | ceiling
  | double
  | keyvalue
  | bigint
  | boolean
  | date
  | integer
  | number
  | string
deriving DecidableEq

/-- The name of a method. -/
def Method.name : Method → String
  | .abs => "abs"
  | .size => "size"
  | .type => "type"
  | .floor => "floor"
  | .ceiling => "ceiling"
  | .double => "double"
  | .keyvalue => "keyvalue"
  | .bigint => "bigint"
  | .boolean => "boolean"
  | .date => "date"
  | .integer => "integer"
  | .number => "number"
  | .string => "string"

/-- The priority of what never needs parentheses. -/
def atomic : Nat := 6

/-- An operator of up to two operands. -/
inductive BinaryOperator
  | and
  | or
  | equal
  | notEqual
  | less
  | lessEqual
  | greater
  | greaterEqual
  | startsWith
  | add
  | sub
  | mul
  | div
  | mod
  /-- An array subscript: an index, or the first and the last of a range. -/
  | subscript
  /-- The method with a precision and a scale. -/
  | decimal
deriving DecidableEq

namespace BinaryOperator

/-- How tightly the operator binds. -/
def priority : BinaryOperator → Nat
  | or => 0
  | and => 1
  | equal | notEqual | less | lessEqual | greater | greaterEqual | startsWith => 2
  | add | sub => 3
  | mul | div | mod => 4
  | subscript | decimal => atomic

/-- Whether the operator makes a predicate. -/
def isPredicate : BinaryOperator → Bool
  | and | or | equal | notEqual | less | lessEqual | greater | greaterEqual | startsWith => true
  | add | sub | mul | div | mod | subscript | decimal => false

/-- The spelling of the operator between its operands. -/
def text : BinaryOperator → String
  | and => "&&"
  | or => "||"
  | equal => "=="
  | notEqual => "!="
  | less => "<"
  | lessEqual => "<="
  | greater => ">"
  | greaterEqual => ">="
  | startsWith => "starts with"
  | add => "+"
  | sub => "-"
  | mul => "*"
  | div => "/"
  | mod => "%"
  | subscript => "to"
  | decimal => ".decimal()"

end BinaryOperator

/-- An operator of up to one operand. -/
inductive UnaryOperator
  /-- Whether the operand selects anything. -/
  | existence
  | negation
  /-- Whether a predicate is neither true nor false. -/
  | isUnknown
  | plus
  | minus
  /-- The accessor that keeps the items of which a predicate is true. -/
  | filter
  | datetime
  | time
  | timeTz
  | timestamp
  | timestampTz
deriving DecidableEq

namespace UnaryOperator

/-- How tightly the operator binds. -/
def priority : UnaryOperator → Nat
  | plus | minus => 5
  | _ => atomic

/-- Whether the operator makes a predicate. -/
def isPredicate : UnaryOperator → Bool
  | existence | negation | isUnknown => true
  | _ => false

/-- Whether the operand is where `@` may stand. -/
def bindsCurrent : UnaryOperator → Bool
  | existence | filter => true
  | _ => false

/-- The spelling of the operator. -/
def text : UnaryOperator → String
  | existence => "exists"
  | negation => "!"
  | isUnknown => "is unknown"
  | plus => "+"
  | minus => "-"
  | filter => "?"
  | datetime => ".datetime"
  | time => ".time"
  | timeTz => ".time_tz"
  | timestamp => ".timestamp"
  | timestampTz => ".timestamp_tz"

/-- The name of the operator. -/
def name : UnaryOperator → String
  | existence => "Exists"
  | negation => "Not"
  | isUnknown => "IsUnknown"
  | plus => "Plus"
  | minus => "Minus"
  | filter => "Filter"
  | datetime => "Datetime"
  | time => "Time"
  | timeTz => "TimeTz"
  | timestamp => "Timestamp"
  | timestampTz => "TimestampTz"

end UnaryOperator

end PathExpr
