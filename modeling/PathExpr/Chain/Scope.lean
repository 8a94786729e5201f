import PathExpr.Chain.Node
import PathExpr.Report

/-!
# PathExpr/Chain/Scope — where `@` and `last` may stand

The current item has a meaning only in a filter or an existence test, and the last index only in an
array subscript.  `Chain.check` goes through a chain from left to right and finds the first node out
of its place.
-/

namespace PathExpr

variable [Regex.Engine]

/-- A constant out of its place. -/
inductive ScopeFault
  | currentOutsideFilter
  | lastOutsideSubscript
deriving DecidableEq

/-- The wording of a constant out of its place. -/
def ScopeFault.message : ScopeFault → String
  | .currentOutsideFilter => "@ is not allowed in root expressions"
  | .lastOutsideSubscript => "LAST is allowed only in array subscripts"

/-- The fault as it is told. -/
def ScopeFault.report (f : ScopeFault) : Report := ⟨.tree, f.message, none⟩

mutual

/-- The first fault in a node, where `hasCurrent` and `hasLast` say whether the two constants have a
meaning around it. -/
def Node.check (hasCurrent hasLast : Bool) : Node → Option ScopeFault
  | .constant .current => if hasCurrent then none else some .currentOutsideFilter
  | .constant .last => if hasLast then none else some .lastOutsideSubscript
  | .binary _ left right => (Chain.check hasCurrent hasLast left).or
      (Chain.check hasCurrent hasLast right)
  | .unary operator operand => Chain.check (hasCurrent || operator.bindsCurrent) hasLast operand
  | .likeRegex operand _ => Chain.check hasCurrent hasLast operand
  | .subscripts items => checkItems hasCurrent items
  | _ => none

/-- The first fault in a chain. -/
def Chain.check (hasCurrent hasLast : Bool) : Chain → Option ScopeFault
  | [] => none
  | head :: accessors =>
    (Node.check hasCurrent hasLast head).or (Chain.check hasCurrent hasLast accessors)

/-- The first fault in a list of subscripts. -/
def checkItems (hasCurrent : Bool) : List Chain → Option ScopeFault
  | [] => none
  | item :: rest => (Chain.check hasCurrent true item).or (checkItems hasCurrent rest)

end

end PathExpr
