import PathExpr.Chain.Node
import PathExpr.Text.Quoted

/-!
# PathExpr/Chain/Printer — the canonical text of a chain

The text has as few parentheses as reading it back needs.  An operand is put in parentheses if it
binds no more tightly than the operator around it; the head of a chain is if it is an operator or a
number and accessors follow.  Accessors are written with the dot before them, which a node on its
own does not have.
-/

namespace PathExpr

variable [Regex.Engine]

/-- A text, in parentheses if asked for. -/
def parenthesized (parens : Bool) (text : List Char) : List Char :=
  if parens then '(' :: text ++ [')'] else text

/-- A text, after a dot if asked for. -/
def dotted (dot : Bool) (text : List Char) : List Char := if dot then '.' :: text else text

/-- The accessor of all members from one level to another. -/
def anyText (first last : Level) : List Char :=
  if first = .top ∧ last = .deepest then "**".toList
  else
    let levels := if first = last then first.text else first.text ++ " to " ++ last.text
    "**\x7b".toList ++ levels.toList ++ ['\x7d']

/-- The text of flags after a pattern. -/
def flagText (fs : Regex.Flags) : List Char :=
  if fs.isEmpty then [] else (" flag \"" ++ fs.text ++ "\"").toList

mutual

/-- The text of a node: `chained` says whether accessors follow it, `inChain` whether it is an
accessor itself, and `parens` whether an operator should stand in parentheses. -/
def Node.render (chained inChain parens : Bool) : Node → List Char
  | .constant c => dotted (inChain && c = .anyKey) c.text.toList
  | .method m => ("." ++ m.name ++ "()").toList
  | .string value => quoted value
  | .key name => dotted inChain (quoted name)
  | .variable name => '$' :: quoted name
  | .numeric n => parenthesized chained n.canonical.toList
  | .integer i => parenthesized chained i.canonical.toList
  | .binary .subscript left right =>
    Chain.render false false left ++
      if right.isEmpty then [] else " to ".toList ++ Chain.render false false right
  | .binary .decimal left right =>
    ".decimal(".toList ++ Chain.render false false left ++
      (if right.isEmpty then [] else ',' :: Chain.render false false right) ++ [')']
  | .binary operator left right =>
    parenthesized (parens || chained)
      (Chain.render false (Chain.priority left ≤ operator.priority) left ++
        (" " ++ operator.text ++ " ").toList ++
        Chain.render false (Chain.priority right ≤ operator.priority) right)
  | .unary .existence operand =>
    parenthesized chained ("exists (".toList ++ Chain.render false false operand ++ [')'])
  | .unary .negation operand =>
    parenthesized chained ("!(".toList ++ Chain.render false false operand ++ [')'])
  | .unary .isUnknown operand =>
    parenthesized chained ('(' :: Chain.render false false operand ++ ") is unknown".toList)
  | .unary .plus operand =>
    parenthesized (parens || chained)
      ('+' :: Chain.render false (Chain.priority operand ≤ UnaryOperator.plus.priority) operand)
  | .unary .minus operand =>
    parenthesized (parens || chained)
      ('-' :: Chain.render false (Chain.priority operand ≤ UnaryOperator.minus.priority) operand)
  | .unary operator operand =>
    (operator.text ++ "(").toList ++ Chain.render false false operand ++ [')']
  | .likeRegex operand test =>
    parenthesized (parens || chained)
      (Chain.render false true operand ++ " like_regex ".toList ++ quoted test.pattern ++
        flagText test.flags)
  | .subscripts items => '[' :: renderItems items ++ [']']
  | .any first last => dotted inChain (anyText first last)

/-- The text of a chain, the empty one having none; what `inChain` and `parens` say is of its
head. -/
def Chain.render (inChain parens : Bool) : Chain → List Char
  | [] => []
  | head :: accessors =>
    Node.render (!accessors.isEmpty) inChain parens head ++ Chain.render true true accessors

/-- The texts of subscripts with commas between. -/
def renderItems : List Chain → List Char
  | [] => []
  | item :: rest =>
    Chain.render false false item ++ (if rest.isEmpty then [] else ',' :: renderItems rest)

end

/-- The text of a chain on its own. -/
def Chain.text (c : Chain) : String := String.ofList (c.render false false)

end PathExpr
