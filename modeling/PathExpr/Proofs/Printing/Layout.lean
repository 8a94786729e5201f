import PathExpr.Path
import PathExpr.Proofs.Shape.WellShaped

/-!
# PathExpr/Proofs/Printing/Layout — the text of a node from the texts of its parts

One equation for each way in which a node is laid out: between its operands, before its operand,
around it, or after a chain.
-/

namespace PathExpr

variable [Regex.Engine] {chained inChain parens : Bool}

theorem chain_render_cons (head : Node) (accessors : List Node) :
    Chain.render inChain parens (head :: accessors) =
      head.render (!accessors.isEmpty) inChain parens ++ Chain.render true true accessors :=
  rfl

theorem chain_render_singleton (head : Node) :
    Chain.render inChain parens [head] = head.render false inChain parens :=
  List.append_nil _

/-- An operator between its operands. -/
theorem render_between {operator : BinaryOperator} (h : operator.priority < atomic)
    (left right : Chain) :
    Node.render chained inChain parens (.binary operator left right) =
      parenthesized (parens || chained)
        (Chain.render false (Chain.priority left ≤ operator.priority) left ++
          (" " ++ operator.text ++ " ").toList ++
          Chain.render false (Chain.priority right ≤ operator.priority) right) := by
  cases operator with
  | subscript | decimal => exact absurd h (by decide)
  | _ => rfl

theorem render_subscript (left right : Chain) :
    Node.render chained inChain parens (.binary .subscript left right) =
      Chain.render false false left ++
        if right.isEmpty then [] else " to ".toList ++ Chain.render false false right :=
  rfl

theorem render_decimal (left right : Chain) :
    Node.render chained inChain parens (.binary .decimal left right) =
      ".decimal(".toList ++ Chain.render false false left ++
        (if right.isEmpty then [] else ',' :: Chain.render false false right) ++ [')'] :=
  rfl

/-- A sign before its operand. -/
theorem render_sign {sign : UnaryOperator} (h : sign.priority < atomic) (operand : Chain) :
    Node.render chained inChain parens (.unary sign operand) =
      parenthesized (parens || chained) (sign.text.toList ++
        Chain.render false (Chain.priority operand ≤ sign.priority) operand) := by
  cases sign with
  | plus | minus => rfl
  | _ => exact absurd h (by decide)

theorem render_existence (operand : Chain) :
    Node.render chained inChain parens (.unary .existence operand) =
      parenthesized chained ("exists (".toList ++ Chain.render false false operand ++ [')']) :=
  rfl

theorem render_negation (operand : Chain) :
    Node.render chained inChain parens (.unary .negation operand) =
      parenthesized chained ("!(".toList ++ Chain.render false false operand ++ [')']) :=
  rfl

theorem render_isUnknown (operand : Chain) :
    Node.render chained inChain parens (.unary .isUnknown operand) =
      parenthesized chained
        ('(' :: Chain.render false false operand ++ ") is unknown".toList) :=
  rfl

/-- An accessor with an operand. -/
theorem render_unaryAccessor {operator : UnaryOperator} (h : operator.isAccessor = true)
    (operand : Chain) :
    Node.render chained inChain parens (.unary operator operand) =
      (operator.text ++ "(").toList ++ Chain.render false false operand ++ [')'] := by
  cases operator with
  | filter | datetime | time | timeTz | timestamp | timestampTz => rfl
  | _ => cases h

theorem render_likeRegex (operand : Chain) (test : Regex.Test) :
    Node.render chained inChain parens (.likeRegex operand test) =
      parenthesized (parens || chained)
        (Chain.render false true operand ++ " like_regex ".toList ++ quoted test.pattern ++
          flagText test.flags) :=
  rfl

theorem render_subscripts (items : List Chain) :
    Node.render chained inChain parens (.subscripts items) = '[' :: renderItems items ++ [']'] :=
  rfl

theorem renderItems_cons (item : Chain) (rest : List Chain) :
    renderItems (item :: rest) = Chain.render false false item ++
      (if rest.isEmpty then [] else ',' :: renderItems rest) :=
  rfl

end PathExpr
