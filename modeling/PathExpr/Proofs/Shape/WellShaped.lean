import PathExpr.Proofs.Lexical.Genuine
import PathExpr.Proofs.Syntax.Derivation

/-!
# PathExpr/Proofs/Shape/WellShaped — chains that paths are made of

Nodes have no types, and nothing keeps a chain from holding a comparison of comparisons or a number
as an accessor.  `Chain.WellShaped` says of every node of a chain that its operands are what its
operator wants (`BinaryOperator.Admits`, `UnaryOperator.Admits`) and that its texts can be written,
and `Chain.Linked` that a chain is a head with accessors after it.
-/

namespace PathExpr

variable [Regex.Engine]

/-! ## Heads and accessors -/

/-- Whether the operator makes an accessor. -/
def UnaryOperator.isAccessor : UnaryOperator → Bool
  | .filter | .datetime | .time | .timeTz | .timestamp | .timestampTz => true
  | _ => false

/-- Whether the node stands after another in a chain. -/
def Node.isAccessor : Node → Bool
  | .constant value => value = .anyKey || value = .anyArray
  | .method _ | .key _ | .subscripts _ | .any _ _ => true
  | .unary operator _ => operator.isAccessor
  | .binary operator _ _ => operator = .decimal
  | _ => false

/-- Whether the node heads a chain: it is no accessor, nor is it a subscript. -/
def Node.isHead : Node → Bool
  | .binary .subscript _ _ => false
  | node => !node.isAccessor

/-- A head and accessors. -/
inductive Chain.Linked : Chain → Prop
  | intro {head : Node} {accessors : List Node} (h : head.isHead = true)
      (ha : ∀ node ∈ accessors, node.isAccessor = true) : Linked (head :: accessors)

/-- The chain is there and has the role. -/
def Chain.Fills (role : Role) (c : Chain) : Prop := c.Linked ∧ Role.of c = role

/-- The chain is an integer without accessors whose opposite is in range. -/
def Chain.IsArgument (c : Chain) : Prop := ∃ i, c = [.integer i] ∧ i.value ≠ minInteger

/-- The chain is a subscript without accessors. -/
def Chain.IsSubscript (c : Chain) : Prop := ∃ left right, c = [.binary .subscript left right]

/-! ## Operands -/

/-- The operator may have these two operands. -/
def BinaryOperator.Admits : BinaryOperator → Chain → Chain → Prop
  | .and, left, right => left.Fills .predicate ∧ right.Fills .predicate
  | .or, left, right => left.Fills .predicate ∧ right.Fills .predicate
  | .startsWith, left, right => left.Fills .value ∧
      ((∃ value, right = [.string value]) ∨ ∃ name, right = [.variable name])
  | .subscript, left, right => left.Fills .value ∧ (right = [] ∨ right.Fills .value)
  | .decimal, left, right => (left = [] ∧ right = []) ∨
      (left.IsArgument ∧ (right = [] ∨ right.IsArgument))
  | _, left, right => left.Fills .value ∧ right.Fills .value

/-- The operator may have this operand. -/
def UnaryOperator.Admits : UnaryOperator → Chain → Prop
  | .negation, c => c.Fills .predicate
  | .isUnknown, c => c.Fills .predicate
  | .filter, c => c.Fills .predicate
  | .existence, c => c.Fills .value
  | .plus, c => c.Fills .value ∧ c.isNumber = false
  | .minus, c => c.Fills .value ∧ c.isNumber = false
  | .datetime, c => c = [] ∨ ∃ value, c = [.string value]
  | .time, c => c = [] ∨ ∃ i, c = [.integer i] ∧ 0 ≤ i.value
  | .timeTz, c => c = [] ∨ ∃ i, c = [.integer i] ∧ 0 ≤ i.value
  | .timestamp, c => c = [] ∨ ∃ i, c = [.integer i] ∧ 0 ≤ i.value
  | .timestampTz, c => c = [] ∨ ∃ i, c = [.integer i] ∧ 0 ≤ i.value

mutual

/-- The node and all nodes of its operands have the operands and the texts that they may have. -/
def Node.WellShaped : Node → Prop
  | .constant _ => True
  | .method _ => True
  | .string value => NulFree value
  | .key name => NulFree name
  | .variable name => NulFree name
  | .numeric n => SingleSigned n.literal.toList
  | .integer _ => True
  | .binary operator left right =>
    operator.Admits left right ∧ Chain.WellShaped left ∧ Chain.WellShaped right
  | .unary operator operand => operator.Admits operand ∧ Chain.WellShaped operand
  | .likeRegex operand test =>
    Chain.Fills .value operand ∧ NulFree test.pattern ∧ Chain.WellShaped operand
  | .subscripts items =>
    items ≠ [] ∧ (∀ item ∈ items, Chain.IsSubscript item) ∧ itemsWellShaped items
  | .any _ _ => True

/-- All nodes of the chain are well shaped. -/
def Chain.WellShaped : Chain → Prop
  | [] => True
  | head :: accessors => Node.WellShaped head ∧ Chain.WellShaped accessors

/-- All subscripts are well shaped. -/
def itemsWellShaped : List Chain → Prop
  | [] => True
  | item :: rest => Chain.WellShaped item ∧ itemsWellShaped rest

end

theorem wellShaped_iff_forall {c : Chain} : c.WellShaped ↔ ∀ node ∈ c, node.WellShaped := by
  induction c with
  | nil => simp [Chain.WellShaped]
  | cons head accessors ih => rw [Chain.WellShaped, ih, List.forall_mem_cons]

theorem itemsWellShaped_iff_forall {items : List Chain} :
    itemsWellShaped items ↔ ∀ item ∈ items, item.WellShaped := by
  induction items with
  | nil => simp [itemsWellShaped]
  | cons item rest ih => rw [itemsWellShaped, ih, List.forall_mem_cons]

theorem wellShaped_singleton {node : Node} : Chain.WellShaped [node] ↔ node.WellShaped := by
  rw [wellShaped_iff_forall, List.forall_mem_singleton]

theorem wellShaped_append {c d : Chain} :
    Chain.WellShaped (c ++ d) ↔ c.WellShaped ∧ d.WellShaped := by
  simp only [wellShaped_iff_forall, List.forall_mem_append]

theorem linked_singleton {node : Node} (h : node.isHead = true) : Chain.Linked [node] :=
  .intro h (by simp)

theorem Chain.Linked.ne_nil {c : Chain} (h : c.Linked) : c ≠ [] := by
  cases h
  simp

theorem Chain.Linked.append {c : Chain} {nodes : List Node} (h : c.Linked)
    (hn : ∀ node ∈ nodes, node.isAccessor = true) : Chain.Linked (c ++ nodes) := by
  obtain ⟨h, ha⟩ := h
  exact .intro h (List.forall_mem_append.mpr ⟨ha, hn⟩)

end PathExpr
