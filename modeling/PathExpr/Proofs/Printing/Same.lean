import PathExpr.Proofs.Number.Printed
import PathExpr.Proofs.Printing.Layout

/-!
# PathExpr/Proofs/Printing/Same — same chains have one text

Same nodes may differ in how their numbers are spelt and of which kind these are, but nothing that
is written, nor where a constant may stand, depends on it.
-/

namespace PathExpr

variable [Regex.Engine]

/-! ## Sameness by parts -/

theorem same_binary {a b : BinaryOperator} {left right left' right' : Chain} :
    Node.same (.binary a left right) (.binary b left' right') = true ↔
      a = b ∧ left.same left' = true ∧ right.same right' = true := by
  change (decide (a = b) && left.same left' && right.same right') = true ↔ _
  rw [Bool.and_eq_true, Bool.and_eq_true, decide_eq_true_eq, and_assoc]

theorem same_unary {a b : UnaryOperator} {c d : Chain} :
    Node.same (.unary a c) (.unary b d) = true ↔ a = b ∧ c.same d = true := by
  change (decide (a = b) && c.same d) = true ↔ _
  rw [Bool.and_eq_true, decide_eq_true_eq]

theorem same_likeRegex {a b : Regex.Test} {c d : Chain} :
    Node.same (.likeRegex c a) (.likeRegex d b) = true ↔ c.same d = true ∧ a = b := by
  change (c.same d && decide (a = b)) = true ↔ _
  rw [Bool.and_eq_true, decide_eq_true_eq]

theorem same_any {first last first' last' : Level} :
    Node.same (.any first last) (.any first' last') = true ↔ first = first' ∧ last = last' := by
  change (decide (first = first') && decide (last = last')) = true ↔ _
  rw [Bool.and_eq_true, decide_eq_true_eq, decide_eq_true_eq]

theorem same_cons {a b : Node} {c d : Chain} :
    Chain.same (a :: c) (b :: d) = true ↔ a.same b = true ∧ c.same d = true :=
  Bool.and_eq_true_iff

theorem sameItems_cons {c d : Chain} {items others : List Chain} :
    sameItems (c :: items) (d :: others) = true ↔
      c.same d = true ∧ sameItems items others = true :=
  Bool.and_eq_true_iff

/-! ## What is alike in same chains -/

/-- What same nodes have in common. -/
structure Node.Alike (a b : Node) : Prop where
  render (chained inChain parens : Bool) :
    a.render chained inChain parens = b.render chained inChain parens
  check (hasCurrent hasLast : Bool) : a.check hasCurrent hasLast = b.check hasCurrent hasLast
  priority : a.priority = b.priority
  isPredicate : a.isPredicate = b.isPredicate

/-- What same chains have in common. -/
structure Chain.Alike (c d : Chain) : Prop where
  render (inChain parens : Bool) : c.render inChain parens = d.render inChain parens
  check (hasCurrent hasLast : Bool) : c.check hasCurrent hasLast = d.check hasCurrent hasLast
  priority : c.priority = d.priority
  isPredicate : c.isPredicate = d.isPredicate
  isEmpty : c.isEmpty = d.isEmpty

/-- What same subscripts have in common. -/
structure AlikeItems (items others : List Chain) : Prop where
  render : renderItems items = renderItems others
  check (hasCurrent : Bool) : checkItems hasCurrent items = checkItems hasCurrent others
  isEmpty : items.isEmpty = others.isEmpty

/-! ## One node at a time -/

theorem Node.Alike.of_eq {a b : Node} (h : a = b) : a.Alike b := by
  subst h
  exact ⟨fun _ _ _ => rfl, fun _ _ => rfl, rfl, rfl⟩

theorem render_number {node : Node} {text : List Char} (h : node.number? = some text)
    (chained inChain parens : Bool) :
    node.render chained inChain parens = parenthesized chained text := by
  cases node with
  | numeric | integer => exact congrArg (parenthesized chained) (Option.some.inj h)
  | _ => cases h

theorem isPredicate_cons (a : Node) (c : Chain) :
    Chain.isPredicate (a :: c) = (c.isEmpty && a.isPredicate) := by
  cases c <;> rfl

/-- Numbers of one canonical text are alike. -/
theorem alike_of_number? {a b : Node} {text : List Char} (ha : a.number? = some text)
    (hb : b.number? = some text) : a.Alike b where
  render chained inChain parens := by rw [render_number ha, render_number hb]
  check hasCurrent hasLast := by
    have h {c : Node} (hc : c.number? = some text) : c.check hasCurrent hasLast = none := by
      cases c with
      | numeric | integer => rfl
      | _ => cases hc
    rw [h ha, h hb]
  priority := by
    have h {c : Node} (hc : c.number? = some text) : c.priority = atomic := by
      cases c with
      | numeric | integer => rfl
      | _ => cases hc
    rw [h ha, h hb]
  isPredicate := by
    have h {c : Node} (hc : c.number? = some text) : c.isPredicate = false := by
      cases c with
      | numeric | integer => rfl
      | _ => cases hc
    rw [h ha, h hb]

theorem alike_binary (operator : BinaryOperator) {left left' right right' : Chain}
    (hl : left.Alike left') (hr : right.Alike right') :
    Node.Alike (.binary operator left right) (.binary operator left' right') := by
  refine ⟨fun chained inChain parens => ?_, fun hasCurrent hasLast => ?_, rfl, rfl⟩
  · cases operator with
    | subscript => rw [render_subscript, render_subscript, hl.render, hr.render, hr.isEmpty]
    | decimal => rw [render_decimal, render_decimal, hl.render, hr.render, hr.isEmpty]
    | _ =>
      rw [render_between (by decide), render_between (by decide), hl.render, hr.render, hl.priority,
        hr.priority]
  · change (Chain.check hasCurrent hasLast left).or (Chain.check hasCurrent hasLast right) = _
    rw [hl.check, hr.check]
    rfl

theorem alike_unary (operator : UnaryOperator) {c d : Chain} (h : c.Alike d) :
    Node.Alike (.unary operator c) (.unary operator d) := by
  refine ⟨fun chained inChain parens => ?_, fun hasCurrent hasLast => h.check _ _, rfl, rfl⟩
  cases operator with
  | existence => rw [render_existence, render_existence, h.render]
  | negation => rw [render_negation, render_negation, h.render]
  | isUnknown => rw [render_isUnknown, render_isUnknown, h.render]
  | plus | minus => rw [render_sign (by decide), render_sign (by decide), h.render, h.priority]
  | _ => rw [render_unaryAccessor rfl, render_unaryAccessor rfl, h.render]

theorem alike_likeRegex (test : Regex.Test) {c d : Chain} (h : c.Alike d) :
    Node.Alike (.likeRegex c test) (.likeRegex d test) := by
  refine ⟨fun chained inChain parens => ?_, fun hasCurrent hasLast => h.check _ _, rfl, rfl⟩
  rw [render_likeRegex, render_likeRegex, h.render]

theorem alike_subscripts {items others : List Chain} (h : AlikeItems items others) :
    Node.Alike (.subscripts items) (.subscripts others) := by
  refine ⟨fun chained inChain parens => ?_, fun hasCurrent hasLast => h.check _, rfl, rfl⟩
  rw [render_subscripts, render_subscripts, h.render]

/-! ## How nodes can be the same -/

/-- The ways in which one node can be the same as another. -/
inductive Node.SameBy : Node → Node → Prop
  | equal (a : Node) : SameBy a a
  | number {a b : Node} {text : List Char} (ha : a.number? = some text)
      (hb : b.number? = some text) : SameBy a b
  | binary (operator : BinaryOperator) {left right left' right' : Chain}
      (hl : left.same left' = true) (hr : right.same right' = true) :
      SameBy (.binary operator left right) (.binary operator left' right')
  | unary (operator : UnaryOperator) {c d : Chain} (h : c.same d = true) :
      SameBy (.unary operator c) (.unary operator d)
  | likeRegex (test : Regex.Test) {c d : Chain} (h : c.same d = true) :
      SameBy (.likeRegex c test) (.likeRegex d test)
  | subscripts {items others : List Chain} (h : sameItems items others = true) :
      SameBy (.subscripts items) (.subscripts others)

/-- **Same nodes are the same in one of these ways.** -/
theorem sameBy_of_same {a b : Node} (h : a.same b = true) : a.SameBy b := by
  have hequal {node : Node} (e : a = node) : a.SameBy node := e ▸ .equal a
  cases a with
  | constant x =>
    cases b with
    | constant y => exact hequal (congrArg _ (of_decide_eq_true h))
    | _ => cases h
  | method x =>
    cases b with
    | method y => exact hequal (congrArg _ (of_decide_eq_true h))
    | _ => cases h
  | string x =>
    cases b with
    | string y => exact hequal (congrArg _ (of_decide_eq_true h))
    | _ => cases h
  | key x =>
    cases b with
    | key y => exact hequal (congrArg _ (of_decide_eq_true h))
    | _ => cases h
  | «variable» x =>
    cases b with
    | «variable» y => exact hequal (congrArg _ (of_decide_eq_true h))
    | _ => cases h
  | numeric n =>
    cases b with
    | numeric m =>
      have e : n.canonical = m.canonical := of_decide_eq_true h
      exact .number rfl (by rw [e]; rfl)
    | integer j =>
      have e : n.canonical = j.canonical := of_decide_eq_true h
      exact .number rfl (by rw [e]; rfl)
    | _ => cases h
  | integer i =>
    cases b with
    | numeric m =>
      have e : i.canonical = m.canonical := of_decide_eq_true h
      exact .number rfl (by rw [e]; rfl)
    | integer j =>
      have e : i.value = j.value := of_decide_eq_true h
      exact .number rfl (by rw [Integer.canonical, e]; rfl)
    | _ => cases h
  | binary operator left right =>
    cases b with
    | binary operator' left' right' =>
      obtain ⟨rfl, hl, hr⟩ := same_binary.mp h
      exact .binary operator hl hr
    | _ => cases h
  | unary operator c =>
    cases b with
    | unary operator' d =>
      obtain ⟨rfl, hc⟩ := same_unary.mp h
      exact .unary operator hc
    | _ => cases h
  | likeRegex c test =>
    cases b with
    | likeRegex d test' =>
      obtain ⟨hc, rfl⟩ := same_likeRegex.mp h
      exact .likeRegex test hc
    | _ => cases h
  | subscripts items =>
    cases b with
    | subscripts others => exact .subscripts h
    | _ => cases h
  | any first last =>
    cases b with
    | any first' last' =>
      obtain ⟨rfl, rfl⟩ := same_any.mp h
      exact .equal _
    | _ => cases h

/-! ## Whole chains -/

mutual

/-- Same nodes are alike. -/
theorem Node.alike {a b : Node} (h : a.same b = true) : a.Alike b := by
  cases sameBy_of_same h with
  | equal => exact .of_eq rfl
  | number ha hb => exact alike_of_number? ha hb
  | binary operator hl hr => exact alike_binary operator (Chain.alike hl) (Chain.alike hr)
  | unary operator hc => exact alike_unary operator (Chain.alike hc)
  | likeRegex test hc => exact alike_likeRegex test (Chain.alike hc)
  | subscripts hi => exact alike_subscripts (alike_items hi)
termination_by sizeOf a

/-- **Same chains are alike.** -/
theorem Chain.alike : ∀ {c d : Chain}, c.same d = true → c.Alike d
  | [], [], _ => ⟨fun _ _ => rfl, fun _ _ => rfl, rfl, rfl, rfl⟩
  | a :: as, b :: bs, h => by
    obtain ⟨ha, has⟩ := same_cons.mp h
    have hhead := Node.alike ha
    have hrest := Chain.alike has
    refine ⟨fun inChain parens => ?_, fun hasCurrent hasLast => ?_, hhead.priority, ?_, rfl⟩
    · rw [chain_render_cons, chain_render_cons, hrest.isEmpty, hhead.render, hrest.render]
    · change (Node.check hasCurrent hasLast a).or (Chain.check hasCurrent hasLast as) = _
      rw [hhead.check, hrest.check]
      rfl
    · rw [isPredicate_cons, isPredicate_cons, hhead.isPredicate, hrest.isEmpty]
  | [], _ :: _, h => by cases h
  | _ :: _, [], h => by cases h
termination_by c => sizeOf c

/-- Same subscripts are alike. -/
theorem alike_items : ∀ {items others : List Chain}, sameItems items others = true →
    AlikeItems items others
  | [], [], _ => ⟨rfl, fun _ => rfl, rfl⟩
  | a :: as, b :: bs, h => by
    obtain ⟨ha, has⟩ := sameItems_cons.mp h
    have hhead := Chain.alike ha
    have hrest := alike_items has
    refine ⟨?_, fun hasCurrent => ?_, rfl⟩
    · rw [renderItems_cons, renderItems_cons, hhead.render, hrest.isEmpty, hrest.render]
    · change (Chain.check hasCurrent true a).or (checkItems hasCurrent as) = _
      rw [hhead.check, hrest.check]
      rfl
  | [], _ :: _, h => by cases h
  | _ :: _, [], h => by cases h
termination_by items => sizeOf items

end

end PathExpr
