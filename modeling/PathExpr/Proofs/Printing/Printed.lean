import PathExpr.Proofs.Printing.Accessors

/-!
# PathExpr/Proofs/Printing/Printed — well-shaped chains are read back

The texts of all well-shaped chains, by induction on their nodes.  A node that is a head is read
back at its own level, and with parentheses at every level; what the printer asks for around an
operand is enough for the operand to stand there (`Chain.Printed.operand`).
-/

namespace PathExpr

variable [Regex.Engine]

/-- The node is read back wherever it may stand. -/
structure Node.Printed (node : Node) : Prop where
  head : node.isHead = true → ReadBack (node.render false false false) node.level [node]
  accessor (chained parens : Bool) : node.isAccessor = true →
    ReadAccessor (node.render chained true parens) node
  subscript : Chain.IsSubscript [node] → ReadSubscript (node.render false false false) [node]

/-- The chain is read back wherever it may stand. -/
structure Chain.Printed (c : Chain) : Prop where
  linked (parens : Bool) {level : Nat} : c.Linked →
    (parens = true ∨ ∀ node, c = [node] → level ≤ node.level) →
    ReadBack (c.render false parens) level c
  accessors : (∀ node ∈ c, node.isAccessor = true) → ReadAccessors (c.render true true) c
  subscript : c.IsSubscript → ReadSubscript (c.render false false) c

variable {c left right : Chain} {node head : Node}

/-! ## Chains from their nodes -/

/-- **A head without accessors is read back at any level, if in parentheses, or at its own.** -/
theorem Node.Printed.alone (h : head.Printed) (hh : head.isHead = true) {parens : Bool}
    {level : Nat} (hl : parens = true ∨ level ≤ head.level) :
    ReadBack (head.render false false parens) level [head] := by
  have hbare := h.head hh
  cases parens with
  | false => exact hbare.mono (hl.resolve_left Bool.false_ne_true)
  | true =>
    rcases render_parens hh with htext | ⟨htext, hlevel⟩
    · rw [htext]
      exact hbare.parentheses.readBack level
    · rw [htext]
      exact (hbare.operand (by rw [hlevel]; decide)).readBack level

/-- **A head with accessors is read back at any level.** -/
theorem Node.Printed.chained (h : head.Printed) (hh : head.isHead = true) (hw : head.WellShaped)
    {nodes : List Node} (hn : nodes ≠ []) (hacc : ∀ node ∈ nodes, node.isAccessor = true)
    (hread : ReadAccessors (Chain.render true true nodes) nodes) {parens : Bool} (level : Nat) :
    ReadBack (head.render true false parens ++ Chain.render true true nodes) level
      (head :: nodes) := by
  obtain ⟨us, nodes', hus, hd', hs'⟩ := hread
  have hrole : Role.of (head :: nodes) = .value :=
    Role.of_eq_value.mpr (isPredicate_append (List.cons_ne_nil head []) hn)
  unfold ReadBack
  rw [hrole]
  cases hp : head.isPlain with
  | true =>
    obtain ⟨t, ht, hd⟩ := exists_headToken hh hp hw true
    exact ⟨t :: us, head :: nodes', ht.append hus fun _ hr => linked_render hacc hr,
      .alone (.chain hd hd'), same_cons.mpr ⟨same_of_isPlain hp, hs'⟩⟩
  | false =>
    obtain ⟨ts, d, hts, hd, hs⟩ := (h.head hh).mono (Nat.zero_le _)
    have hne : nodes' ≠ [] := by
      rintro rfl
      cases nodes with
      | nil => exact hn rfl
      | cons => cases hs'
    have hgroup := (spells_parentheses hts).append hus fun _ _ => trivial
    rw [render_chained hh hp]
    refine ⟨_, d ++ nodes', ?_, .alone (.groupChain hd hd' hne), ?_⟩
    · rw [List.append_assoc (.openParen :: ts)] at hgroup
      exact hgroup
    · match d, hs with
      | [a], hs => exact same_cons.mpr ⟨same_singleton.mp hs, hs'⟩
      | _ :: _ :: _, hs => cases (same_cons.mp hs).2

theorem Chain.Printed.nil : Chain.Printed [] where
  linked _ _ h := nomatch h
  accessors _ := readAccessors_nil
  subscript := by
    rintro ⟨_, _, h⟩
    cases h

/-- **A chain is read back if its nodes are.** -/
theorem Node.Printed.cons (h : head.Printed) (hw : head.WellShaped) {nodes : Chain}
    (hn : nodes.Printed) : Chain.Printed (head :: nodes) where
  linked parens level hlink hl := by
    cases hlink with
    | intro hh hacc =>
      cases nodes with
      | nil =>
        rw [chain_render_singleton]
        exact h.alone hh (hl.imp_right fun hl => hl head rfl)
      | cons => exact h.chained hh hw (List.cons_ne_nil _ _) hacc (hn.accessors hacc) level
  accessors hacc := by
    obtain ⟨hhead, hrest⟩ := List.forall_mem_cons.mp hacc
    exact readAccessors_cons (h.accessor _ _ hhead) (hn.accessors hrest) fun _ hr =>
      linked_render hrest hr
  subscript hsub := by
    obtain ⟨left, right, he⟩ := hsub
    obtain ⟨rfl, rfl⟩ := List.cons.inj he
    rw [chain_render_singleton]
    exact h.subscript ⟨left, right, rfl⟩

/-! ## Operands -/

theorem Chain.Printed.whole (h : c.Printed) {role : Role} (hf : c.Fills role) (parens : Bool) :
    ReadBack (c.render false parens) 0 c :=
  h.linked parens hf.1 (.inr fun _ _ => Nat.zero_le _)

/-- **An operand is in parentheses where it needs them.** -/
theorem Chain.Printed.operand (h : c.Printed) {role : Role} (hf : c.Fills role) {p : Nat}
    (hp : p ≤ 1 ∨ role = .value) :
    ReadBack (c.render false (Chain.priority c ≤ p)) (p + 1) c := by
  refine h.linked _ hf.1 ?_
  by_cases hle : Chain.priority c ≤ p
  · exact .inl (decide_eq_true hle)
  · refine .inr fun node e => ?_
    subst e
    exact lt_level (Nat.lt_of_not_le hle) (hp.imp_right fun hrole => hf.2.trans hrole)

/-! ## Nodes from their operands -/

theorem isAccessor_of_isHead (h : node.isHead = true) : node.isAccessor = false := by
  cases node with
  | binary operator left right =>
    cases operator with
    | subscript | decimal => cases h
    | _ => rfl
  | _ => simpa [Node.isHead] using h

theorem printed_plain (hh : node.isHead = true) (hp : node.isPlain = true)
    (hw : node.WellShaped) : node.Printed where
  head _ := (readOperand_plain hh hp hw).readBack _
  accessor _ _ h := absurd (h.symm.trans (isAccessor_of_isHead hh)) (by decide)
  subscript := by
    rintro ⟨_, _, e⟩
    obtain rfl := (List.cons.inj e).1
    cases hp

theorem printed_number {text : List Char} (h : node.number? = some text) (hw : node.WellShaped) :
    node.Printed where
  head _ := by
    rw [render_number h]
    exact (readOperand_number h hw).readBack _
  accessor _ _ h' := by
    cases node with
    | numeric | integer => cases h'
    | _ => cases h
  subscript := by
    rintro ⟨_, _, e⟩
    obtain rfl := (List.cons.inj e).1
    cases h

/-- An accessor is read back if it is so as one. -/
theorem printed_accessor (h : node.isAccessor = true)
    (hread : ∀ chained parens, ReadAccessor (node.render chained true parens) node) :
    node.Printed where
  head hh := absurd (h.symm.trans (isAccessor_of_isHead hh)) (by decide)
  accessor chained parens _ := hread chained parens
  subscript := by
    rintro ⟨_, _, e⟩
    obtain rfl := (List.cons.inj e).1
    cases h

theorem printed_dyadic {operand whole : Role} {tier : Nat} {t : TokenKind}
    {operator : BinaryOperator} (ht : Dyadic operand whole tier t operator)
    (hfl : left.Fills operand) (hfr : right.Fills operand) (hl : left.Printed)
    (hr : right.Printed) : Node.Printed (.binary operator left right) where
  head _ := by
    have hp : tier ≤ 1 ∨ operand = .value := by
      cases ht <;> first | exact .inr rfl | exact .inl (by decide)
    have hlt := tier_lt_of_dyadic ht
    obtain rfl := ht.priority_eq
    rw [render_between (Nat.lt_succ_of_lt hlt)]
    exact readBack_dyadic ht ((hl.operand hfl hp).mono (Nat.le_succ _)) (hr.operand hfr hp) hfl.2
      hfr.2
  accessor _ _ h := by cases ht <;> cases h
  subscript := by
    rintro ⟨_, _, e⟩
    cases ht <;> cases e

theorem printed_startsWith (hf : left.Fills .value) (hl : left.Printed) (hw : right.WellShaped)
    (hr : (∃ value, right = [.string value]) ∨ ∃ name, right = [.variable name]) :
    Node.Printed (.binary .startsWith left right) where
  head _ := by
    have hleft := (hl.operand hf (.inr rfl)).mono (Nat.le_succ BinaryOperator.startsWith.priority)
    rw [render_between (by decide)]
    rcases hr with ⟨value, rfl⟩ | ⟨name, rfl⟩
    · rw [chain_render_singleton]
      exact readBack_startsWith (.string value) (spells_quoted (wellShaped_singleton.mp hw))
        (decide_eq_true rfl) hleft hf.2
    · rw [chain_render_singleton]
      exact readBack_startsWith (.variable name) (spells_variable (wellShaped_singleton.mp hw))
        (decide_eq_true rfl) hleft hf.2
  accessor _ _ h := by cases h
  subscript := by
    rintro ⟨_, _, e⟩
    cases e

theorem printed_likeRegex {test : Regex.Test} (hf : left.Fills .value) (hl : left.Printed)
    (hp : NulFree test.pattern) : Node.Printed (.likeRegex left test) where
  head _ := by
    have hleft : ReadBack (left.render false true) BinaryOperator.startsWith.priority left :=
      hl.linked true hf.1 (.inl rfl)
    exact readBack_likeRegex hp hleft hf.2
  accessor _ _ h := by cases h
  subscript := by
    rintro ⟨_, _, e⟩
    cases e

theorem printed_subscript (hf : left.Fills .value) (hr : right = [] ∨ right.Fills .value)
    (hl : left.Printed) (hrp : right.Printed) :
    Node.Printed (.binary .subscript left right) where
  head h := by cases h
  accessor _ _ h := by cases h
  subscript _ := by
    rw [render_subscript]
    rcases hr with rfl | hr
    · rw [List.isEmpty_nil, if_pos rfl, List.append_nil]
      exact readSubscript_index (hl.whole hf false) hf.2
    · have hne : right.isEmpty = false := by simpa using hr.1.ne_nil
      rw [hne, if_neg Bool.false_ne_true]
      exact readSubscript_range (hl.whole hf false) (hrp.whole hr false) hf.2 hr.2

/-- **A node with two operands is read back if they are.** -/
theorem printed_binary {operator : BinaryOperator} (h : operator.Admits left right)
    (hw : right.WellShaped) (hl : left.Printed) (hr : right.Printed) :
    Node.Printed (.binary operator left right) := by
  cases operator with
  | and => exact printed_dyadic .and h.1 h.2 hl hr
  | or => exact printed_dyadic .or h.1 h.2 hl hr
  | equal => exact printed_dyadic .equal h.1 h.2 hl hr
  | notEqual => exact printed_dyadic .notEqual h.1 h.2 hl hr
  | less => exact printed_dyadic .less h.1 h.2 hl hr
  | lessEqual => exact printed_dyadic .lessEqual h.1 h.2 hl hr
  | greater => exact printed_dyadic .greater h.1 h.2 hl hr
  | greaterEqual => exact printed_dyadic .greaterEqual h.1 h.2 hl hr
  | add => exact printed_dyadic .add h.1 h.2 hl hr
  | sub => exact printed_dyadic .sub h.1 h.2 hl hr
  | mul => exact printed_dyadic .mul h.1 h.2 hl hr
  | div => exact printed_dyadic .div h.1 h.2 hl hr
  | mod => exact printed_dyadic .mod h.1 h.2 hl hr
  | startsWith => exact printed_startsWith h.1 hl hw h.2
  | subscript => exact printed_subscript h.1 h.2 hl hr
  | decimal => exact printed_accessor rfl fun _ _ => readAccessor_decimal h

/-- An operator that is neither an accessor nor a sign. -/
theorem printed_test {operator : UnaryOperator}
    (hread : ReadOperand (Node.render false false false (.unary operator c)) [.unary operator c])
    (ho : operator.isAccessor = false) : Node.Printed (.unary operator c) where
  head _ := hread.readBack _
  accessor _ _ h := absurd (h.symm.trans ho) (by decide)
  subscript := by
    rintro ⟨_, _, e⟩
    cases e

theorem printed_sign {t : TokenKind} {sign : UnaryOperator} (ht : SignToken t sign)
    (hf : c.Fills .value) (hn : c.isNumber = false) (hc : c.Printed) :
    Node.Printed (.unary sign c) := by
  refine printed_test ?_ (by cases ht <;> rfl)
  have hp : sign.priority = 5 := by cases ht <;> rfl
  rw [render_sign (by rw [hp]; decide)]
  exact readOperand_sign ht ((hc.operand hf (.inr rfl)).operand (by omega)) hf.2 hn

/-- **A node with one operand is read back if the operand is.** -/
theorem printed_unary {operator : UnaryOperator} (h : operator.Admits c) (hw : c.WellShaped)
    (hc : c.Printed) : Node.Printed (.unary operator c) := by
  cases operator with
  | existence => exact printed_test (readOperand_existence (hc.whole h false) h.2) rfl
  | negation => exact printed_test (readOperand_negation (hc.whole h false) h.2) rfl
  | isUnknown => exact printed_test (readOperand_isUnknown (hc.whole h false) h.2) rfl
  | plus => exact printed_sign .plus h.1 h.2 hc
  | minus => exact printed_sign .minus h.1 h.2 hc
  | filter => exact printed_accessor rfl fun _ _ => readAccessor_filter (hc.whole h false) h.2
  | datetime => exact printed_accessor rfl fun _ _ => readAccessor_datetime h hw
  | time => exact printed_accessor rfl fun _ _ => readAccessor_time .time h
  | timeTz => exact printed_accessor rfl fun _ _ => readAccessor_time .timeTz h
  | timestamp => exact printed_accessor rfl fun _ _ => readAccessor_time .timestamp h
  | timestampTz => exact printed_accessor rfl fun _ _ => readAccessor_time .timestampTz h

/-! ## All nodes -/

mutual

/-- Well-shaped nodes are read back. -/
theorem Node.printed : ∀ {node : Node}, node.WellShaped → node.Printed
  | .constant .anyKey, _ => printed_accessor rfl fun _ _ => readAccessor_anyKey
  | .constant .anyArray, _ => printed_accessor rfl fun _ _ => readAccessor_anyArray
  | .constant .root, hw => printed_plain rfl rfl hw
  | .constant .current, hw => printed_plain rfl rfl hw
  | .constant .last, hw => printed_plain rfl rfl hw
  | .constant .trueWord, hw => printed_plain rfl rfl hw
  | .constant .falseWord, hw => printed_plain rfl rfl hw
  | .constant .nullWord, hw => printed_plain rfl rfl hw
  | .method m, _ => printed_accessor rfl fun _ _ => readAccessor_plainMethod m
  | .string _, hw => printed_plain rfl rfl hw
  | .key _, hw => printed_accessor rfl fun _ _ => readAccessor_key hw
  | .variable _, hw => printed_plain rfl rfl hw
  | .numeric _, hw => printed_number rfl hw
  | .integer _, hw => printed_number rfl hw
  | .binary _ _ _, hw => printed_binary hw.1 hw.2.2 (Chain.printed hw.2.1) (Chain.printed hw.2.2)
  | .unary _ _, hw => printed_unary hw.1 hw.2 (Chain.printed hw.2)
  | .likeRegex _ _, hw => printed_likeRegex hw.1 (Chain.printed hw.2.2) hw.2.1
  | .subscripts _, hw => printed_accessor rfl fun _ _ =>
      readAccessor_subscripts (readSubscripts_items hw.1 hw.2.1 hw.2.2)
  | .any first last, _ => printed_accessor rfl fun _ _ => readAccessor_any first last

/-- **Well-shaped chains are read back.** -/
theorem Chain.printed : ∀ {c : Chain}, c.WellShaped → c.Printed
  | [], _ => .nil
  | _ :: _, hw => (Node.printed hw.1).cons hw.1 (Chain.printed hw.2)

/-- Well-shaped subscripts are read back. -/
theorem readSubscripts_items : ∀ {items : List Chain}, items ≠ [] →
    (∀ item ∈ items, item.IsSubscript) → itemsWellShaped items →
    ReadSubscripts (renderItems items) items
  | [], hne, _, _ => absurd rfl hne
  | [item], _, hsub, hw => by
    have hone := (Chain.printed hw.1).subscript (hsub item List.mem_cons_self)
    rw [renderItems_cons, List.isEmpty_nil, if_pos rfl, List.append_nil]
    exact readSubscripts_last hone
  | item :: next :: rest, _, hsub, hw =>
    readSubscripts_cons ((Chain.printed hw.1).subscript (hsub item List.mem_cons_self))
      (readSubscripts_items (List.cons_ne_nil _ _)
        (fun item' h => hsub item' (List.mem_cons_of_mem _ h)) hw.2)

end

end PathExpr
