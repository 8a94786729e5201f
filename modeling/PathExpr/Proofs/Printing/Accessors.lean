import PathExpr.Proofs.Printing.Heads

/-!
# PathExpr/Proofs/Printing/Accessors — the texts of accessors and subscripts

Every accessor begins with a character that ends a name, so that it can follow any head, and is read
back whatever accessors follow it (`ReadAccessor`).  A chain of accessors is read back one at a time
(`readAccessors_cons`), and so is a list of subscripts.
-/

namespace PathExpr

variable [Regex.Engine]

/-- The text is read as an accessor that is the same as the node, before any others. -/
def ReadAccessor (text : List Char) (node : Node) : Prop :=
  ∃ ts node', Spells Linked text ts ∧
    (∀ {nodes : List Node} {us : List TokenKind}, Derives (.accessors nodes) us →
      Derives (.accessors (node' :: nodes)) (ts ++ us)) ∧
    Node.same node' node = true

/-- The text is read as accessors, the same as the nodes. -/
def ReadAccessors (text : List Char) (nodes : List Node) : Prop :=
  ∃ us nodes', Spells Delimited text us ∧ Derives (.accessors nodes') us ∧
    Chain.same nodes' nodes = true

/-- The text is read as a subscript, the same as the chain. -/
def ReadSubscript (text : List Char) (item : Chain) : Prop :=
  ∃ ts item', Spells Delimited text ts ∧ Derives (.subscript item') ts ∧
    Chain.same item' item = true

/-- The text is read as subscripts, the same as the chains. -/
def ReadSubscripts (text : List Char) (items : List Chain) : Prop :=
  ∃ ts items', Spells Delimited text ts ∧ Derives (.subscripts items') ts ∧
    sameItems items' items = true

variable {text text' : List Char} {node : Node} {nodes : List Node} {c : Chain}

/-! ## One accessor after another -/

theorem readAccessors_nil : ReadAccessors [] [] :=
  ⟨[], [], spells_nil, .noAccessors, rfl⟩

/-- **Accessors are read back one at a time.** -/
theorem readAccessors_cons (h : ReadAccessor text node) (h' : ReadAccessors text' nodes)
    (hl : ∀ rest, Delimited rest → Linked (text' ++ rest)) :
    ReadAccessors (text ++ text') (node :: nodes) := by
  obtain ⟨ts, node', hts, hd, hs⟩ := h
  obtain ⟨us, nodes', hus, hd', hs'⟩ := h'
  exact ⟨ts ++ us, node' :: nodes', hts.append hus hl, hd hd', same_cons.mpr ⟨hs, hs'⟩⟩

/-- The text of an accessor begins with a character that no head goes on with. -/
theorem head_render (h : node.isAccessor = true) (chained parens : Bool) :
    (node.render chained true parens).head? = some '.' ∨
      (node.render chained true parens).head? = some '[' ∨
      (node.render chained true parens).head? = some '?' := by
  cases node with
  | constant value =>
    cases value with
    | anyKey => exact .inl rfl
    | anyArray => exact .inr (.inl rfl)
    | _ => cases h
  | method m => cases m <;> exact .inl rfl
  | key | any => exact .inl rfl
  | subscripts => exact .inr (.inl rfl)
  | binary operator left right =>
    obtain rfl : operator = .decimal := of_decide_eq_true h
    exact .inl rfl
  | unary operator c =>
    cases operator with
    | filter => exact .inr (.inr rfl)
    | datetime | time | timeTz | timestamp | timestampTz => exact .inl rfl
    | _ => cases h
  | _ => cases h

/-- **Accessors, or the end of the chain, may follow any head.** -/
theorem linked_render (h : ∀ node ∈ nodes, node.isAccessor = true) {rest : List Char}
    (hr : Delimited rest) : Linked (Chain.render true true nodes ++ rest) := by
  cases nodes with
  | nil => exact hr.linked
  | cons node nodes =>
    have hhead := head_render (h node List.mem_cons_self) (!nodes.isEmpty) true
    intro c hc
    rw [chain_render_cons, List.append_assoc] at hc
    have hc' : ∀ d, (node.render (!nodes.isEmpty) true true).head? = some d → c = d := by
      intro d hd
      rw [List.head?_append, hd] at hc
      exact (Option.some.inj hc).symm
    rcases hhead with hd | hd | hd
    · exact .inr (.inl (hc' _ hd))
    · exact .inr (.inr (.inl (hc' _ hd)))
    · exact .inr (.inr (.inr (hc' _ hd)))

/-! ## Members -/

theorem readAccessor_member {ts : List TokenKind} {node' : Node}
    (h : Spells Linked ('.' :: text) (.dot :: ts)) (hm : Member ts node')
    (hs : node'.same node = true) : ReadAccessor ('.' :: text) node :=
  ⟨.dot :: ts, node', h, fun ha => .member hm ha, hs⟩

/-- **A method is read back from its name and its arguments.** -/
theorem readAccessor_method {k : Keyword} {ts : List TokenKind} {node' : Node}
    (h : Spells Delimited text ts) (ha : Arguments k ts node') (hs : node'.same node = true) :
    ReadAccessor (("." ++ k.word ++ "(").toList ++ text ++ [')']) node := by
  have htext : ("." ++ k.word ++ "(").toList ++ text ++ [')'] =
      '.' :: (k.word.toList ++ ('(' :: text ++ [')'])) := by
    simp [String.toList_append]
  rw [htext]
  exact readAccessor_member (spells_method k h).anything (.method k.word ha) hs

theorem readAccessor_anyKey : ReadAccessor ".*".toList (.constant .anyKey) :=
  readAccessor_member (spells_star.dotted fun _ => rfl) .anyKey rfl

theorem readAccessor_anyArray : ReadAccessor "[*]".toList (.constant .anyArray) := by
  have hs := spells_brackets (spells_star.mono fun _ h => h.linked)
  exact ⟨_, .constant .anyArray, hs.anything, fun ha => .allElements ha, rfl⟩

theorem readAccessor_key {name : String} (h : NulFree name) :
    ReadAccessor ('.' :: quoted name) (.key name) :=
  readAccessor_member (spells_key h).anything (.key (.string name)) (decide_eq_true rfl)

theorem readAccessor_any (first last : Level) :
    ReadAccessor ('.' :: anyText first last) (.any first last) := by
  obtain ⟨ts, hts, hm⟩ := exists_any first last
  exact readAccessor_member hts.anything hm (same_any.mpr ⟨rfl, rfl⟩)

/-! ## Methods -/

theorem readAccessor_plainMethod (m : Method) :
    ReadAccessor ("." ++ m.name ++ "()").toList (.method m) := by
  obtain ⟨k, hk⟩ := exists_keyword m
  have hs : ReadAccessor _ (.method m) :=
    readAccessor_method spells_nil (.none hk) (decide_eq_true rfl)
  rw [hk] at hs
  simpa [String.toList_append] using hs

omit [Regex.Engine] in
/-- The word that names a method with a precision. -/
theorem exists_word {operator : UnaryOperator} (h : TakesPrecision operator) :
    ∃ k : Keyword, "." ++ k.word = operator.text := by
  cases h
  · exact ⟨.time, rfl⟩
  · exact ⟨.timeTz, rfl⟩
  · exact ⟨.timestamp, rfl⟩
  · exact ⟨.timestampTz, rfl⟩

/-- **A conversion to a time is read back**, -/
theorem readAccessor_time {operator : UnaryOperator} (hp : TakesPrecision operator)
    (hc : c = [] ∨ ∃ i, c = [.integer i] ∧ 0 ≤ i.value) :
    ReadAccessor ((operator.text ++ "(").toList ++ Chain.render false false c ++ [')'])
      (.unary operator c) := by
  obtain ⟨k, hk⟩ := exists_word hp
  rw [← hk]
  rcases hc with rfl | ⟨i, rfl, hi⟩
  · exact readAccessor_method spells_nil (.noPrecision hp hk) (same_unary.mpr ⟨rfl, rfl⟩)
  · obtain ⟨j, hj, hs⟩ := exists_integerToken hi
    rw [chain_render_singleton]
    exact readAccessor_method hj (.timePrecision j hp hk)
      (same_unary.mpr ⟨rfl, same_singleton.mpr hs⟩)

/-- **…and so is one to a date and a time**, -/
theorem readAccessor_datetime (hc : c = [] ∨ ∃ value, c = [.string value])
    (hw : c.WellShaped) :
    ReadAccessor
      ((UnaryOperator.datetime.text ++ "(").toList ++ Chain.render false false c ++ [')'])
      (.unary .datetime c) := by
  rcases hc with rfl | ⟨value, rfl⟩
  · exact readAccessor_method (k := .datetime) spells_nil .noTemplate (same_unary.mpr ⟨rfl, rfl⟩)
  · rw [chain_render_singleton]
    exact readAccessor_method (k := .datetime) (spells_quoted (wellShaped_singleton.mp hw)).anything
      (.template value) (same_unary.mpr ⟨rfl, same_singleton.mpr (decide_eq_true rfl)⟩)

/-- **…and one to a decimal number.** -/
theorem readAccessor_decimal {left right : Chain}
    (h : (left = [] ∧ right = []) ∨ (left.IsArgument ∧ (right = [] ∨ right.IsArgument))) :
    ReadAccessor (".decimal(".toList ++ Chain.render false false left ++
      (if right.isEmpty then [] else ',' :: Chain.render false false right) ++ [')'])
      (.binary .decimal left right) := by
  have harg {i : Integer} : Chain.render false false [.integer i] = i.canonical.toList :=
    chain_render_singleton _
  rcases h with ⟨rfl, rfl⟩ | ⟨⟨i, rfl, hi⟩, rfl | ⟨j, rfl, hj⟩⟩
  · exact readAccessor_method (k := .decimal) spells_nil .noDecimal
      (same_binary.mpr ⟨rfl, rfl, rfl⟩)
  · obtain ⟨ts, d, hts, hd, hs⟩ := exists_signedInteger hi
    rw [harg, List.append_assoc ".decimal(".toList]
    refine readAccessor_method (k := .decimal) ?_ (.precision hd) (same_binary.mpr ⟨rfl, hs, rfl⟩)
    simpa using hts
  · obtain ⟨ts, d, hts, hd, hs⟩ := exists_signedInteger hi
    obtain ⟨us, e, hus, he, hs'⟩ := exists_signedInteger hj
    rw [harg, List.append_assoc ".decimal(".toList]
    refine readAccessor_method (k := .decimal) ?_ (.precisionAndScale hd he)
      (same_binary.mpr ⟨rfl, hs, hs'⟩)
    have hcomma := (spells_symbol .comma).append hus fun _ _ => trivial
    rw [← harg (i := j)] at hcomma
    exact hts.append hcomma fun _ _ => delimited_cons (by decide)

/-! ## Filters and subscripts -/

/-- **A filter is read back.** -/
theorem readAccessor_filter (h : ReadBack text 0 c) (hc : Role.of c = .predicate) :
    ReadAccessor ((UnaryOperator.filter.text ++ "(").toList ++ text ++ [')'])
      (.unary .filter c) := by
  obtain ⟨ts, d, hts, hd, hs⟩ := h
  rw [hc] at hd
  refine ⟨_, .unary .filter d,
    ((spells_symbol .question).append (spells_parentheses hts) fun _ _ => trivial).anything,
    fun ha => ?_, same_unary.mpr ⟨rfl, hs⟩⟩
  simpa using Derives.filter hd ha

/-- **A list of subscripts is read back.** -/
theorem readAccessor_subscripts {items : List Chain} (h : ReadSubscripts text items) :
    ReadAccessor ('[' :: text ++ [']']) (.subscripts items) := by
  obtain ⟨ts, items', hts, hd, hs⟩ := h
  refine ⟨_, .subscripts items', (spells_brackets hts).anything, fun ha => ?_, hs⟩
  simpa using Derives.elements hd ha

theorem readSubscript_index (h : ReadBack text 0 c) (hc : Role.of c = .value) :
    ReadSubscript text [.binary .subscript c []] := by
  obtain ⟨ts, d, hts, hd, hs⟩ := h
  rw [hc] at hd
  exact ⟨ts, [.binary .subscript d []], hts, .index hd,
    same_singleton.mpr (same_binary.mpr ⟨rfl, hs, rfl⟩)⟩

theorem readSubscript_range {first last : Chain} (h : ReadBack text 0 first)
    (h' : ReadBack text' 0 last) (hf : Role.of first = .value) (hl : Role.of last = .value) :
    ReadSubscript (text ++ (" to ".toList ++ text')) [.binary .subscript first last] := by
  obtain ⟨ts, d, hts, hd, hs⟩ := h
  obtain ⟨us, e, hus, he, hs'⟩ := h'
  rw [hf] at hd
  rw [hl] at he
  have hto := (spells_between .toWord).append hus fun _ _ => trivial
  exact ⟨_, [.binary .subscript d e], hts.append hto fun _ _ => delimited_cons (by decide),
    .range Keyword.toWord.word hd he, same_singleton.mpr (same_binary.mpr ⟨rfl, hs, hs'⟩)⟩

theorem readSubscripts_last {item : Chain} (h : ReadSubscript text item) :
    ReadSubscripts text [item] := by
  obtain ⟨ts, item', hts, hd, hs⟩ := h
  exact ⟨ts, [item'], hts, .lastItem hd, sameItems_cons.mpr ⟨hs, rfl⟩⟩

theorem readSubscripts_cons {item : Chain} {items : List Chain} (h : ReadSubscript text item)
    (h' : ReadSubscripts text' items) : ReadSubscripts (text ++ ',' :: text') (item :: items) := by
  obtain ⟨ts, item', hts, hd, hs⟩ := h
  obtain ⟨us, items', hus, hd', hs'⟩ := h'
  have hcomma := (spells_symbol .comma).append hus fun _ _ => trivial
  exact ⟨_, item' :: items', hts.append hcomma fun _ _ => delimited_cons (by decide),
    .moreItems hd hd', sameItems_cons.mpr ⟨hs, hs'⟩⟩

end PathExpr
