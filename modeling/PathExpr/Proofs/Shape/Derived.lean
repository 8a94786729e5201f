import PathExpr.Proofs.Shape.WellShaped

/-!
# PathExpr/Proofs/Shape/Derived — derived chains are well shaped

What the tokens of a text derive is linked and well shaped (`shaped_of_derives`), by induction on
the derivation.  The induction carries one fact more: an integer without accessors is not the least
one, as the literals of tokens have no sign; so a minus before it always becomes part of it.
-/

namespace PathExpr

variable [Regex.Engine]

/-- The chain is linked and well shaped, and if it is an integer, its opposite is in range. -/
structure Chain.Shaped (c : Chain) : Prop where
  linked : c.Linked
  wellShaped : c.WellShaped
  ne_min : ∀ i, c = [.integer i] → i.value ≠ minInteger

/-- The trees of the phrase are shaped. -/
def Phrase.Shaped : Phrase → Prop
  | .expression _ _ c => c.Shaped
  | .operand _ c => c.Shaped
  | .accessors nodes => ∀ node ∈ nodes, node.isAccessor = true ∧ node.WellShaped
  | .subscript item => item.IsSubscript ∧ item.WellShaped
  | .subscripts items => items ≠ [] ∧ ∀ item ∈ items, item.IsSubscript ∧ item.WellShaped

/-! ## Single nodes -/

theorem shaped_node {node : Node} (hh : node.isHead = true) (hw : node.WellShaped)
    (hi : ∀ i, node = .integer i → i.value ≠ minInteger) : Chain.Shaped [node] := by
  refine ⟨linked_singleton hh, wellShaped_singleton.mpr hw, fun i h => hi i ?_⟩
  exact (List.cons.inj h).1

theorem Chain.Shaped.fills {c : Chain} (h : c.Shaped) {role : Role} (hr : Role.of c = role) :
    c.Fills role := ⟨h.linked, hr⟩

/-- Accessors may be added. -/
theorem Chain.Shaped.append {c : Chain} {nodes : List Node} (h : c.Shaped)
    (hn : ∀ node ∈ nodes, node.isAccessor = true ∧ node.WellShaped) :
    Chain.Shaped (c ++ nodes) where
  linked := h.linked.append fun node hm => (hn node hm).1
  wellShaped := wellShaped_append.mpr
    ⟨h.wellShaped, wellShaped_iff_forall.mpr fun node hm => (hn node hm).2⟩
  ne_min i e := by
    rcases List.append_eq_singleton_iff.mp e with ⟨hc, -⟩ | ⟨hc, -⟩
    · exact absurd hc h.linked.ne_nil
    · exact h.ne_min i hc

omit [Regex.Engine] in
/-- An integer that is not below zero is not the least one. -/
theorem ne_minInteger_of_nonneg {n : Int} (h : 0 ≤ n) : n ≠ minInteger := by
  rintro rfl
  exact absurd h (by decide)

omit [Regex.Engine] in
/-- The opposite of an integer literal is not the least integer, if the literal is not. -/
theorem neg_ne_minInteger (i : Integer) : -i.value ≠ minInteger := by
  have hhigh := i.inRange.2
  have hmin : minInteger = -maxInteger - 1 := rfl
  omega

theorem shaped_integer {i : Integer} (h : i.value ≠ minInteger) : Chain.Shaped [.integer i] :=
  shaped_node rfl trivial fun _ e => Node.integer.inj e ▸ h

theorem shaped_numeric {n : Numeric} (h : SingleSigned n.literal.toList) :
    Chain.Shaped [.numeric n] :=
  shaped_node rfl h nofun

theorem shaped_unary {operator : UnaryOperator} {c : Chain} (ho : operator.isAccessor = false)
    (ha : operator.Admits c) (hc : c.WellShaped) : Chain.Shaped [.unary operator c] :=
  shaped_node (by simp [Node.isHead, Node.isAccessor, ho]) ⟨ha, hc⟩ nofun

/-- The sign of a shaped value makes a shaped value. -/
theorem shaped_folded {sign : UnaryOperator} {c whole : Chain} (h : Folded sign c whole)
    (hv : Role.of c = .value) (hc : c.Shaped) : whole.Shaped := by
  cases h with
  | plusInteger | plusNumeric => exact hc
  | plus h | minus h => exact shaped_unary rfl ⟨hc.fills hv, h⟩ hc.wellShaped
  | @minusInteger i j h =>
    obtain ⟨j', hj', hv', -⟩ := Integer.exists_negated? (hc.ne_min i rfl)
    obtain rfl := Option.some.inj (h.symm.trans hj')
    exact shaped_integer (hv' ▸ neg_ne_minInteger i)
  | @outOfRange i h =>
    obtain ⟨j, hj, -⟩ := Integer.exists_negated? (hc.ne_min i rfl)
    exact absurd (h.symm.trans hj) nofun
  | @minusNumeric n m h =>
    obtain ⟨m', hm', hl⟩ := n.exists_negated?
    obtain rfl := Option.some.inj (h.symm.trans hm')
    have hs : SingleSigned n.literal.toList := wellShaped_singleton.mp hc.wellShaped
    exact shaped_numeric (hl ▸ hs.negateText)

/-! ## Phrases of tokens alone -/

omit [Regex.Engine] in
/-- An integer token stands for an integer that is not below zero. -/
theorem nonneg_of_genuine {i : Integer} (h : (TokenKind.integer i.literal).Genuine) :
    0 ≤ i.value := by
  obtain ⟨j, hj, hv⟩ := h
  obtain rfl : i = j :=
    Option.some.inj ((Integer.ofText?_eq_some.mpr rfl).symm.trans (Integer.ofText?_eq_some.mpr hj))
  exact hv

theorem shaped_head {t : TokenKind} {head : Node} (h : HeadToken t head) (ht : t.Genuine) :
    Chain.Shaped [head] := by
  cases h with
  | string | «variable» => exact shaped_node rfl ht nofun
  | integer i => exact shaped_integer (ne_minInteger_of_nonneg (nonneg_of_genuine ht))
  | decimal n =>
    obtain ⟨-, -, hu⟩ := ht
    exact shaped_numeric hu.singleSigned
  | _ => exact shaped_node rfl trivial nofun

omit [Regex.Engine] in
/-- A name token carries a name without the character zero. -/
theorem nulFree_of_nameToken {t : TokenKind} {name : String} (h : NameToken t name)
    (ht : t.Genuine) : NulFree name := by
  cases h with
  | name | string | keyword => exact ht
  | trueWord | falseWord | nullWord => unfold NulFree; decide

theorem isArgument_of_signedInteger {ts : List TokenKind} {c : Chain} (h : SignedInteger ts c)
    (ht : AllGenuine ts) : c.IsArgument := by
  cases h with
  | plain i =>
    exact ⟨i, rfl, ne_minInteger_of_nonneg (nonneg_of_genuine ht.head)⟩
  | @signed t sign i c hs hf =>
    have hmin := ne_minInteger_of_nonneg (nonneg_of_genuine ht.tail.head)
    obtain ⟨j', hj', hv, -⟩ := Integer.exists_negated? hmin
    cases hf with
    | plusInteger => exact ⟨i, rfl, hmin⟩
    | @minusInteger _ j h =>
      obtain rfl := Option.some.inj (h.symm.trans hj')
      exact ⟨j, rfl, hv ▸ neg_ne_minInteger i⟩
    | outOfRange h => exact absurd (h.symm.trans hj') nofun
    | plus h | minus h => cases h

theorem wellShaped_argument {c : Chain} (h : c.IsArgument) : c.WellShaped := by
  obtain ⟨i, rfl, -⟩ := h
  exact wellShaped_singleton.mpr trivial

/-- A precision is an integer that is not below zero, or left out. -/
theorem shaped_precision {operator : UnaryOperator} {c : Chain} (hp : TakesPrecision operator)
    (h : c = [] ∨ ∃ i, c = [.integer i] ∧ 0 ≤ i.value) :
    (Node.unary operator c).isAccessor = true ∧ (Node.unary operator c).WellShaped := by
  have hc : c.WellShaped := by
    rcases h with rfl | ⟨i, rfl, -⟩
    · trivial
    · exact wellShaped_singleton.mpr trivial
  cases hp <;> exact ⟨rfl, h, hc⟩

theorem shaped_arguments {word : Keyword} {ts : List TokenKind} {node : Node}
    (h : Arguments word ts node) (ht : AllGenuine ts) :
    node.isAccessor = true ∧ node.WellShaped := by
  cases h with
  | none => exact ⟨rfl, trivial⟩
  | noDecimal => exact ⟨rfl, .inl ⟨rfl, rfl⟩, trivial, trivial⟩
  | precision h =>
    have ha := isArgument_of_signedInteger h ht
    exact ⟨rfl, .inr ⟨ha, .inl rfl⟩, wellShaped_argument ha, trivial⟩
  | precisionAndScale h h' =>
    have ha := isArgument_of_signedInteger h ht.left
    have ha' := isArgument_of_signedInteger h' ht.right.tail
    exact ⟨rfl, .inr ⟨ha, .inr ha'⟩, wellShaped_argument ha, wellShaped_argument ha'⟩
  | noTemplate => exact ⟨rfl, .inl rfl, trivial⟩
  | template value =>
    exact ⟨rfl, .inr ⟨value, rfl⟩, wellShaped_singleton.mpr ht.head⟩
  | noPrecision hp => exact shaped_precision hp (.inl rfl)
  | timePrecision i hp =>
    exact shaped_precision hp (.inr ⟨i, rfl, nonneg_of_genuine ht.head⟩)

theorem shaped_member {ts : List TokenKind} {node : Node} (h : Member ts node)
    (ht : AllGenuine ts) : node.isAccessor = true ∧ node.WellShaped := by
  cases h with
  | key h => exact ⟨rfl, nulFree_of_nameToken h ht.head⟩
  | method spelling h => exact shaped_arguments h ht.left.tail.tail
  | anyKey | any | anyAt | anyBetween => exact ⟨rfl, trivial⟩

/-! ## Derivations -/

theorem admits_of_dyadic {operand whole : Role} {tier : Nat} {t : TokenKind}
    {operator : BinaryOperator} (ht : Dyadic operand whole tier t operator) {left right : Chain}
    (hl : left.Fills operand) (hr : right.Fills operand) : operator.Admits left right ∧
      (Node.binary operator left right).isHead = true := by
  cases ht <;> exact ⟨⟨hl, hr⟩, rfl⟩

/-- **What the tokens of a text derive is well shaped.** -/
theorem shaped_of_derives {phrase : Phrase} {ts : List TokenKind} (h : Derives phrase ts)
    (ht : AllGenuine ts) : phrase.Shaped := by
  induction h with
  | alone _ ih => exact ih ht
  | @dyadic operand whole level tier t operator left right ls rs hd hp hl hr ihl ihr =>
    have hsl : left.Shaped := ihl ht.left
    have hsr : right.Shaped := ihr ht.right.tail
    obtain ⟨ha, hh⟩ := admits_of_dyadic hd (hsl.fills hl.typed.2) (hsr.fills hr.typed.2)
    exact shaped_node hh ⟨ha, hsl.wellShaped, hsr.wellShaped⟩ nofun
  | @startsWith level t initial left ls starts withWord hi hp hl ihl =>
    have hsl : left.Shaped := ihl ht.left
    have htok := ht.right.tail.tail.head
    cases hi with
    | string value =>
      exact shaped_node rfl ⟨⟨hsl.fills hl.typed.2, .inl ⟨value, rfl⟩⟩, hsl.wellShaped,
        wellShaped_singleton.mpr htok⟩ nofun
    | «variable» name =>
      exact shaped_node rfl ⟨⟨hsl.fills hl.typed.2, .inr ⟨name, rfl⟩⟩, hsl.wellShaped,
        wellShaped_singleton.mpr htok⟩ nofun
  | @likeRegex level left ls fs spelling test hf hp hl ihl =>
    have hsl : left.Shaped := ihl ht.left
    have htok := ht.right.tail.head
    exact shaped_node rfl ⟨hsl.fills hl.typed.2, htok, hsl.wellShaped⟩ nofun
  | signed hs h hc ih =>
    exact shaped_folded hc h.typed.2 (ih ht.tail)
  | @negation c ts h ih =>
    have hc : c.Shaped := ih ht.left.tail.tail
    exact shaped_unary rfl (hc.fills h.typed.2) hc.wellShaped
  | @existence c ts spelling h ih =>
    have hc : c.Shaped := ih ht.left.tail.tail
    exact shaped_unary rfl (hc.fills h.typed.2) hc.wellShaped
  | @noExistence c ts spelling h ih =>
    have hc : c.Shaped := ih ht.left.tail.tail.tail
    have he : Chain.Shaped [.unary .existence c] :=
      shaped_unary rfl (hc.fills h.typed.2) hc.wellShaped
    exact shaped_unary rfl (he.fills rfl) he.wellShaped
  | @unknownTest c ts is unknown h ih =>
    have hc : c.Shaped := ih ht.left.tail
    exact shaped_unary rfl (hc.fills h.typed.2) hc.wellShaped
  | group _ ih => exact ih ht.left.tail
  | @groupChain role c nodes ts us h ha hn ih iha =>
    have hc : c.Shaped := ih ht.left.tail
    exact hc.append (iha ht.right.tail)
  | @chain t head nodes us hh ha iha =>
    exact (shaped_head hh ht.head).append (iha ht.tail)
  | noAccessors => exact nofun
  | member h _ iha =>
    exact List.forall_mem_cons.mpr ⟨shaped_member h ht.left.tail,
      iha ht.right⟩
  | allElements _ iha =>
    exact List.forall_mem_cons.mpr ⟨⟨rfl, trivial⟩, iha ht.tail.tail.tail⟩
  | elements _ _ ih iha =>
    obtain ⟨hne, hitems⟩ := ih ht.left.tail
    refine List.forall_mem_cons.mpr ⟨⟨rfl, hne, fun item hi => (hitems item hi).1, ?_⟩,
      iha ht.right.tail⟩
    exact itemsWellShaped_iff_forall.mpr fun item hi => (hitems item hi).2
  | @filter c nodes ts us h _ ih iha =>
    have hc : c.Shaped := ih ht.left.tail.tail
    exact List.forall_mem_cons.mpr ⟨⟨rfl, hc.fills h.typed.2, hc.wellShaped⟩,
      iha ht.right.tail⟩
  | @index c ts h ih =>
    have hc : c.Shaped := ih ht
    exact ⟨⟨c, [], rfl⟩, wellShaped_singleton.mpr
      ⟨⟨hc.fills h.typed.2, .inl rfl⟩, hc.wellShaped, trivial⟩⟩
  | @range first last ts us spelling h h' ih ih' =>
    have hc : first.Shaped := ih ht.left
    have hd : last.Shaped := ih' ht.right.tail
    exact ⟨⟨first, last, rfl⟩, wellShaped_singleton.mpr
      ⟨⟨hc.fills h.typed.2, .inr (hd.fills h'.typed.2)⟩, hc.wellShaped, hd.wellShaped⟩⟩
  | lastItem _ ih => exact ⟨by simp, List.forall_mem_singleton.mpr (ih ht)⟩
  | moreItems _ _ ih ih' =>
    obtain ⟨-, hrest⟩ := ih' ht.right.tail
    exact ⟨by simp, List.forall_mem_cons.mpr ⟨ih ht.left, hrest⟩⟩

end PathExpr
