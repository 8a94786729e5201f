import PathExpr.Proofs.Number.Readable
import PathExpr.Proofs.Parse

/-!
# PathExpr/Proofs/Signs — signs turn values exactly

A sign before a number is folded into it by turning the sign of its text, and reading the text
again.  The text is then that of the opposite value (`Writes.negateText`), whatever radix,
underscores and exponent it has, so one sign after another may be folded (`Node.Denotes.folded`).  A
number with signs and parentheses before it (`SignedNumber`) is therefore one number with the value
that the signs make.
-/

namespace PathExpr

/-! ## The sign of a text -/

/-- **The text with its sign turned writes the opposite value.** -/
theorem Writes.negateText {text : List Char} {v : ℚ} (h : Writes text v) :
    Writes (negateText text) (-v) := by
  cases h with
  | @literal sign digits power s e n k hs hm he =>
    have hturn (t : Int) : -((-t : Int) * n * 10 ^ (e - k) : ℚ) = t * n * 10 ^ (e - k) := by
      push_cast
      ring
    cases hs with
    | none =>
      rw [List.nil_append, negateText_of_unsigned (hm.unsigned_append power), ← hturn, neg_neg]
      exact .literal .minus hm he
    | plus =>
      rw [← hturn, neg_neg]
      exact .literal .minus hm he
    | minus =>
      rw [hturn]
      exact .literal .none hm he

/-- The opposite of the least integer is out of range. -/
theorem readInteger?_negateText_eq_none {text : List Char}
    (h : readInteger? text = some minInteger) : readInteger? (negateText text) = none := by
  obtain ⟨m, hm, hv⟩ := readInteger?_eq_some.mp h
  have hu := unsigned_of_readMagnitude? hm
  obtain ⟨hv, -⟩ := integerOfMagnitude?_eq_some.mp hv
  have hmin : minInteger = -maxInteger - 1 := rfl
  have hmax : 0 ≤ maxInteger := by decide
  rcases sign_cases text with ⟨rest, rfl⟩ | ⟨rest, rfl⟩ | hut
  · change -(m : Int) = minInteger at hv
    change readMagnitude? rest = some m at hm
    have hur : Unsigned rest := hu
    rw [negateText, readInteger?_eq, splitSign_of_unsigned hur, hm, Option.bind_some,
      integerOfMagnitude?]
    exact if_neg (by simp only [Bool.false_eq_true, if_false]; omega)
  · change (m : Int) = minInteger at hv
    omega
  · rw [splitSign_of_unsigned hut] at hv
    change (m : Int) = minInteger at hv
    omega

theorem Integer.negated?_eq_none {i : Integer} (h : i.value = minInteger) : i.negated? = none := by
  have hsome : i.negated?.isSome = (readInteger? (negateText i.literal.toList)).isSome := by
    rw [Integer.negated?, Integer.isSome_ofText?, String.toList_ofList]
  rw [readInteger?_negateText_eq_none (i.reads.trans (congrArg some h))] at hsome
  exact Option.not_isSome_iff_eq_none.mp (by rw [hsome]; exact Bool.false_ne_true)

/-! ## Signs before a literal -/

/-- The tokens are the token `t` with signs and parentheses before it, so many of them minuses. -/
inductive SignedNumber (t : TokenKind) : Nat → List TokenKind → Prop
  | literal : SignedNumber t 0 [t]
  | plus {minuses : Nat} {ts : List TokenKind} (h : SignedNumber t minuses ts) :
      SignedNumber t minuses (.plus :: ts)
  | minus {minuses : Nat} {ts : List TokenKind} (h : SignedNumber t minuses ts) :
      SignedNumber t (minuses + 1) (.minus :: ts)
  | group {minuses : Nat} {ts : List TokenKind} (h : SignedNumber t minuses ts) :
      SignedNumber t minuses (.openParen :: ts ++ [.closeParen])

/-- The token is a number literal of the value. -/
inductive LiteralToken : TokenKind → ℚ → Prop
  | integer {literal : String} {n : Int} (h : readInteger? literal.toList = some n) :
      LiteralToken (.integer literal) n
  | decimal {literal : String} {v : ℚ} (h : Writes literal.toList v) :
      LiteralToken (.decimal literal) v

theorem SignedNumber.mem {t : TokenKind} {minuses : Nat} {ts : List TokenKind}
    (h : SignedNumber t minuses ts) : t ∈ ts := by
  induction h with
  | literal => exact List.mem_singleton_self t
  | plus _ ih | minus _ ih => exact List.mem_cons_of_mem _ ih
  | group _ ih => exact List.mem_cons_of_mem _ (List.mem_append_left _ ih)

/-! ## Numbers and their opposites -/

variable [Regex.Engine]

/-- The node is a number with the value. -/
inductive Node.Denotes : Node → ℚ → Prop
  | integer (i : Integer) : Denotes (.integer i) i.value
  | numeric {n : Numeric} {v : ℚ} (h : Writes n.literal.toList v)
      (hc : Writes n.canonical.toList v) : Denotes (.numeric n) v

/-- A number stands wherever it likes. -/
theorem Node.Denotes.check {node : Node} {v : ℚ} (h : node.Denotes v) :
    Chain.check false false [node] = none := by
  cases h <;> rfl

/-- The node is not the least integer. -/
def Node.HasOpposite (node : Node) : Prop := ∀ i, node = .integer i → i.value ≠ minInteger

theorem Integer.fold_minus {i : Integer} (h : i.value ≠ minInteger) :
    ∃ j : Integer, Folded .minus [.integer i] [.integer j] ∧ j.value = -i.value := by
  obtain ⟨j, hj, hv, -⟩ := Integer.exists_negated? h
  exact ⟨j, .minusInteger hj, hv⟩

theorem Numeric.fold_minus {n : Numeric} {v : ℚ} (h : Writes n.literal.toList v) :
    ∃ m : Numeric, Folded .minus [.numeric n] [.numeric m] ∧ Writes m.literal.toList (-v) := by
  obtain ⟨m, hm, hl⟩ := n.exists_negated?
  refine ⟨m, .minusNumeric hm, ?_⟩
  rw [hl]
  exact h.negateText

/-- **A minus turns the value of a number.** -/
theorem Node.Denotes.folded {node : Node} {v : ℚ} (h : node.Denotes v) (hn : node.HasOpposite) :
    ∃ other : Node, Folded .minus [node] [other] ∧ other.Denotes (-v) ∧ other.HasOpposite := by
  cases h with
  | integer i =>
    obtain ⟨j, hj, hv⟩ := Integer.fold_minus (hn i rfl)
    refine ⟨.integer j, hj, ?_, ?_⟩
    · have hd := Node.Denotes.integer j
      rwa [hv, Int.cast_neg] at hd
    · rintro _ ⟨⟩
      have hmin : minInteger = -maxInteger - 1 := rfl
      have := i.inRange
      omega
  | @numeric n _ h =>
    obtain ⟨m, hm, hv⟩ := Numeric.fold_minus h
    exact ⟨.numeric m, hm, .numeric hv (Numeric.writes_canonical hv), nofun⟩

/-! ## Signs before a number -/

/-- A number token of a text is a number literal and heads a chain. -/
theorem exists_head_of_number {t : TokenKind} (h : t.Genuine) {literal : String}
    (ht : t = .integer literal ∨ t = .decimal literal) :
    ∃ node v, HeadToken t node ∧ LiteralToken t v ∧ node.Denotes v ∧ node.HasOpposite := by
  rcases ht with rfl | rfl
  · obtain ⟨i, rfl, hi⟩ := h
    refine ⟨.integer i, i.value, .integer i, .integer i.reads, .integer i, ?_⟩
    rintro _ ⟨⟩
    have hmin : minInteger < 0 := by decide
    omega
  · obtain ⟨n, rfl, hn⟩ := h
    obtain ⟨v, hv⟩ := Numeric.exists_writes hn.singleSigned
    exact ⟨.numeric n, v, .decimal n, .decimal hv, .numeric hv (Numeric.writes_canonical hv), nofun⟩

/-- A plus changes no number. -/
theorem Node.Denotes.folded_plus {node : Node} {v : ℚ} (h : node.Denotes v) :
    Folded .plus [node] [node] := by
  cases h with
  | integer i => exact .plusInteger i
  | numeric => exact .plusNumeric _

/-- **Signs before a number make one number of it.** -/
theorem SignedNumber.derives {t : TokenKind} {minuses : Nat} {ts : List TokenKind} {node : Node}
    {v : ℚ} (h : SignedNumber t minuses ts) (ht : HeadToken t node) (hv : node.Denotes v)
    (hn : node.HasOpposite) :
    ∃ other : Node, Derives (.operand .value [other]) ts ∧ other.Denotes ((-1) ^ minuses * v) ∧
      other.HasOpposite := by
  induction h with
  | literal =>
    refine ⟨node, .chain ht .noAccessors, ?_, hn⟩
    rwa [pow_zero, one_mul]
  | plus _ ih =>
    obtain ⟨other, hd, hv, hn⟩ := ih
    exact ⟨other, .signed .plus hd hv.folded_plus, hv, hn⟩
  | minus _ ih =>
    obtain ⟨other, hd, hv, hn⟩ := ih
    obtain ⟨turned, hf, hv, hn⟩ := hv.folded hn
    refine ⟨turned, .signed .minus hd hf, ?_, hn⟩
    rwa [pow_succ, mul_neg_one, neg_mul]
  | group _ ih =>
    obtain ⟨other, hd, hv, hn⟩ := ih
    exact ⟨other, .group (.alone hd), hv, hn⟩

theorem Path.parse_signedNumber {text literal : String} {s : Stream} {t : TokenKind} {minuses : Nat}
    (hs : tokens? text = .ok s) (ht : t = .integer literal ∨ t = .decimal literal)
    (h : SignedNumber t minuses (s.tokens.map Token.kind)) :
    ∃ p node v, Path.parse text = .ok p ∧ p.root = [node] ∧ LiteralToken t v ∧
      node.Denotes ((-1) ^ minuses * v) := by
  have hl : Lexes text.toList (s.tokens.map Token.kind) := tokens?_eq_ok.mp ⟨s, hs, rfl⟩
  obtain ⟨head, v, hhead, hv, hd, hn⟩ := exists_head_of_number (hl.genuine t h.mem) ht
  obtain ⟨node, hder, hden, -⟩ := h.derives hhead hd hn
  exact ⟨⟨[node], .lax, Chain.isPredicate [node], hden.check⟩, node, v,
    Path.parse_eq_ok.mpr ⟨_, hl, .bare (.alone hder), rfl⟩, rfl, hv, hden⟩

/-- **Signs turn values exactly, and nothing is refused for its sign.**  A plus changes no number.
A minus turns the value of an integer, unless that is the least one, and that of a decimal number
with one sign at most; a decimal number with two stays one.  Before anything else a sign is an
operator.  So a number with any signs and parentheses before it is one number, and its value is that
of the literal, turned once for every minus. -/
theorem signs_fold_exactly :
    (∀ i : Integer, Chain.fold .plus [.integer i] = .ok [.integer i]) ∧
    (∀ n : Numeric, Chain.fold .plus [.numeric n] = .ok [.numeric n]) ∧
    (∀ i : Integer, i.value ≠ minInteger →
      ∃ j : Integer, Chain.fold .minus [.integer i] = .ok [.integer j] ∧ j.value = -i.value) ∧
    (∀ i : Integer, i.value = minInteger →
      Chain.fold .minus [.integer i] = .ok [.unary .minus [.integer i]]) ∧
    (∀ n : Numeric, SingleSigned n.literal.toList →
      ∃ (v : ℚ) (m : Numeric), Writes n.literal.toList v ∧
        Chain.fold .minus [.numeric n] = .ok [.numeric m] ∧ Writes m.canonical.toList (-v)) ∧
    (∀ n : Numeric, ∃ m : Numeric, Chain.fold .minus [.numeric n] = .ok [.numeric m]) ∧
    (∀ c : Chain, (∀ i, c ≠ [.integer i]) → (∀ n, c ≠ [.numeric n]) →
      Chain.fold .plus c = .ok [.unary .plus c] ∧ Chain.fold .minus c = .ok [.unary .minus c]) ∧
    (∀ sign, sign = .plus ∨ sign = .minus → ∀ c, ∃ whole, Chain.fold sign c = .ok whole) ∧
    ∀ text s t literal minuses, tokens? text = .ok s →
      t = .integer literal ∨ t = .decimal literal →
      SignedNumber t minuses (s.tokens.map Token.kind) →
      ∃ p node v, Path.parse text = .ok p ∧ p.root = [node] ∧ LiteralToken t v ∧
        node.Denotes ((-1) ^ minuses * v) := by
  refine ⟨fun _ => rfl, fun _ => rfl, fun i hi => ?_, fun i hi => ?_, fun n hn => ?_, fun n => ?_,
    fun c hi hn => ?_, fun sign hs c => ?_, fun text s t literal minuses hs ht h =>
      Path.parse_signedNumber hs ht h⟩
  · obtain ⟨j, hj, hv⟩ := Integer.fold_minus hi
    exact ⟨j, fold_eq_ok.mpr hj, hv⟩
  · exact fold_eq_ok.mpr (.outOfRange (Integer.negated?_eq_none hi))
  · obtain ⟨v, hv⟩ := Numeric.exists_writes hn
    obtain ⟨m, hm, hw⟩ := Numeric.fold_minus hv
    exact ⟨v, m, hv, fold_eq_ok.mpr hm, Numeric.writes_canonical hw⟩
  · obtain ⟨m, hm, -⟩ := n.exists_negated?
    exact ⟨m, fold_eq_ok.mpr (.minusNumeric hm)⟩
  · have hc := isNumber_eq_false hi hn
    exact ⟨fold_eq_ok.mpr (.plus hc), fold_eq_ok.mpr (.minus hc)⟩
  · have ht : ∃ t, SignToken t sign := by
      rcases hs with rfl | rfl
      · exact ⟨_, .plus⟩
      · exact ⟨_, .minus⟩
    obtain ⟨t, ht⟩ := ht
    obtain ⟨whole, hw⟩ := exists_folded ht c
    exact ⟨whole, fold_eq_ok.mpr hw⟩

end PathExpr
