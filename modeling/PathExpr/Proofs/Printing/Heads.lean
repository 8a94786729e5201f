import PathExpr.Proofs.Printing.ReadBack

/-!
# PathExpr/Proofs/Printing/Heads — the texts of heads

A head is plain, and stands as it is wherever it stands, or it is put in parentheses if accessors
follow (`render_chained`) and perhaps if an operator is around it (`render_parens`).  Numbers are
read back as numbers with the same canonical text, their sign being read as an operator.
-/

namespace PathExpr

variable [Regex.Engine] {text : List Char} {head node : Node} {inChain parens : Bool}

/-! ## Parentheses around heads -/

/-- Whether the node stands without parentheses even if accessors follow. -/
def Node.isPlain : Node → Bool
  | .constant _ | .string _ | .variable _ => true
  | _ => false

/-- The highest level of an expression that the node, on its own, may stand for. -/
def Node.level : Node → Nat
  | .binary operator _ _ => operator.priority
  | .likeRegex _ _ => BinaryOperator.startsWith.priority
  | _ => atomic

/-- **Before accessors a head that is not plain stands in parentheses.** -/
theorem render_chained (hh : head.isHead = true) (hp : head.isPlain = false) :
    head.render true inChain parens = '(' :: head.render false false false ++ [')'] := by
  cases head with
  | constant | string | «variable» => cases hp
  | method | key | subscripts | any => cases hh
  | numeric | integer => rfl
  | binary operator left right =>
    cases operator with
    | subscript | decimal => cases hh
    | _ => cases parens <;> rfl
  | unary operator c =>
    cases operator with
    | existence | negation | isUnknown => rfl
    | plus | minus => cases parens <;> rfl
    | _ => cases hh
  | likeRegex => cases parens <;> rfl

/-- **Where parentheses are asked for, only operands go without them.** -/
theorem render_parens (hh : head.isHead = true) :
    head.render false false true = '(' :: head.render false false false ++ [')'] ∨
      head.render false false true = head.render false false false ∧ head.level = atomic := by
  cases head with
  | constant | string | «variable» | numeric | integer => exact .inr ⟨rfl, rfl⟩
  | method | key | subscripts | any => cases hh
  | binary operator left right =>
    cases operator with
    | subscript | decimal => cases hh
    | _ => exact .inl rfl
  | unary operator c =>
    cases operator with
    | existence | negation | isUnknown => exact .inr ⟨rfl, rfl⟩
    | plus | minus => exact .inl rfl
    | _ => cases hh
  | likeRegex => exact .inl rfl

/-- A node that binds more tightly than an operator around it is of a level above it, a pattern test
being no operand of any but `&&` and `||`. -/
theorem lt_level {p : Nat} (h : p < node.priority) (hp : p ≤ 1 ∨ Role.of [node] = .value) :
    p < node.level := by
  cases node with
  | binary => exact h
  | likeRegex =>
    rcases hp with hp | hp
    · exact Nat.lt_succ_of_le hp
    · cases hp
  | unary operator c =>
    have hle : operator.priority ≤ atomic := by cases operator <;> decide
    exact Nat.lt_of_lt_of_le h hle
  | _ => exact h

/-! ## Plain heads -/

/-- **A plain head is one token.** -/
theorem exists_headToken (hh : head.isHead = true) (hp : head.isPlain = true)
    (hw : head.WellShaped) (chained : Bool) :
    ∃ t, Spells Linked (head.render chained inChain parens) [t] ∧ HeadToken t head := by
  have hword {w : List Char} {t : TokenKind} (h : Spells EndsName w [t]) : Spells Linked w [t] :=
    h.mono fun _ h => h.endsName
  cases head with
  | constant value =>
    have htext : (Node.constant value).render chained inChain parens = value.text.toList := by
      cases value with
      | anyKey => cases hh
      | _ => cases inChain <;> rfl
    rw [htext]
    cases value with
    | root => exact ⟨_, spells_dollar, .root⟩
    | current => exact ⟨_, (spells_symbol .atSign).anything, .current⟩
    | last => exact ⟨_, hword (spells_keyword .last), .last _⟩
    | anyArray | anyKey => cases hh
    | trueWord =>
      exact ⟨_, hword (spells_lower ⟨'t', rfl, by decide⟩ (by decide) (by decide)), .trueWord⟩
    | falseWord =>
      exact ⟨_, hword (spells_lower ⟨'f', rfl, by decide⟩ (by decide) (by decide)), .falseWord⟩
    | nullWord =>
      exact ⟨_, hword (spells_lower ⟨'n', rfl, by decide⟩ (by decide) (by decide)), .nullWord⟩
  | string value => exact ⟨_, (spells_quoted hw).anything, .string value⟩
  | «variable» name => exact ⟨_, (spells_variable hw).anything, .variable name⟩
  | _ => cases hp

theorem same_of_isPlain (h : node.isPlain = true) : node.same node = true := by
  cases node with
  | constant | string | «variable» => exact decide_eq_true rfl
  | _ => cases h

theorem role_of_isPlain (h : node.isPlain = true) : Role.of [node] = .value := by
  cases node with
  | constant | string | «variable» => rfl
  | _ => cases h

theorem readOperand_plain (hh : head.isHead = true) (hp : head.isPlain = true)
    (hw : head.WellShaped) : ReadOperand (head.render false false false) [head] := by
  obtain ⟨t, ht, hd⟩ := exists_headToken hh hp hw false
  refine ⟨[t], [head], ht.mono fun _ h => h.linked, ?_, same_singleton.mpr (same_of_isPlain hp)⟩
  rw [role_of_isPlain hp]
  exact .chain hd .noAccessors

/-! ## Numbers -/

theorem number_role (h : node.number? = some text) : Role.of [node] = .value := by
  cases node with
  | numeric | integer => rfl
  | _ => cases h

/-- **A number is read back from its canonical text.** -/
theorem readOperand_number (h : node.number? = some text) (hw : node.WellShaped) :
    ReadOperand text [node] := by
  obtain ⟨whole, fraction, hplain, hread, htext⟩ := exists_plain h (by rintro n rfl; exact hw)
  obtain ⟨t, hk, node', hhead, hnum, hneg⟩ := exists_number hplain hread
  have hspell := spells_plain hplain hk
  unfold ReadOperand
  rw [number_role h]
  rcases htext with rfl | ⟨rfl, hne⟩
  · exact ⟨[t], [node'], hspell, .chain hhead .noAccessors,
      same_singleton.mpr (same_of_number? hnum h)⟩
  · obtain ⟨opposite, hfold, hopp⟩ := hneg hne
    exact ⟨[.minus, t], [opposite],
      (spells_symbol .minus).append hspell fun _ _ => trivial,
      .signed .minus (.chain hhead .noAccessors) hfold,
      same_singleton.mpr (same_of_number? hopp h)⟩

/-! ## Integers as arguments -/

omit [Regex.Engine] in
theorem exists_integer {n : Nat} {m : Int} (h : readInteger? (Nat.toDigits 10 n) = some m) :
    ∃ j : Integer, j.literal = String.ofList (Nat.toDigits 10 n) ∧ j.value = m :=
  ⟨⟨String.ofList (Nat.toDigits 10 n), m, by rwa [String.toList_ofList]⟩, rfl, rfl⟩

/-- **A signed integer is read back, unless it is the least one.** -/
theorem exists_signedInteger {i : Integer} (h : i.value ≠ minInteger) :
    ∃ ts d, Spells Delimited i.canonical.toList ts ∧ SignedInteger ts d ∧
      Chain.same d [.integer i] = true := by
  have hread := Integer.readInteger?_natAbs h
  have hspell := spells_toDigits hread
  obtain ⟨j, hj, hv⟩ := exists_integer hread
  rw [← hj] at hspell
  rcases i.canonical_cases with htext | ⟨htext, hne⟩
  · refine ⟨_, [.integer j], by rwa [htext], .plain j, same_singleton.mpr ?_⟩
    have hj : Node.number? (.integer j) = some i.canonical.toList := by
      rw [Node.number?, canonical_of_nonneg hv, htext]
    exact same_of_number? hj rfl
  · have hmin : j.value ≠ minInteger := by
      have hneg : minInteger < 0 := by decide
      omega
    obtain ⟨k, hk, hkv, -⟩ := Integer.exists_negated? hmin
    have hminus := (spells_symbol .minus).append hspell fun _ _ => trivial
    refine ⟨_, [.integer k], by rw [htext]; exact hminus, .signed j .minus (.minusInteger hk),
      same_singleton.mpr ?_⟩
    have h0 : i.value.natAbs ≠ 0 := fun h0 => hne (by rw [h0]; rfl)
    have hk : Node.number? (.integer k) = some i.canonical.toList := by
      rw [Node.number?, canonical_of_neg (by rw [hkv, hv]) h0, htext]
    exact same_of_number? hk rfl

/-- **An integer that is not negative is one token.** -/
theorem exists_integerToken {i : Integer} (h : 0 ≤ i.value) :
    ∃ j : Integer, Spells Delimited i.canonical.toList [.integer j.literal] ∧
      Node.same (.integer j) (.integer i) = true := by
  have hmin : i.value ≠ minInteger := by
    have hneg : minInteger < 0 := by decide
    omega
  have hread := Integer.readInteger?_natAbs hmin
  have hspell := spells_toDigits hread
  obtain ⟨j, hj, hv⟩ := exists_integer hread
  have hvalue : i.value = i.value.natAbs := by omega
  refine ⟨j, ?_, decide_eq_true (hv.trans hvalue.symm)⟩
  rwa [hj, canonical_of_nonneg hvalue]

end PathExpr
