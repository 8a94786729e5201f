import PathExpr.Chain.Build

/-!
# PathExpr/Proofs/Folded — signs before values

A sign before a number becomes part of the number, if the result is in range, and before anything
else it stays an operator.  `Folded` has one case for each way this may go.
-/

namespace PathExpr

variable [Regex.Engine]

/-- Whether the chain is a number without accessors. -/
def Chain.isNumber : Chain → Bool
  | [.integer _] => true
  | [.numeric _] => true
  | _ => false

/-- The sign before the first chain makes the second. -/
inductive Folded : UnaryOperator → Chain → Chain → Prop
  | plusInteger (i : Integer) : Folded .plus [.integer i] [.integer i]
  | plusNumeric (n : Numeric) : Folded .plus [.numeric n] [.numeric n]
  | plus {c : Chain} (h : c.isNumber = false) : Folded .plus c [.unary .plus c]
  | minusInteger {i j : Integer} (h : i.negated? = some j) : Folded .minus [.integer i] [.integer j]
  | outOfRange {i : Integer} (h : i.negated? = none) :
      Folded .minus [.integer i] [.unary .minus [.integer i]]
  | minusNumeric {n m : Numeric} (h : n.negated? = some m) : Folded .minus [.numeric n] [.numeric m]
  | minus {c : Chain} (h : c.isNumber = false) : Folded .minus c [.unary .minus c]

variable {sign : UnaryOperator} {c whole : Chain}

theorem isNumber_eq_false (hi : ∀ i, c = [.integer i] → False)
    (hn : ∀ n, c = [.numeric n] → False) : c.isNumber = false := by
  unfold Chain.isNumber
  split
  · exact (hi _ rfl).elim
  · exact (hn _ rfl).elim
  · rfl

theorem number_cases (h : c.isNumber = true) :
    (∃ i, c = [.integer i]) ∨ ∃ n, c = [.numeric n] := by
  unfold Chain.isNumber at h
  split at h
  · exact .inl ⟨_, rfl⟩
  · exact .inr ⟨_, rfl⟩
  · cases h

theorem folded_affirm (c : Chain) : Folded .plus c c.affirm := by
  unfold Chain.affirm
  split
  · exact .plusInteger _
  · exact .plusNumeric _
  next hi hn => exact .plus (isNumber_eq_false hi hn)

theorem negate_eq_ok : c.negate = .ok whole ↔ Folded .minus c whole := by
  unfold Chain.negate
  constructor
  · intro h
    split at h
    · split at h
      next hj =>
        obtain rfl := Except.ok.inj h
        exact .minusInteger hj
      next hj =>
        obtain rfl := Except.ok.inj h
        exact .outOfRange hj
    · split at h
      next hm =>
        obtain rfl := Except.ok.inj h
        exact .minusNumeric hm
      · cases h
    next hi hn =>
      obtain rfl := Except.ok.inj h
      exact .minus (isNumber_eq_false hi hn)
  · intro h
    cases h with
    | minusInteger h | outOfRange h | minusNumeric h => simp only [h]
    | minus h =>
      split
      · cases h
      · cases h
      · rfl

/-- **A sign makes of a value what it is folded to, and nothing else.** -/
theorem fold_eq_ok : c.fold sign = .ok whole ↔ Folded sign c whole := by
  cases sign with
  | plus =>
    constructor
    · intro h
      obtain rfl := Except.ok.inj h
      exact folded_affirm c
    · intro h
      cases h with
      | plusInteger | plusNumeric => rfl
      | plus h =>
        change Except.ok c.affirm = _
        unfold Chain.affirm
        split
        · cases h
        · cases h
        · rfl
  | minus => exact negate_eq_ok
  | _ => exact ⟨nofun, nofun⟩

end PathExpr
