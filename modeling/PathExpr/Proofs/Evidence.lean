import PathExpr.Chain.Build

/-!
# PathExpr/Proofs/Evidence — values that carry the evidence of their text

Integers, decimal numbers and pattern tests hold the text that they come from with a proof that it
is accepted.  So reading that text gives the value back, and reading gives no other: each reader
below answers with a value exactly when the value holds the text.
-/

namespace PathExpr

/-- **An integer is what its own literal writes.** -/
theorem Integer.ofText?_eq_some {text : String} {i : Integer} :
    Integer.ofText? text = some i ↔ i.literal = text := by
  unfold Integer.ofText?
  constructor
  · intro h
    split at h
    · obtain rfl := Option.some.inj h
      rfl
    · exact absurd h (by simp)
  · rintro rfl
    split
    next value h =>
      obtain rfl : value = i.value := Option.some.inj (h.symm.trans i.reads)
      rfl
    next h => exact absurd (h.symm.trans i.reads) (by simp)

/-- **A decimal number is what its own literal writes.** -/
theorem Numeric.ofText?_eq_some {text : String} {n : Numeric} :
    Numeric.ofText? text = some n ↔ n.literal = text := by
  unfold Numeric.ofText?
  constructor
  · intro h
    split at h
    · obtain rfl := Option.some.inj h
      rfl
    · exact absurd h (by simp)
  · rintro rfl
    split
    next canonical value h =>
      obtain ⟨hc, rfl⟩ := Prod.mk.inj (Option.some.inj (h.symm.trans n.reads))
      cases n
      simp_all
    next h => exact absurd (h.symm.trans n.reads) (by simp)

theorem Integer.isSome_ofText? {text : String} :
    (Integer.ofText? text).isSome = (readInteger? text.toList).isSome := by
  unfold Integer.ofText?
  split <;> simp_all

theorem Numeric.isSome_ofText? {text : String} :
    (Numeric.ofText? text).isSome = (Decimal.evaluate? text.toList).isSome := by
  unfold Numeric.ofText?
  split <;> simp_all

/-- **A level is what the number of its depth writes.** -/
theorem Level.ofInt?_eq_some {n : Int} {level : Level} :
    Level.ofInt? n = some level ↔ ∃ k : Fin 4294967295, n = (k.val : Int) ∧ level = .depth k := by
  unfold Level.ofInt?
  split
  next h =>
    constructor
    · intro e
      exact ⟨_, by simp only; omega, (Option.some.inj e).symm⟩
    · rintro ⟨k, rfl, rfl⟩
      simp
  next h =>
    refine ⟨fun e => absurd e (by simp), ?_⟩
    rintro ⟨k, rfl, -⟩
    exact absurd ⟨by omega, by omega⟩ h

variable [Regex.Engine]

/-- **A pattern test is what its own pattern and flags make.** -/
theorem Regex.Test.ofFlags_eq_ok {pattern : String} {fs : Regex.Flags} {test : Regex.Test} :
    Regex.Test.ofFlags pattern fs = .ok test ↔ test.pattern = pattern ∧ test.flags = fs := by
  unfold Regex.Test.ofFlags
  constructor
  · intro h
    split at h
    · obtain rfl := Except.ok.inj h
      exact ⟨rfl, rfl⟩
    · exact absurd h (by simp)
  · rintro ⟨rfl, rfl⟩
    split
    · rfl
    next fault h =>
      have := test.accepted
      rw [h] at this
      exact absurd this (by simp [Except.isOk, Except.toBool])

theorem Node.ofInteger_eq_ok {literal : String} {node : Node} :
    Node.ofInteger literal = .ok node ↔ ∃ i : Integer, i.literal = literal ∧ node = .integer i := by
  unfold Node.ofInteger
  split
  next i hi =>
    refine ⟨fun h => ⟨i, Integer.ofText?_eq_some.mp hi, (Except.ok.inj h).symm⟩, ?_⟩
    rintro ⟨j, hj, rfl⟩
    rw [← Integer.ofText?_eq_some, hi] at hj
    rw [Option.some.inj hj]
  next hi =>
    refine ⟨fun h => absurd h (by simp), ?_⟩
    rintro ⟨j, hj, rfl⟩
    rw [← Integer.ofText?_eq_some, hi] at hj
    exact absurd hj (by simp)

theorem Node.ofNumeric_eq_ok {literal : String} {node : Node} :
    Node.ofNumeric literal = .ok node ↔ ∃ n : Numeric, n.literal = literal ∧ node = .numeric n := by
  unfold Node.ofNumeric
  split
  next n hn =>
    refine ⟨fun h => ⟨n, Numeric.ofText?_eq_some.mp hn, (Except.ok.inj h).symm⟩, ?_⟩
    rintro ⟨m, hm, rfl⟩
    rw [← Numeric.ofText?_eq_some, hn] at hm
    rw [Option.some.inj hm]
  next hn =>
    refine ⟨fun h => absurd h (by simp), ?_⟩
    rintro ⟨m, hm, rfl⟩
    rw [← Numeric.ofText?_eq_some, hn] at hm
    exact absurd hm (by simp)

end PathExpr
