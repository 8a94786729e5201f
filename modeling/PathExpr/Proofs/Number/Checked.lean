import PathExpr.Number.Decimal

/-!
# PathExpr/Proofs/Number/Checked — counts of 64 bits are the counts themselves

`Decimal.canonical64?` takes the steps of `Decimal.canonical` with numbers of 64 bits.  Where no
count leaves their range the text is the same (`canonical64?_eq_some`), so the text of a literal is
its canonical text whenever it can be written (`formatted?_eq_some`).  Whether it can be depends on
the digits, the sign in front of them and the exponent, and not on the other sign.
-/

namespace PathExpr.Decimal

variable {digits text : List Char} {whole skipped : Nat} {exponent point : Int} {d d' : Decimal}

theorem point64?_eq_some (h : point64? whole exponent skipped = some point) :
    whole + exponent - skipped = point := by
  simp only [point64?, Option.bind_eq_bind, Option.bind_eq_some_iff, int64?_eq_some] at h
  obtain ⟨_, ⟨-, rfl⟩, _, ⟨-, rfl⟩, _, ⟨-, rfl⟩, _, ⟨-, rfl⟩, -, hpoint⟩ := h
  exact hpoint

theorem placePoint64?_eq_some (h : placePoint64? digits point = some text) :
    placePoint digits point = text := by
  simp only [placePoint64?, Option.bind_eq_bind, Option.bind_eq_some_iff, int64?_eq_some] at h
  obtain ⟨_, ⟨-, rfl⟩, h⟩ := h
  unfold placePoint
  split at h
  next hp =>
    simp only [Option.bind_eq_some_iff, int64?_eq_some, count64?_eq_some] at h
    obtain ⟨_, ⟨-, rfl⟩, zeros, ⟨hzeros, -⟩, htext⟩ := h
    have hn : point.natAbs = zeros := by omega
    rw [if_pos hp, hn]
    exact Option.some.inj htext
  next hp =>
    rw [if_neg hp]
    split at h
    next hlen =>
      simp only [Option.bind_eq_some_iff, int64?_eq_some, count64?_eq_some] at h
      obtain ⟨_, ⟨-, rfl⟩, zeros, ⟨hzeros, -⟩, htext⟩ := h
      have hn : point.natAbs - digits.length = zeros := by omega
      rw [if_pos hlen, hn]
      exact Option.some.inj htext
    next hlen =>
      simp only [Option.bind_eq_some_iff, count64?_eq_some] at h
      obtain ⟨before, ⟨hbefore, -⟩, htext⟩ := h
      have hn : point.natAbs = before := by omega
      rw [if_neg hlen, hn]
      exact Option.some.inj htext

/-- **A text that is found with numbers of 64 bits is the canonical text.** -/
theorem canonical64?_eq_some (h : d.canonical64? = some text) : d.canonical = text := by
  simp only [canonical64?, Option.bind_eq_bind, Option.bind_eq_some_iff, count64?_eq_some] at h
  obtain ⟨skipped, ⟨hskipped, -⟩, h⟩ := h
  unfold canonical
  dsimp only
  split at h
  next => exact Option.some.inj h
  next =>
    simp only [Option.bind_eq_some_iff] at h
    obtain ⟨point, hpoint, placed, hplaced, htext⟩ := h
    rw [← point64?_eq_some hpoint] at hplaced
    have hn : (d.innerSign ++ d.whole ++ d.fraction).length -
        ((d.innerSign ++ d.whole ++ d.fraction).dropWhile (· = '0')).length = skipped := by omega
    rw [hn, placePoint64?_eq_some hplaced, Option.some.inj htext]

theorem isSome_canonical64?_congr (hi : d'.innerSign = d.innerSign) (hw : d'.whole = d.whole)
    (hf : d'.fraction = d.fraction) (he : d'.exponent = d.exponent) :
    d'.canonical64?.isSome = d.canonical64?.isSome := by
  simp only [canonical64?, hi, hw, hf, he, Option.bind_eq_bind]
  cases count64? _ with
  | none => rfl
  | some skipped =>
    simp only [Option.bind_some]
    split
    · rfl
    · cases point64? _ _ _ with
      | none => rfl
      | some point =>
        simp only [Option.bind_some]
        cases placePoint64? _ _ <;> rfl

/-! ## Texts of literals -/

/-- A literal with one sign at most always has a canonical text. -/
theorem formatted?_of_innerSign (h : d.innerSign = []) : d.formatted? = some d.canonical :=
  if_pos h

theorem isSome_formatted? (h : d.innerSign = []) : d.formatted?.isSome = true := by
  rw [formatted?_of_innerSign h]
  rfl

/-- The sign of a literal has no part in whether its text can be written. -/
theorem isSome_formatted?_congr (hi : d'.innerSign = d.innerSign) (hw : d'.whole = d.whole)
    (hf : d'.fraction = d.fraction) (he : d'.exponent = d.exponent) :
    d'.formatted?.isSome = d.formatted?.isSome := by
  simp only [formatted?, hi]
  split
  · rfl
  · exact isSome_canonical64?_congr hi hw hf he

/-- **The text of a literal is its canonical text, if it can be written.** -/
theorem formatted?_eq_some :
    d.formatted? = some text ↔ d.canonical = text ∧ d.formatted?.isSome = true := by
  by_cases hi : d.innerSign = []
  · rw [formatted?_of_innerSign hi, Option.some.injEq]
    exact (and_iff_left rfl).symm
  · rw [formatted?, if_neg hi]
    constructor
    · intro h
      exact ⟨canonical64?_eq_some h, by rw [h]; rfl⟩
    · rintro ⟨rfl, hsome⟩
      obtain ⟨t, ht⟩ := Option.isSome_iff_exists.mp hsome
      rw [ht, canonical64?_eq_some ht]

end PathExpr.Decimal
