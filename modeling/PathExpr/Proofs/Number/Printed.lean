import PathExpr.Chain.Equality
import PathExpr.Proofs.Number.Canonical
import PathExpr.Proofs.Syntax.Derivation
import PathExpr.Token.Numeral

/-!
# PathExpr/Proofs/Number/Printed — the numbers of printed chains

A number is printed as its canonical text, which is a plain literal with or without a minus
(`exists_plain`).  The token that a plain literal makes stands for a number with this canonical
text, and so it does with a minus in front (`exists_number`).  A number may come back as one of the
other kind, which is the same as long as the canonical texts are (`same_of_number?`).
-/

namespace PathExpr

open Decimal

/-! ## Decimal texts of integers -/

theorem toList_toString_ofNat (n : Nat) : (toString (n : Int)).toList = Nat.toDigits 10 n :=
  Nat.toList_repr

theorem toList_toString_neg {n : Nat} (h : n ≠ 0) :
    (toString (-(n : Int))).toList = '-' :: Nat.toDigits 10 n := by
  obtain ⟨k, rfl⟩ := Nat.exists_eq_succ_of_ne_zero h
  have hs : toString (-((k + 1 : Nat) : Int)) = "-" ++ Nat.repr (k + 1) := rfl
  rw [hs, String.toList_append, Nat.toList_repr]
  rfl

theorem toList_toString_cases (n : Int) :
    (n = n.natAbs ∧ (toString n).toList = Nat.toDigits 10 n.natAbs) ∨
      (n = -n.natAbs ∧ (toString n).toList = '-' :: Nat.toDigits 10 n.natAbs) := by
  by_cases h : 0 ≤ n
  · have hn : n = n.natAbs := by omega
    refine .inl ⟨hn, ?_⟩
    rw [hn]
    exact toList_toString_ofNat _
  · have hn : n = -n.natAbs := by omega
    refine .inr ⟨hn, ?_⟩
    rw [hn, toList_toString_neg (by omega), Int.natAbs_neg, Int.natAbs_natCast]

theorem minus_cons_ne_toDigits (text : List Char) (n : Nat) : '-' :: text ≠ Nat.toDigits 10 n := by
  intro h
  have hd := isDigitOf_of_mem_toDigits (n := n) (by decide) (by decide) '-'
    (h ▸ List.mem_cons_self)
  exact absurd hd (by decide)

/-- **Integers of one decimal text are equal.** -/
theorem eq_of_toList_toString {m n : Int} (h : (toString m).toList = (toString n).toList) :
    m = n := by
  have hinj : ∀ {a b : Nat}, Nat.toDigits 10 a = Nat.toDigits 10 b → a = b := fun {a b} h => by
    have hread := congrArg (natOfDigits 10) h
    rwa [natOfDigits_toDigits (by decide) (by decide),
      natOfDigits_toDigits (by decide) (by decide)] at hread
  rcases toList_toString_cases m with ⟨hm, hmt⟩ | ⟨hm, hmt⟩ <;>
    rcases toList_toString_cases n with ⟨hn, hnt⟩ | ⟨hn, hnt⟩ <;> rw [hmt, hnt] at h
  · rw [hm, hn, hinj h]
  · exact absurd h.symm (minus_cons_ne_toDigits _ _)
  · exact absurd h (minus_cons_ne_toDigits _ _)
  · rw [hm, hn, hinj (List.cons.inj h).2]

theorem head_toDigits {n : Nat} (h : n ≠ 0) : (Nat.toDigits 10 n).head? ≠ some '0' := by
  induction n using Nat.strongRecOn with
  | ind n ih =>
    rw [Nat.toDigits_eq_if (by decide)]
    split
    · intro h0
      exact h (Nat.digitChar_eq_zero.mp (Option.some.inj h0))
    next hn =>
      have hne := Nat.toDigits_ne_nil (n := n / 10) (b := 10)
      obtain ⟨c, ds, hds⟩ := List.exists_cons_of_ne_nil hne
      have hih := ih (n / 10) (by omega) (by omega)
      rw [hds] at hih ⊢
      exact hih

/-- **The digits of a number are a plain literal.** -/
theorem plain_toDigits (n : Nat) : Plain (Nat.toDigits 10 n) [] := by
  refine ⟨Nat.toDigits_ne_nil, isDigitOf_of_mem_toDigits (by decide) (by decide), by simp, ?_⟩
  by_cases h : n = 0
  · exact .inl (by rw [h, Nat.toDigits_zero])
  · exact .inr (head_toDigits h)

variable {whole fraction : List Char}

theorem toDigits_plain (h : Plain whole []) : Nat.toDigits 10 (natOfDigits 10 whole) = whole := by
  rcases h.head with rfl | h0
  · rfl
  · exact toDigits_natOfDigits h.whole_digital h.ne_nil h0

theorem unsigned_plain (h : Plain whole fraction) : Unsigned (whole ++ pointed fraction) := by
  obtain ⟨c, ds, rfl⟩ := List.exists_cons_of_ne_nil h.ne_nil
  have hc := h.whole_digital c List.mem_cons_self
  exact unsigned_cons (ne_of_isDecimalDigit hc rfl) (ne_of_isDecimalDigit hc rfl)

/-! ## The texts of integers -/

/-- The text is that of an integer in range, or its own canonical text as a decimal literal. -/
def Readable (text fraction : List Char) : Prop :=
  (fraction = [] ∧ (readInteger? text).isSome = true) ∨ ∃ v, evaluate? text = some (text, v)

theorem canonical_of_nonneg {i : Integer} {n : Nat} (h : i.value = n) :
    i.canonical.toList = Nat.toDigits 10 n := by
  rw [Integer.canonical, h, toList_toString_ofNat]

theorem canonical_of_neg {i : Integer} {n : Nat} (h : i.value = -n) (hn : n ≠ 0) :
    i.canonical.toList = '-' :: Nat.toDigits 10 n := by
  rw [Integer.canonical, h, toList_toString_neg hn]

theorem readMagnitude?_plain (h : Plain whole []) :
    readMagnitude? whole = some (natOfDigits 10 whole) := by
  have hu : '_' ∉ whole := by simpa [pointed] using h.underscore_not_mem
  have hr : splitRadix whole = (10, whole) := by
    rw [splitRadix.eq_2]
    rintro mark rest rfl
    rcases h.head with h0 | h0
    · cases h0
    · exact h0 rfl
  have hall : whole.all (fun c => c = '_' || isDigitOf 10 c) = true :=
    List.all_eq_true.mpr fun c hc => by simp [show isDigitOf 10 c = true from h.whole_digital c hc]
  rw [readMagnitude?, hr]
  simp only [ne_eq, h.ne_nil, not_false_eq_true, hall, separated,
    separatedAfter_of_not_mem hu, and_self, if_true, withoutSeparators_of_not_mem hu]

/-- **The digits of a number in range are read as the number.** -/
theorem readInteger?_plain (h : Plain whole []) {n : Int} :
    readInteger? whole = some n ↔ n = natOfDigits 10 whole ∧ n ≤ maxInteger := by
  have hu : Unsigned whole := by simpa [pointed] using unsigned_plain h
  rw [readInteger?_eq, splitSign_of_unsigned hu, readMagnitude?_plain h, Option.bind_some,
    integerOfMagnitude?_eq_some]
  have hmin : minInteger ≤ 0 := by decide
  constructor
  · rintro ⟨rfl, -, hhigh⟩
    exact ⟨rfl, hhigh⟩
  · rintro ⟨rfl, hhigh⟩
    exact ⟨rfl, Int.le_trans hmin (Int.natCast_nonneg _), hhigh⟩

theorem readable_minInteger :
    ∃ v, evaluate? (Nat.toDigits 10 9223372036854775808) =
      some (Nat.toDigits 10 9223372036854775808, v) := by
  have h : (evaluate? (Nat.toDigits 10 9223372036854775808)).map Prod.fst =
      some (Nat.toDigits 10 9223372036854775808) := by decide +kernel
  obtain ⟨⟨canonical, v⟩, he, rfl⟩ := Option.map_eq_some_iff.mp h
  exact ⟨v, he⟩

/-- **The canonical text of an integer is that of its size, perhaps with a minus in front.** -/
theorem Integer.canonical_cases (i : Integer) :
    i.canonical.toList = Nat.toDigits 10 i.value.natAbs ∨
      (i.canonical.toList = '-' :: Nat.toDigits 10 i.value.natAbs ∧
        Nat.toDigits 10 i.value.natAbs ≠ ['0']) := by
  rcases Int.natAbs_eq i.value with hpos | hneg
  · exact .inl (canonical_of_nonneg hpos)
  · by_cases h0 : i.value.natAbs = 0
    · exact .inl (canonical_of_nonneg (by omega))
    · refine .inr ⟨canonical_of_neg hneg h0, fun h => head_toDigits h0 ?_⟩
      rw [h]
      rfl

/-- The size of an integer can be read, unless it is that of the least one. -/
theorem Integer.readInteger?_natAbs {i : Integer} (h : i.value ≠ minInteger) :
    readInteger? (Nat.toDigits 10 i.value.natAbs) = some (i.value.natAbs : Int) := by
  obtain ⟨hlow, hhigh⟩ := i.inRange
  have hmin : minInteger = -maxInteger - 1 := rfl
  refine (readInteger?_plain (plain_toDigits _)).mpr ⟨?_, by omega⟩
  rw [natOfDigits_toDigits (by decide) (by decide)]

theorem Integer.readable_natAbs (i : Integer) :
    Readable (Nat.toDigits 10 i.value.natAbs) [] := by
  by_cases h : i.value = minInteger
  · have habs : i.value.natAbs = 9223372036854775808 := by rw [h]; rfl
    rw [habs]
    exact .inr readable_minInteger
  · refine .inl ⟨rfl, ?_⟩
    rw [Integer.readInteger?_natAbs h]
    rfl

/-! ## The texts of number nodes -/

variable [Regex.Engine]

/-- The canonical text of a number. -/
def Node.number? : Node → Option (List Char)
  | .integer i => some i.canonical.toList
  | .numeric n => some n.canonical.toList
  | _ => none

/-- **Numbers of one canonical text are the same.** -/
theorem same_of_number? {a b : Node} {text : List Char} (ha : a.number? = some text)
    (hb : b.number? = some text) : a.same b = true := by
  cases a with
  | integer i =>
    cases b with
    | integer j =>
      have h := Option.some.inj (ha.trans hb.symm)
      exact decide_eq_true (eq_of_toList_toString h)
    | numeric n => exact decide_eq_true (String.toList_inj.mp (Option.some.inj (ha.trans hb.symm)))
    | _ => cases hb
  | numeric m =>
    cases b with
    | integer j => exact decide_eq_true (String.toList_inj.mp (Option.some.inj (ha.trans hb.symm)))
    | numeric n => exact decide_eq_true (String.toList_inj.mp (Option.some.inj (ha.trans hb.symm)))
    | _ => cases hb
  | _ => cases ha

/-- **The canonical text of a number is a plain literal, perhaps with a minus in front.** -/
theorem exists_plain {node : Node} {text : List Char} (h : node.number? = some text)
    (hs : ∀ n, node = .numeric n → SingleSigned n.literal.toList) :
    ∃ whole fraction, Plain whole fraction ∧ Readable (whole ++ pointed fraction) fraction ∧
      (text = whole ++ pointed fraction ∨
        (text = '-' :: (whole ++ pointed fraction) ∧ whole ++ pointed fraction ≠ ['0'])) := by
  unfold Node.number? at h
  split at h
  next i =>
    obtain rfl := Option.some.inj h
    refine ⟨_, [], plain_toDigits i.value.natAbs, ?_, ?_⟩
    · simpa [pointed] using i.readable_natAbs
    · simpa [pointed] using i.canonical_cases
  next n =>
    obtain rfl := Option.some.inj h
    rcases canonical_cases n.reads (hs n rfl) with h0 | ⟨whole, fraction, hplain, hne, he, htext⟩
    · refine ⟨['0'], [], ⟨by simp, List.forall_mem_singleton.mpr rfl, by simp, .inl rfl⟩,
        .inl ⟨rfl, by decide⟩, .inl h0⟩
    · exact ⟨whole, fraction, hplain, .inr he, htext.imp_right fun h => ⟨h, hne⟩⟩
  next => cases h

/-! ## The numbers of texts -/

/-- The token stands for a number with the text as its canonical text, and after a minus for its
opposite. -/
def StandsFor (t : TokenKind) (text : List Char) : Prop :=
  ∃ node, HeadToken t node ∧ node.number? = some text ∧
    (text ≠ ['0'] → ∃ node', Folded .minus [node] [node'] ∧
      node'.number? = some ('-' :: text))

theorem standsFor_integer (h : Plain whole []) {n : Int} (hn : readInteger? whole = some n) :
    StandsFor (.integer (String.ofList whole)) whole := by
  obtain ⟨hval, -⟩ := (readInteger?_plain h).mp hn
  let i : Integer := ⟨String.ofList whole, n, by simpa using hn⟩
  refine ⟨.integer i, .integer i, ?_, fun h0 => ?_⟩
  · rw [Node.number?, canonical_of_nonneg hval, toDigits_plain h]
  · have hmin : i.value ≠ minInteger := by
      intro hmin
      have hge : 0 ≤ i.value := by
        change 0 ≤ n
        rw [hval]
        exact Int.natCast_nonneg _
      rw [hmin] at hge
      exact absurd hge (by decide)
    obtain ⟨j, hj, hjv, -⟩ := Integer.exists_negated? hmin
    refine ⟨.integer j, .minusInteger hj, ?_⟩
    have hpos : natOfDigits 10 whole ≠ 0 := by
      rcases h.head with h0' | h0'
      · exact absurd h0' h0
      · exact (natOfDigits_pos h.whole_digital h.ne_nil h0').ne'
    have hjv' : j.value = -(natOfDigits 10 whole : Int) := by rw [hjv, ← hval]
    rw [Node.number?, canonical_of_neg hjv' hpos, toDigits_plain h]

theorem standsFor_decimal (h : Plain whole fraction) {v : Binary64}
    (hv : evaluate? (whole ++ pointed fraction) = some (whole ++ pointed fraction, v)) :
    StandsFor (.decimal (String.ofList (whole ++ pointed fraction)))
      (whole ++ pointed fraction) := by
  let n : Numeric := ⟨String.ofList (whole ++ pointed fraction),
    String.ofList (whole ++ pointed fraction), v, by simpa using hv⟩
  refine ⟨.numeric n, .decimal n, by simp [Node.number?, n], fun h0 => ?_⟩
  obtain ⟨m, hm, hlit⟩ := n.exists_negated?
  refine ⟨.numeric m, .minusNumeric hm, ?_⟩
  obtain ⟨v', hv'⟩ := evaluate?_minus h h0 hv
  have hreads := m.reads
  rw [hlit, String.toList_ofList, negateText_of_unsigned (unsigned_plain h), hv'] at hreads
  rw [Node.number?, ← (Prod.mk.inj (Option.some.inj hreads)).1]

/-- **A plain literal makes a token that stands for a number with this canonical text.** -/
theorem exists_number (h : Plain whole fraction)
    (hr : Readable (whole ++ pointed fraction) fraction) :
    ∃ t, decimalKind (whole ++ pointed fraction) (decide (fraction ≠ [])) = .ok t ∧
      StandsFor t (whole ++ pointed fraction) := by
  by_cases hi : fraction = [] ∧ (readInteger? (whole ++ pointed fraction)).isSome = true
  · obtain ⟨rfl, hi⟩ := hi
    have htext : whole ++ pointed [] = whole := List.append_nil whole
    rw [htext] at hi ⊢
    obtain ⟨n, hn⟩ := Option.isSome_iff_exists.mp hi
    refine ⟨_, ?_, standsFor_integer h hn⟩
    rw [decimalKind, hi]
    rfl
  · obtain ⟨v, hv⟩ := hr.resolve_left hi
    have hof : (Numeric.ofText? (String.ofList (whole ++ pointed fraction))).isSome = true := by
      rw [Numeric.isSome_ofText?, String.toList_ofList, hv]
      rfl
    have hcond : ¬ (!decide (fraction ≠ []) &&
        (readInteger? (whole ++ pointed fraction)).isSome) = true := by
      simpa using hi
    exact ⟨_, by rw [decimalKind, if_neg hcond, if_pos hof], standsFor_decimal h hv⟩

end PathExpr
