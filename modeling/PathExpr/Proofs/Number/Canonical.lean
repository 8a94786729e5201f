import PathExpr.Proofs.Number.Sign

/-!
# PathExpr/Proofs/Number/Canonical — canonical texts of decimal literals

The canonical text of a literal is plain: digits, and a point only between digits.  A plain literal
is read back as it stands, and the canonical text of a canonical text is that text again
(`evaluate?_placePoint`).
-/

namespace PathExpr.Decimal

/-! ## Significant digits -/

/-- Digits without a zero at either end. -/
structure Significant (digits : List Char) : Prop where
  ne_nil : digits ≠ []
  digital : ∀ c ∈ digits, isDecimalDigit c = true
  head : digits.head? ≠ some '0'
  last : digits.getLast? ≠ some '0'

theorem last_dropTrailingZeros (text : List Char) :
    (dropTrailingZeros text).getLast? ≠ some '0' := by
  rw [dropTrailingZeros, List.getLast?_reverse]
  intro h
  have hnot := List.head?_dropWhile_not (fun c => decide (c = '0')) text.reverse
  rw [h] at hnot
  simp at hnot

theorem significant_of_ne_nil {d : Decimal} (hd : d.Digital) (h : d.significant ≠ []) :
    Significant d.significant := by
  obtain ⟨m, n, hdigits, -⟩ := exists_significant d
  refine ⟨h, fun c hc => hd c ?_, head_significant_ne_zero d, last_dropTrailingZeros _⟩
  rw [hdigits]
  simp [hc]

theorem dropWhile_replicate_append {s : List Char} (h : s.head? ≠ some '0') (n : Nat) :
    (List.replicate n '0' ++ s).dropWhile (· = '0') = s := by
  induction n with
  | zero =>
    cases s with
    | nil => rfl
    | cons c s =>
      have hc : c ≠ '0' := fun e => h (congrArg some e)
      exact List.dropWhile_cons_of_neg (by simpa using hc)
  | succ n ih => rwa [List.replicate_succ, List.cons_append, List.dropWhile_cons_of_pos (by simp)]

theorem dropTrailingZeros_append_replicate {s : List Char} (h : s.getLast? ≠ some '0') (n : Nat) :
    dropTrailingZeros (s ++ List.replicate n '0') = s := by
  rw [dropTrailingZeros, List.reverse_append, List.reverse_replicate,
    dropWhile_replicate_append (by rwa [List.head?_reverse]), List.reverse_reverse]

/-- **The significant digits are those between the zeros, and the magnitude counts from the first of
them.** -/
theorem significant_eq {d : Decimal} {s : List Char} {m n : Nat} (hs : Significant s)
    (hd : d.digits = List.replicate m '0' ++ (s ++ List.replicate n '0')) :
    d.significant = s ∧ d.magnitude = d.scale + (s.length + n) := by
  have hhead : (s ++ List.replicate n '0').head? ≠ some '0' := by
    obtain ⟨c, s, rfl⟩ := List.exists_cons_of_ne_nil hs.ne_nil
    exact hs.head
  have hdrop : d.digits.dropWhile (· = '0') = s ++ List.replicate n '0' := by
    rw [hd, dropWhile_replicate_append hhead]
  constructor
  · rw [significant, hdrop, dropTrailingZeros_append_replicate hs.last]
  · rw [magnitude, hdrop, List.length_append, List.length_replicate, Nat.cast_add]

/-- The point stands after as many of the significant digits as the magnitude tells. -/
theorem point_eq_magnitude (d : Decimal) :
    (d.whole.length : Int) + d.exponent
      - (d.digits.length - (d.digits.dropWhile (· = '0')).length : Nat) = d.magnitude := by
  obtain ⟨m, n, hd, hm⟩ := exists_significant d
  have hlen := congrArg List.length hd
  simp only [digits, List.length_append, List.length_replicate] at hlen
  have hdrop : (d.digits.dropWhile (· = '0')).length = d.significant.length + n := by
    rw [magnitude] at hm
    omega
  rw [hm, hdrop, scale, digits, List.length_append]
  omega

/-- **The canonical text is made of the significant digits and the magnitude.** -/
theorem canonical_eq {d : Decimal} (h : d.innerSign = []) :
    d.canonical = if d.significant = [] then ['0']
      else (if d.negative then ['-'] else []) ++ placePoint d.significant d.magnitude := by
  have hsig : dropTrailingZeros (d.digits.dropWhile (· = '0')) = d.significant := rfl
  rw [canonical.eq_def]
  simp only [h, List.nil_append]
  rw [← digits, hsig, point_eq_magnitude]
  split
  next hnil => rw [if_pos hnil]
  next hne => rw [if_neg hne]

/-! ## Plain literals -/

/-- The fraction after its point, if it has digits. -/
def pointed (fraction : List Char) : List Char := if fraction = [] then [] else '.' :: fraction

/-- The parts of a literal in plain form: no zero begins the whole part, unless it is zero. -/
structure Plain (whole fraction : List Char) : Prop where
  ne_nil : whole ≠ []
  whole_digital : ∀ c ∈ whole, isDecimalDigit c = true
  fraction_digital : ∀ c ∈ fraction, isDecimalDigit c = true
  head : whole = ['0'] ∨ whole.head? ≠ some '0'

/-- The digits of a plain literal, taken as a decimal one. -/
def plain (negative : Bool) (whole fraction : List Char) : Decimal :=
  ⟨negative, [], whole, fraction, 0⟩

variable {whole fraction : List Char}

theorem Plain.digital (h : Plain whole fraction) (negative : Bool) :
    (plain negative whole fraction).Digital := by
  intro c hc
  rcases List.mem_append.mp hc with hc | hc
  · exact h.whole_digital c hc
  · exact h.fraction_digital c hc

/-- No digit is an underscore, a point or a sign. -/
theorem ne_of_isDecimalDigit {c c' : Char} (h : isDecimalDigit c = true)
    (h' : isDecimalDigit c' = false) : c ≠ c' := by
  rintro rfl
  rw [h] at h'
  cases h'

theorem Plain.mem (h : Plain whole fraction) {c : Char} (hc : c ∈ whole ++ pointed fraction) :
    isDecimalDigit c = true ∨ c = '.' := by
  rcases List.mem_append.mp hc with hc | hc
  · exact .inl (h.whole_digital c hc)
  · unfold pointed at hc
    split at hc
    · cases hc
    · rcases List.mem_cons.mp hc with rfl | hc
      · exact .inr rfl
      · exact .inl (h.fraction_digital c hc)

theorem Plain.underscore_not_mem (h : Plain whole fraction) :
    '_' ∉ whole ++ pointed fraction := by
  intro hc
  rcases h.mem hc with hd | hp
  · exact absurd hd (by decide)
  · exact absurd hp (by decide)

theorem separatedAfter_of_not_mem {text : List Char} (h : '_' ∉ text) (radix : Nat) (after : Bool) :
    separatedAfter radix after text = true := by
  induction text generalizing after with
  | nil => rfl
  | cons c text ih =>
    rw [List.mem_cons, not_or] at h
    rw [separatedAfter, if_neg (Ne.symm h.1)]
    exact ih h.2 _

theorem withoutSeparators_of_not_mem {text : List Char} (h : '_' ∉ text) :
    withoutSeparators text = text := by
  refine List.filter_eq_self.mpr fun c hc => ?_
  have hne : c ≠ '_' := by
    rintro rfl
    exact h hc
  simpa using hne

/-- Digits end where something else begins. -/
theorem span_digits {digits rest : List Char} (hd : ∀ c ∈ digits, isDecimalDigit c = true)
    (hr : ∀ c ∈ rest.head?, isDecimalDigit c = false) :
    (digits ++ rest).takeWhile isDecimalDigit = digits ∧
      (digits ++ rest).dropWhile isDecimalDigit = rest := by
  rw [List.takeWhile_append_of_pos hd, List.dropWhile_append_of_pos hd]
  cases rest with
  | nil => exact ⟨List.append_nil _, rfl⟩
  | cons c rest =>
    have hc : ¬ isDecimalDigit c = true := by simp [hr c rfl]
    rw [List.takeWhile_cons_of_neg hc, List.dropWhile_cons_of_neg hc]
    exact ⟨List.append_nil _, rfl⟩

theorem takeWhile_append_pointed (h : Plain whole fraction) :
    (whole ++ pointed fraction).takeWhile isDecimalDigit = whole ∧
      (whole ++ pointed fraction).dropWhile isDecimalDigit = pointed fraction := by
  refine span_digits h.whole_digital fun c hc => ?_
  unfold pointed at hc
  split at hc
  · cases hc
  · obtain rfl := Option.some.inj hc
    decide

theorem splitFraction_pointed (h : Plain whole fraction) :
    splitFraction (pointed fraction) = (fraction, []) := by
  unfold pointed
  split
  next hf => rw [hf, splitFraction]; exact fun rest => by simp
  next =>
    rw [splitFraction, List.takeWhile_eq_self_iff.mpr h.fraction_digital,
      List.dropWhile_eq_nil_iff.mpr h.fraction_digital]

theorem readDigits?_plain (h : Plain whole fraction) (negative : Bool) :
    readDigits? negative (whole ++ pointed fraction) = some (plain negative whole fraction) := by
  have hsign : splitInnerSign (whole ++ pointed fraction) = ([], whole ++ pointed fraction) := by
    obtain ⟨c, w, rfl⟩ := List.exists_cons_of_ne_nil h.ne_nil
    have hc := h.whole_digital c List.mem_cons_self
    rw [List.cons_append, splitInnerSign]
    · exact fun _ e => ne_of_isDecimalDigit hc (by decide) (List.cons.inj e).1
    · exact fun _ e => ne_of_isDecimalDigit hc (by decide) (List.cons.inj e).1
  obtain ⟨htake, hdrop⟩ := takeWhile_append_pointed h
  rw [readDigits?, hsign]
  simp only [htake, hdrop, splitFraction_pointed h, h.ne_nil, false_and, if_false, readExponent?,
    Option.map_some, plain]

/-- **A plain literal is read as its parts.** -/
theorem read?_plain (h : Plain whole fraction) :
    read? (whole ++ pointed fraction) = some (plain false whole fraction) ∧
      read? ('-' :: (whole ++ pointed fraction)) = some (plain true whole fraction) := by
  have hu := h.underscore_not_mem
  have hsign : splitSign (whole ++ pointed fraction) = (false, whole ++ pointed fraction) := by
    obtain ⟨c, w, rfl⟩ := List.exists_cons_of_ne_nil h.ne_nil
    have hc := h.whole_digital c List.mem_cons_self
    rw [List.cons_append, splitSign]
    · exact fun _ e => ne_of_isDecimalDigit hc (by decide) (List.cons.inj e).1
    · exact fun _ e => ne_of_isDecimalDigit hc (by decide) (List.cons.inj e).1
  constructor
  · rw [read?, hsign]
    simp only [separated, separatedAfter_of_not_mem hu, if_true, withoutSeparators_of_not_mem hu]
    exact readDigits?_plain h false
  · rw [read?, splitSign]
    simp only [separated, separatedAfter_of_not_mem hu, if_true, withoutSeparators_of_not_mem hu]
    exact readDigits?_plain h true

/-! ## Texts with a point put in -/

/-- **The text of significant digits with a point is a plain literal, no zero ends its fraction, and
it has these digits and this magnitude.** -/
theorem placePoint_eq {s : List Char} (hs : Significant s) (point : Int) :
    ∃ whole fraction, placePoint s point = whole ++ pointed fraction ∧ Plain whole fraction ∧
      fraction.getLast? ≠ some '0' ∧ ∀ negative, (plain negative whole fraction).significant = s ∧
        (plain negative whole fraction).magnitude = point := by
  have hzeros : ∀ n, ∀ c ∈ List.replicate n '0', isDecimalDigit c = true := fun n c hc => by
    rw [List.eq_of_mem_replicate hc]
    decide
  unfold placePoint
  split
  next hp =>
    refine ⟨['0'], List.replicate point.natAbs '0' ++ s, ?_, ?_, ?_, fun negative => ?_⟩
    · simp [pointed, hs.ne_nil]
    · refine ⟨by simp, List.forall_mem_singleton.mpr rfl, ?_, .inl rfl⟩
      exact List.forall_mem_append.mpr ⟨hzeros _, hs.digital⟩
    · rw [List.getLast?_append_of_ne_nil _ hs.ne_nil]
      exact hs.last
    · have h := significant_eq (d := plain negative ['0'] (List.replicate point.natAbs '0' ++ s))
        (m := point.natAbs + 1) (n := 0) hs (by simp [digits, plain, List.replicate_succ])
      refine ⟨h.1, h.2.trans ?_⟩
      simp only [scale, plain, List.length_append, List.length_replicate]
      omega
  next hp =>
    split
    next hlen =>
      refine ⟨s ++ List.replicate (point.natAbs - s.length) '0', [], by simp [pointed], ?_, by simp,
        fun negative => ?_⟩
      · refine ⟨by simp [hs.ne_nil], List.forall_mem_append.mpr ⟨hs.digital, hzeros _⟩, by simp,
          .inr ?_⟩
        obtain ⟨c, s, rfl⟩ := List.exists_cons_of_ne_nil hs.ne_nil
        exact hs.head
      · have h := significant_eq
          (d := plain negative (s ++ List.replicate (point.natAbs - s.length) '0') [])
          (m := 0) (n := point.natAbs - s.length) hs (by simp [digits, plain])
        refine ⟨h.1, h.2.trans ?_⟩
        simp only [scale, plain, List.length_nil]
        omega
    next hlen =>
      have hne : s.take point.natAbs ≠ [] := by
        rw [ne_eq, List.take_eq_nil_iff, not_or]
        exact ⟨by omega, hs.ne_nil⟩
      have hdrop : s.drop point.natAbs ≠ [] := by
        rw [ne_eq, List.drop_eq_nil_iff]
        omega
      refine ⟨s.take point.natAbs, s.drop point.natAbs, by simp [pointed, hdrop], ?_, ?_,
        fun negative => ?_⟩
      · refine ⟨hne, fun c hc => hs.digital c (List.mem_of_mem_take hc),
          fun c hc => hs.digital c (List.mem_of_mem_drop hc), .inr ?_⟩
        rw [List.head?_take, if_neg (by omega)]
        exact hs.head
      · rw [List.getLast?_drop, if_neg (by omega)]
        exact hs.last
      · have h := significant_eq
          (d := plain negative (s.take point.natAbs) (s.drop point.natAbs)) (m := 0) (n := 0) hs
          (by simp [digits, plain])
        refine ⟨h.1, h.2.trans ?_⟩
        simp only [scale, plain, List.length_drop]
        omega

/-! ## Canonical texts of canonical texts -/

theorem evaluate?_plain (h : Plain whole fraction) {d : Decimal} {text : List Char}
    {negative : Bool} (hr : read? text = some (plain negative whole fraction)) (hd : d.Digital)
    (hv : d.binary64?.isSome = true)
    (hs : (plain negative whole fraction).significant = d.significant)
    (hm : (plain negative whole fraction).magnitude = d.magnitude) :
    ∃ value, evaluate? text = some ((plain negative whole fraction).canonical, value) := by
  obtain ⟨value, hvalue⟩ := Option.isSome_iff_exists.mp
    (isSome_binary64?_congr hd (h.digital negative) hs.symm hm.symm hv)
  exact ⟨value, evaluate?_eq_some.mpr ⟨_, hr, hvalue, rfl, isSome_formatted? rfl⟩⟩

/-- **The canonical text of a literal is plain and is its own canonical text.** -/
theorem evaluate?_placePoint {d : Decimal} (hd : d.Digital) (hne : d.significant ≠ [])
    (hv : d.binary64?.isSome = true) :
    ∃ whole fraction, placePoint d.significant d.magnitude = whole ++ pointed fraction ∧
      Plain whole fraction ∧ whole ++ pointed fraction ≠ ['0'] ∧
      ∃ value, evaluate? (whole ++ pointed fraction) = some (whole ++ pointed fraction, value) := by
  obtain ⟨whole, fraction, htext, hplain, -, hparts⟩ :=
    placePoint_eq (significant_of_ne_nil hd hne) d.magnitude
  obtain ⟨hs, hm⟩ := hparts false
  obtain ⟨value, heval⟩ := evaluate?_plain hplain (read?_plain hplain).1 hd hv hs hm
  rw [canonical_eq rfl, hs, hm, if_neg hne, htext] at heval
  refine ⟨whole, fraction, htext, hplain, fun h0 => ?_, value, heval⟩
  rcases List.append_eq_singleton_iff.mp h0 with ⟨hw, -⟩ | ⟨hw, hf⟩
  · exact hplain.ne_nil hw
  · have hfraction : fraction = [] := by
      by_contra hfr
      simp [pointed, hfr] at hf
    rw [hw, hfraction] at hs
    exact hne hs.symm

/-- With a minus in front it is so, too. -/
theorem evaluate?_minus (h : Plain whole fraction) (h0 : whole ++ pointed fraction ≠ ['0'])
    {value : Binary64}
    (he : evaluate? (whole ++ pointed fraction) = some (whole ++ pointed fraction, value)) :
    ∃ value', evaluate? ('-' :: (whole ++ pointed fraction)) =
      some ('-' :: (whole ++ pointed fraction), value') := by
  obtain ⟨d, hd, hv, hc, -⟩ := evaluate?_eq_some.mp he
  obtain ⟨hread, hread'⟩ := read?_plain h
  obtain rfl := Option.some.inj (hread.symm.trans hd)
  rw [canonical_eq rfl] at hc
  split at hc
  next => exact absurd hc.symm h0
  next hne =>
    obtain ⟨value', heval⟩ := evaluate?_plain h hread' (h.digital false)
      (by rw [hv]; rfl) rfl rfl
    have hsig :
        (plain true whole fraction).significant = (plain false whole fraction).significant :=
      rfl
    have hmag : (plain true whole fraction).magnitude = (plain false whole fraction).magnitude :=
      rfl
    rw [canonical_eq rfl, hsig, if_neg hne, hmag] at heval
    have hplus : placePoint (plain false whole fraction).significant
        (plain false whole fraction).magnitude = whole ++ pointed fraction := by
      simpa [plain] using hc
    rw [hplus] at heval
    exact ⟨value', heval⟩

/-- **The canonical text of a literal with one sign at most is zero, or a plain literal that may
have a minus in front.** -/
theorem canonical_cases {text canonical : List Char} {value : Binary64}
    (h : evaluate? text = some (canonical, value)) (hs : SingleSigned text) :
    canonical = ['0'] ∨ ∃ whole fraction, Plain whole fraction ∧
      whole ++ pointed fraction ≠ ['0'] ∧
      (∃ v, evaluate? (whole ++ pointed fraction) = some (whole ++ pointed fraction, v)) ∧
      (canonical = whole ++ pointed fraction ∨ canonical = '-' :: (whole ++ pointed fraction)) := by
  obtain ⟨d, hd, hv, rfl, -⟩ := evaluate?_eq_some.mp h
  rw [canonical_eq (innerSign_of_singleSigned hd hs)]
  split
  next => exact .inl rfl
  next hne =>
    obtain ⟨whole, fraction, htext, hplain, h0, heval⟩ :=
      evaluate?_placePoint (digital_of_read? hd) hne (by rw [hv]; rfl)
    refine .inr ⟨whole, fraction, hplain, h0, heval, ?_⟩
    rw [htext]
    cases d.negative
    · exact .inl rfl
    · exact .inr rfl

end PathExpr.Decimal
