import PathExpr.Proofs.Number.Exact

/-!
# PathExpr/Proofs/Number/Readable — what is read is written

The converse of `Writes.exists_read`: a text that is read as a decimal literal with no sign in front
of its digits is one by its characters, and it writes the value of its parts
(`Decimal.writes_of_read?`).  Reading filters the underscores out first, so the runs of digits are
found in the text as it stands (`exists_digits`), and each part that is read is one of them.
-/

namespace PathExpr

/-! ## Runs of digits as they stand -/

/-- No digit follows, and no underscore that might stand before one. -/
def EndsDigits (rest : List Char) : Prop :=
  ∀ c, rest.head? = some c → isDecimalDigit c = false ∧ c ≠ '_'

theorem endsDigits_nil : EndsDigits [] := fun _ h => nomatch h

theorem endsDigits_cons {c : Char} {rest : List Char} (hd : isDecimalDigit c = false)
    (hu : c ≠ '_') : EndsDigits (c :: rest) := by
  intro a ha
  obtain rfl := Option.some.inj ha
  exact ⟨hd, hu⟩

/-- Behind digits, digits and the underscores between them go on, and then something else comes. -/
theorem exists_run : ∀ (text : List Char) {d : Nat}, d < 10 → separatedAfter 10 true text = true →
    ∃ run rest n k, text = run ++ rest ∧ WritesNat (Nat.digitChar d :: run) n k ∧
      EndsDigits rest ∧ separatedAfter 10 false rest = true
  | [], d, hd, _ => ⟨[], [], d, 1, rfl, .last hd, endsDigits_nil, rfl⟩
  | c :: text, d, hd, h => by
    by_cases hu : c = '_'
    · subst hu
      rw [separatedAfter, if_pos rfl, Bool.true_and, Bool.and_eq_true] at h
      obtain ⟨hstart, h⟩ := h
      cases text with
      | nil => cases hstart
      | cons c text =>
        obtain ⟨e, he, rfl⟩ := exists_of_isDecimalDigit hstart
        rw [WritesNat.separatedAfter_digitChar he] at h
        obtain ⟨run, rest, n, k, rfl, hw, hends, hsep⟩ := exists_run text he h
        exact ⟨'_' :: Nat.digitChar e :: run, rest, _, _, rfl, .separated hd hw, hends, hsep⟩
    · cases hc : isDecimalDigit c with
      | true =>
        obtain ⟨e, he, rfl⟩ := exists_of_isDecimalDigit hc
        rw [WritesNat.separatedAfter_digitChar he] at h
        obtain ⟨run, rest, n, k, rfl, hw, hends, hsep⟩ := exists_run text he h
        exact ⟨Nat.digitChar e :: run, rest, _, _, rfl, .digit hd hw, hends, hsep⟩
      | false =>
        refine ⟨[], c :: text, d, 1, rfl, .last hd, endsDigits_cons hc hu, ?_⟩
        rwa [separatedAfter_of_ne hu] at h ⊢
termination_by text => text.length

/-- A text with its underscores in their place begins with a run of digits or with none. -/
theorem exists_digits {text : List Char} (h : separatedAfter 10 false text = true) :
    ∃ run rest, text = run ++ rest ∧ (run = [] ∨ ∃ n k, WritesNat run n k) ∧
      EndsDigits rest ∧ separatedAfter 10 false rest = true := by
  cases text with
  | nil => exact ⟨[], [], rfl, .inl rfl, endsDigits_nil, rfl⟩
  | cons c text =>
    have hu : c ≠ '_' := by
      rintro rfl
      rw [separatedAfter, if_pos rfl] at h
      cases h
    cases hc : isDecimalDigit c with
    | true =>
      obtain ⟨d, hd, rfl⟩ := exists_of_isDecimalDigit hc
      rw [WritesNat.separatedAfter_digitChar hd] at h
      obtain ⟨run, rest, n, k, rfl, hw, hends, hsep⟩ := exists_run text hd h
      exact ⟨Nat.digitChar d :: run, rest, rfl, .inr ⟨n, k, hw⟩, hends, hsep⟩
    | false => exact ⟨[], c :: text, rfl, .inl rfl, endsDigits_cons hc hu, h⟩

theorem EndsDigits.head {text : List Char} (h : EndsDigits text) :
    ∀ c ∈ (withoutSeparators text).head?, isDecimalDigit c = false := by
  cases text with
  | nil => exact fun _ h => nomatch h
  | cons c text =>
    obtain ⟨hd, hu⟩ := h c rfl
    rw [withoutSeparators_cons hu]
    intro a ha
    obtain rfl := Option.some.inj ha
    exact hd

theorem EndsDigits.eq_nil {text : List Char} (h : EndsDigits text)
    (he : withoutSeparators text = []) : text = [] := by
  cases text with
  | nil => rfl
  | cons c text =>
    rw [withoutSeparators_cons (h c rfl).2] at he
    cases he

/-- The digits of a run, or of none. -/
theorem digital_withoutSeparators {run : List Char} (h : run = [] ∨ ∃ n k, WritesNat run n k) :
    ∀ c ∈ withoutSeparators run, isDecimalDigit c = true := by
  rcases h with rfl | ⟨n, k, h⟩
  · exact fun _ h => nomatch h
  · exact h.cleaned.digital

/-- **A text of digits is a run**, if its underscores are in their place. -/
theorem writesNat_of_separated {text : List Char} (h : separatedAfter 10 false text = true)
    (hd : ∀ c ∈ withoutSeparators text, isDecimalDigit c = true)
    (hne : withoutSeparators text ≠ []) :
    WritesNat text (natOfDigits 10 (withoutSeparators text)) (withoutSeparators text).length := by
  obtain ⟨run, rest, rfl, hrun, hends, -⟩ := exists_digits h
  rw [withoutSeparators_append] at hd hne ⊢
  have hrest : withoutSeparators rest = [] := by
    cases hr : withoutSeparators rest with
    | nil => rfl
    | cons c cs =>
      have hc := hends.head c (by rw [hr]; rfl)
      rw [hd c (by rw [hr]; simp)] at hc
      cases hc
  obtain rfl := hends.eq_nil hrest
  rw [hrest, List.append_nil] at hne ⊢
  rcases hrun with rfl | ⟨n, k, hw⟩
  · exact absurd rfl hne
  · rw [List.append_nil, hw.cleaned.value, hw.cleaned.length]
    exact hw

/-! ## Parts of literals -/

theorem withoutSeparators_eq_cons {c : Char} {text more : List Char} (h : EndsDigits text)
    (he : withoutSeparators text = c :: more) :
    ∃ rest, text = c :: rest ∧ more = withoutSeparators rest := by
  cases text with
  | nil => cases he
  | cons a text =>
    rw [withoutSeparators_cons (h a rfl).2] at he
    obtain ⟨rfl, rfl⟩ := List.cons.inj he
    exact ⟨text, rfl, rfl⟩

theorem separatedAfter_tail {c : Char} {rest : List Char} {after : Bool}
    (hd : isDecimalDigit c = false) (hu : c ≠ '_')
    (h : separatedAfter 10 after (c :: rest) = true) : separatedAfter 10 false rest = true := by
  rw [separatedAfter_of_ne hu] at h
  have hc : isDigitOf 10 c = false := hd
  rwa [hc] at h

/-- What is taken off a text is its sign. -/
theorem exists_sign (text : List Char) : ∃ sign s, text = sign ++ (splitSign text).2 ∧
    WritesSign sign s ∧ s = if (splitSign text).1 then -1 else 1 := by
  rcases sign_cases text with ⟨rest, rfl⟩ | ⟨rest, rfl⟩ | hu
  · exact ⟨['-'], -1, rfl, .minus, rfl⟩
  · exact ⟨['+'], 1, rfl, .plus, rfl⟩
  · rw [splitSign_of_unsigned hu]
    exact ⟨[], 1, rfl, .none, rfl⟩

/-- A sign is one with underscores behind it or without. -/
theorem splitSign_withoutSeparators {text : List Char} (h : separatedAfter 10 false text = true) :
    ∃ sign rest s, text = sign ++ rest ∧ WritesSign sign s ∧
      separatedAfter 10 false rest = true ∧
      (splitSign (withoutSeparators text)).2 = withoutSeparators rest ∧
      s = if (splitSign (withoutSeparators text)).1 then -1 else 1 := by
  rcases sign_cases text with ⟨rest, rfl⟩ | ⟨rest, rfl⟩ | hu
  · refine ⟨['-'], rest, -1, rfl, .minus, separatedAfter_tail (by decide) (by decide) h, ?_⟩
    rw [withoutSeparators_cons (by decide)]
    exact ⟨rfl, rfl⟩
  · refine ⟨['+'], rest, 1, rfl, .plus, separatedAfter_tail (by decide) (by decide) h, ?_⟩
    rw [withoutSeparators_cons (by decide)]
    exact ⟨rfl, rfl⟩
  · refine ⟨[], text, 1, rfl, .none, h, ?_⟩
    rw [splitSign_of_unsigned (Decimal.unsigned_withoutSeparators h hu)]
    exact ⟨rfl, rfl⟩

namespace Decimal

/-- **An exponent that is read is written.** -/
theorem writesExponent_of_readExponent? {power : List Char} {e : Int} (hends : EndsDigits power)
    (hsep : separatedAfter 10 false power = true)
    (h : readExponent? (withoutSeparators power) = some e) : WritesExponent power e := by
  cases hp : withoutSeparators power with
  | nil =>
    rw [hp] at h
    obtain rfl := Option.some.inj h
    rw [hends.eq_nil hp]
    exact .none
  | cons mark more =>
    obtain ⟨rest, rfl, rfl⟩ := withoutSeparators_eq_cons hends hp
    have hrest := separatedAfter_tail (hends mark rfl).1 (hends mark rfl).2 hsep
    obtain ⟨sign, digits, s, rfl, hs, hdigits, hsplit, hfactor⟩ := splitSign_withoutSeparators hrest
    rcases hss : splitSign (withoutSeparators (sign ++ digits)) with ⟨negative, cleaned⟩
    rw [hss] at hsplit hfactor
    obtain rfl : cleaned = withoutSeparators digits := hsplit
    simp only [hp, readExponent?, hss] at h
    split at h
    next hcond =>
      obtain ⟨hm, hne, hall⟩ := hcond
      have hw := writesNat_of_separated hdigits (List.all_eq_true.mp hall) hne
      have he := WritesExponent.power hm hs hw
      obtain rfl := Option.some.inj h
      rw [hfactor] at he
      cases negative
      · simpa using he
      · simpa using he
    · cases h

/-- Runs on both sides of a point, one of which may be left out. -/
theorem writesMantissa_of_runs {whole fraction : List Char}
    (hw : whole = [] ∨ ∃ n k, WritesNat whole n k)
    (hf : fraction = [] ∨ ∃ n k, WritesNat fraction n k)
    (hne : ¬ (withoutSeparators whole = [] ∧ withoutSeparators fraction = [])) :
    WritesMantissa (whole ++ '.' :: fraction)
      (natOfDigits 10 (withoutSeparators whole ++ withoutSeparators fraction))
      (withoutSeparators fraction).length := by
  rcases hw with rfl | ⟨n, k, hw⟩
  · rcases hf with rfl | ⟨n, k, hf⟩
    · exact absurd ⟨rfl, rfl⟩ hne
    · change WritesMantissa ('.' :: fraction) (natOfDigits 10 (withoutSeparators fraction)) _
      rw [hf.cleaned.value, hf.cleaned.length]
      exact .fraction hf
  · rcases hf with rfl | ⟨m, j, hf⟩
    · rw [show withoutSeparators [] = [] from rfl, List.append_nil, hw.cleaned.value]
      exact .wholePoint hw
    · rw [natOfDigits_append, hw.cleaned.value, hf.cleaned.value, hf.cleaned.length]
      exact .both hw hf

/-- **Digits that are read are written.** -/
theorem writes_of_parts? {text whole fraction : List Char} {e : Int}
    (hsep : separatedAfter 10 false text = true)
    (h : parts? (withoutSeparators text) = some (whole, fraction, e)) :
    ∃ digits power, text = digits ++ power ∧ WritesExponent power e ∧
      WritesMantissa digits (natOfDigits 10 (whole ++ fraction)) fraction.length := by
  obtain ⟨run, rest, rfl, hrun, hends, hrest⟩ := exists_digits hsep
  obtain ⟨htake, hdrop⟩ := span_digits (digital_withoutSeparators hrun) hends.head
  rw [withoutSeparators_append, parts?, htake, hdrop] at h
  by_cases hp : ∃ more, withoutSeparators rest = '.' :: more
  · obtain ⟨more, hp⟩ := hp
    obtain ⟨behind, rfl, rfl⟩ := withoutSeparators_eq_cons hends hp
    have hbehind := separatedAfter_tail (by decide) (by decide) hrest
    obtain ⟨run', power, rfl, hrun', hends', hpower⟩ := exists_digits hbehind
    obtain ⟨htake', hdrop'⟩ := span_digits (digital_withoutSeparators hrun') hends'.head
    simp only [hp, splitFraction, withoutSeparators_append, htake', hdrop'] at h
    split at h
    · cases h
    next hne =>
      obtain ⟨e', he, heq⟩ := Option.map_eq_some_iff.mp h
      obtain ⟨rfl, rfl, rfl⟩ := heq
      exact ⟨run ++ '.' :: run', power, by simp,
        writesExponent_of_readExponent? hends' hpower he, writesMantissa_of_runs hrun hrun' hne⟩
  · have hsplit : splitFraction (withoutSeparators rest) = ([], withoutSeparators rest) := by
      rw [splitFraction]
      exact fun more hmore => hp ⟨more, hmore⟩
    simp only [hsplit, and_true] at h
    split at h
    · cases h
    next hne =>
      obtain ⟨e', he, heq⟩ := Option.map_eq_some_iff.mp h
      obtain ⟨rfl, rfl, rfl⟩ := heq
      refine ⟨run, rest, rfl, writesExponent_of_readExponent? hends hrest he, ?_⟩
      rcases hrun with rfl | ⟨n, k, hw⟩
      · exact absurd rfl hne
      · rw [List.append_nil, hw.cleaned.value]
        exact .whole hw

/-- Where there is no sign in front of the digits, nothing is taken off. -/
theorem splitInnerSign_eq_nil {text : List Char} (h : (splitInnerSign text).1 = []) :
    (splitInnerSign text).2 = text := by
  rcases sign_cases text with ⟨rest, rfl⟩ | ⟨rest, rfl⟩ | hu
  · cases h
  · cases h
  · rw [splitInnerSign_of_unsigned hu]

/-- **What is read with one sign at most is written.** -/
theorem writes_of_read? {text : List Char} {d : Decimal} (h : read? text = some d)
    (hi : d.innerSign = []) : Writes text d.exact := by
  obtain ⟨hsep, hr⟩ := read?_eq_some.mp h
  obtain ⟨hn, hinner, hp⟩ := readDigits?_eq_some.mp hr
  rw [splitInnerSign_eq_nil (hinner.symm.trans hi)] at hp
  obtain ⟨front, power, hrest, he, hm⟩ := writes_of_parts? hsep hp
  obtain ⟨sign, s, htext, hs, hfactor⟩ := exists_sign text
  have hexact : d.exact = s * natOfDigits 10 (d.whole ++ d.fraction) *
      10 ^ (d.exponent - d.fraction.length) := by
    rw [Decimal.exact, isNegative_eq hi, hn, hfactor, mantissa, digits, scale]
    cases (splitSign text).1 <;> simp [signFactor]
  rw [htext, hrest, hexact]
  exact .literal hs hm he

end Decimal

/-- **A decimal literal is what is read with one sign at most.** -/
theorem writes_iff_read? {text : List Char} {v : ℚ} :
    Writes text v ↔ ∃ d, Decimal.read? text = some d ∧ d.innerSign = [] ∧ d.exact = v := by
  constructor
  · exact Writes.exists_read
  · rintro ⟨d, h, hi, rfl⟩
    exact Decimal.writes_of_read? h hi

/-! ## Decimal numbers -/

/-- A number whose text has one sign at most writes a value, and so does its canonical text. -/
theorem Numeric.writes_canonical {n : Numeric} {v : ℚ} (h : Writes n.literal.toList v) :
    Writes n.canonical.toList v := by
  obtain ⟨d, -, hd, hi, hsome, rfl, hc⟩ := Decimal.exists_parts h n.reads
  obtain ⟨_, _, _, hform⟩ := Decimal.exists_form hd hi hsome
  rw [← hc]
  exact hform.writes

theorem Numeric.exists_writes {n : Numeric} (h : SingleSigned n.literal.toList) :
    ∃ v, Writes n.literal.toList v := by
  obtain ⟨d, hd, -⟩ := Decimal.evaluate?_eq_some.mp n.reads
  exact ⟨d.exact, Decimal.writes_of_read? hd (Decimal.innerSign_of_singleSigned hd h)⟩

end PathExpr
