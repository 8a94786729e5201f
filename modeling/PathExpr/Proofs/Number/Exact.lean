import PathExpr.Chain.Equality
import PathExpr.Proofs.Number.Bounds
import PathExpr.Proofs.Number.Written
import PathExpr.Regex.Test

/-!
# PathExpr/Proofs/Number/Exact — canonical texts are exact and unique

A value other than zero is written in one way as significant digits with a power of ten
(`significant_unique`), so literals of one value have one canonical text (`canonical_congr`).  The
canonical text is in normal form and writes the value of its literal (`exists_formats`), so
literals of different values have different ones.
-/

namespace PathExpr

namespace Decimal

variable {whole fraction : List Char} {d d' : Decimal}

/-! ## Normal forms -/

/-- Texts in normal form: digits without needless zeros on either side, and no minus before zero. -/
inductive Normal : List Char → Prop
  | unsigned {whole fraction : List Char} (h : Plain whole fraction)
      (hl : fraction.getLast? ≠ some '0') : Normal (whole ++ pointed fraction)
  | minus {whole fraction : List Char} (h : Plain whole fraction)
      (hl : fraction.getLast? ≠ some '0') (hne : ¬ (whole = ['0'] ∧ fraction = [])) :
      Normal ('-' :: (whole ++ pointed fraction))

/-- The sign in front of a canonical text. -/
def signText (negative : Bool) : List Char := if negative then ['-'] else []

theorem read?_signText (h : Plain whole fraction) (negative : Bool) :
    read? (signText negative ++ (whole ++ pointed fraction)) =
      some (plain negative whole fraction) := by
  cases negative
  · exact (read?_plain h).1
  · exact (read?_plain h).2

/-! ## Values of parts -/

theorem signFactor_ne_zero (negative : Bool) : signFactor negative ≠ 0 := by
  cases negative <;> norm_num [signFactor]

theorem isNegative_eq (hi : d.innerSign = []) : d.isNegative = d.negative := by
  simp [isNegative, hi]

theorem isNegative_plain (negative : Bool) :
    (plain negative whole fraction).isNegative = negative := isNegative_eq rfl

/-- **The value is that of the significant digits after the magnitude.** -/
theorem exact_eq (d : Decimal) : d.exact = signFactor d.isNegative *
    (natOfDigits 10 d.significant * 10 ^ (d.magnitude - d.significant.length)) := by
  obtain ⟨n, hmantissa, hmagnitude⟩ := mantissa_eq d
  have hexp : d.magnitude - d.significant.length = n + d.scale := by omega
  rw [hexp, zpow_add₀ (by norm_num), zpow_natCast, exact, hmantissa]
  push_cast
  ring

theorem exact_eq_zero_iff (hd : d.Digital) : d.exact = 0 ↔ d.significant = [] := by
  rw [← mantissa_eq_zero_iff hd, exact]
  simp [signFactor_ne_zero, zpow_ne_zero]

/-! ## Significant digits and powers of ten -/

/-- Significant digits write no multiple of ten. -/
theorem Significant.not_dvd {s : List Char} (h : Significant s) : ¬ 10 ∣ natOfDigits 10 s := by
  obtain ⟨init, c, rfl⟩ := (List.eq_nil_or_concat' s).resolve_left h.ne_nil
  have hlast : c ≠ '0' := by
    rintro rfl
    exact h.last (by simp)
  have hpos := getD_digitValue?_pos (h.digital c (by simp)) hlast
  have hlt := getD_digitValue?_lt (by decide : 0 < 10) c
  rw [natOfDigits_append_singleton]
  omega

theorem Significant.toDigits {s : List Char} (h : Significant s) :
    Nat.toDigits 10 (natOfDigits 10 s) = s :=
  toDigits_natOfDigits h.digital h.ne_nil h.head

theorem Significant.value_pos {s : List Char} (h : Significant s) (a : Int) :
    0 < (natOfDigits 10 s : ℚ) * 10 ^ a := by
  have hpos := natOfDigits_pos h.digital h.ne_nil h.head
  exact mul_pos (by exact_mod_cast hpos) (zpow_pos (by norm_num) a)

theorem exponent_le {m n : Nat} {a b : Int} (hm : ¬ 10 ∣ m) (h : (m : ℚ) * 10 ^ a = n * 10 ^ b) :
    b ≤ a := by
  -- A greater power on the right would leave a factor of ten in `m`.
  by_contra hlt
  obtain ⟨k, rfl⟩ : ∃ k : Nat, b = a + (k + 1 : Nat) := ⟨(b - a - 1).toNat, by omega⟩
  rw [zpow_add₀ (by norm_num), zpow_natCast, mul_left_comm, mul_comm] at h
  have heq : (m : ℚ) = n * 10 ^ (k + 1) := mul_left_cancel₀ (zpow_ne_zero a (by norm_num)) h
  have hnat : m = n * 10 ^ (k + 1) := by exact_mod_cast heq
  exact hm ⟨n * 10 ^ k, by rw [hnat, pow_succ]; ring⟩

/-- **Significant digits with a power of ten are told by their value.** -/
theorem significant_unique {s s' : List Char} {a b : Int} (hs : Significant s)
    (hs' : Significant s')
    (h : (natOfDigits 10 s : ℚ) * 10 ^ a = natOfDigits 10 s' * 10 ^ b) : s = s' ∧ a = b := by
  obtain rfl : a = b := le_antisymm (exponent_le hs'.not_dvd h.symm) (exponent_le hs.not_dvd h)
  have heq := mul_right_cancel₀ (zpow_ne_zero a (by norm_num)) h
  have hnat : natOfDigits 10 s = natOfDigits 10 s' := by exact_mod_cast heq
  exact ⟨by rw [← hs.toDigits, hnat, hs'.toDigits], rfl⟩

/-- **Signs are told by the value**, too. -/
theorem sign_unique {negative negative' : Bool} {x y : ℚ} (hx : 0 < x) (hy : 0 < y)
    (h : signFactor negative * x = signFactor negative' * y) : negative = negative' ∧ x = y := by
  cases negative <;> cases negative' <;> simp [signFactor] at h ⊢ <;> linarith

/-- **Literals of one value have one canonical text.** -/
theorem canonical_congr (hd : d.Digital) (hd' : d'.Digital) (hi : d.innerSign = [])
    (hi' : d'.innerSign = []) (h : d.exact = d'.exact) : d.canonical = d'.canonical := by
  have hzero : d.significant = [] ↔ d'.significant = [] := by
    rw [← exact_eq_zero_iff hd, ← exact_eq_zero_iff hd', h]
  rw [canonical_eq hi, canonical_eq hi']
  by_cases hne : d.significant = []
  · rw [if_pos hne, if_pos (hzero.mp hne)]
  · have hs := significant_of_ne_nil hd hne
    have hs' := significant_of_ne_nil hd' (mt hzero.mpr hne)
    rw [exact_eq, exact_eq, isNegative_eq hi, isNegative_eq hi'] at h
    obtain ⟨hsign, hvalue⟩ := sign_unique (hs.value_pos _) (hs'.value_pos _) h
    obtain ⟨hsig, hexp⟩ := significant_unique hs hs' hvalue
    have hmag : d.magnitude = d'.magnitude := by
      rw [hsig] at hexp
      omega
    rw [if_neg hne, if_neg (mt hzero.mpr hne), hsign, hsig, hmag]

/-! ## Canonical texts -/

theorem writesSign_signText (negative : Bool) :
    WritesSign (signText negative) (if negative then -1 else 1) := by
  cases negative
  · exact .none
  · exact .minus

theorem writesMantissa_plain (h : Plain whole fraction) :
    WritesMantissa (whole ++ pointed fraction) (natOfDigits 10 (whole ++ fraction))
      fraction.length := by
  have hwhole := writesNat_of_digital h.whole_digital h.ne_nil
  unfold pointed
  split
  next hnil =>
    subst hnil
    simpa using WritesMantissa.whole hwhole
  next hne =>
    rw [natOfDigits_append]
    exact .both hwhole (writesNat_of_digital h.fraction_digital hne)

/-- A plain literal writes the value of its parts. -/
theorem writes_plain (h : Plain whole fraction) (negative : Bool) :
    Writes (signText negative ++ (whole ++ pointed fraction))
      (plain negative whole fraction).exact := by
  have hw := Writes.literal (writesSign_signText negative) (writesMantissa_plain h) .none
  have hvalue : (plain negative whole fraction).exact =
      ((if negative then -1 else 1 : Int) : ℚ) * natOfDigits 10 (whole ++ fraction) *
        10 ^ ((0 : Int) - fraction.length) := by
    rw [exact, isNegative_plain]
    cases negative <;> simp [signFactor, plain, mantissa, digits, scale]
  rwa [List.append_nil, ← hvalue] at hw

/-- The canonical text is a plain literal with these parts, which have the value. -/
structure Form (d : Decimal) (negative : Bool) (whole fraction : List Char) : Prop where
  isPlain : Plain whole fraction
  last : fraction.getLast? ≠ some '0'
  signed : negative = true → ¬ (whole = ['0'] ∧ fraction = [])
  text : d.canonical = signText negative ++ (whole ++ pointed fraction)
  value : (plain negative whole fraction).exact = d.exact
  isSome : (plain negative whole fraction).binary64?.isSome = true

theorem form_of_zero (hd : d.Digital) (hi : d.innerSign = []) (hz : d.significant = []) :
    Form d false ['0'] [] := by
  have hplain : Plain ['0'] [] := ⟨by simp, List.forall_mem_singleton.mpr rfl, by simp, .inl rfl⟩
  have hsig : (plain false ['0'] []).significant = [] := rfl
  refine ⟨hplain, nofun, nofun, ?_, ?_, ?_⟩
  · rw [canonical_eq hi, if_pos hz]
    rfl
  · rw [(exact_eq_zero_iff hd).mpr hz, (exact_eq_zero_iff (hplain.digital false)).mpr hsig]
  · exact (isSome_binary64?_iff (hplain.digital false)).mpr (.inl hsig)

theorem exists_form_of_ne (hd : d.Digital) (hi : d.innerSign = [])
    (hv : d.binary64?.isSome = true) (hne : d.significant ≠ []) :
    ∃ whole fraction, Form d d.negative whole fraction := by
  obtain ⟨whole, fraction, htext, hplain, hlast, hparts⟩ :=
    placePoint_eq (significant_of_ne_nil hd hne) d.magnitude
  obtain ⟨hs, hm⟩ := hparts d.negative
  refine ⟨whole, fraction, hplain, hlast, ?_, ?_, ?_, ?_⟩
  · rintro - ⟨rfl, rfl⟩
    exact hne hs.symm
  · rw [canonical_eq hi, if_neg hne, htext, signText]
  · rw [exact_eq, exact_eq, hs, hm, isNegative_plain, isNegative_eq hi]
  · exact isSome_binary64?_congr hd (hplain.digital _) hs.symm hm.symm hv

namespace Form

variable {negative : Bool}

theorem normal (h : Form d negative whole fraction) : Normal d.canonical := by
  rw [h.text]
  cases negative with
  | false => exact .unsigned h.isPlain h.last
  | true => exact .minus h.isPlain h.last (h.signed rfl)

theorem writes (h : Form d negative whole fraction) : Writes d.canonical d.exact := by
  rw [h.text, ← h.value]
  exact writes_plain h.isPlain negative

/-- The canonical text has itself as its canonical text. -/
theorem evaluate? (h : Form d negative whole fraction) (hd : d.Digital) (hi : d.innerSign = []) :
    ∃ value, Decimal.evaluate? d.canonical = some (d.canonical, value) := by
  obtain ⟨value, hvalue⟩ := Option.isSome_iff_exists.mp h.isSome
  refine ⟨value, evaluate?_eq_some.mpr ⟨_, ?_, hvalue, ?_, isSome_formatted? rfl⟩⟩
  · rw [h.text, read?_signText h.isPlain]
  · exact canonical_congr (h.isPlain.digital negative) hd rfl hi h.value

end Form

/-- **The canonical text is in normal form, writes the value, and is its own canonical text.** -/
theorem exists_form (hd : d.Digital) (hi : d.innerSign = []) (hv : d.binary64?.isSome = true) :
    ∃ negative whole fraction, Form d negative whole fraction := by
  by_cases hz : d.significant = []
  · exact ⟨_, _, _, form_of_zero hd hi hz⟩
  · obtain ⟨whole, fraction, h⟩ := exists_form_of_ne hd hi hv hz
    exact ⟨_, _, _, h⟩

/-! ## Canonical texts of texts -/

/-- The text is a decimal literal that has a value and the canonical text `t`, which is found with
numbers of 64 bits. -/
def Formats (text t : List Char) : Prop :=
  ∃ d value, read? text = some d ∧ evaluate? text = some (t, value) ∧ d.canonical64? = some t

theorem formats_of_evaluate? {text t : List Char} {value : Binary64}
    (h : evaluate? text = some (t, value)) (hr : read? text = some d) (hi : d.innerSign = [])
    (hlen : text.length ≤ 2 ^ 62 + 1000) : Formats text t := by
  obtain ⟨d', hd', hv, rfl, -⟩ := evaluate?_eq_some.mp h
  obtain rfl := Option.some.inj (hr.symm.trans hd')
  refine ⟨d, value, hr, h, canonical64?_eq (digital_of_read? hr) hi (by rw [hv]; rfl) ?_⟩
  exact (length_digits_le hr).trans hlen

/-- The parts of a literal that has a value. -/
theorem exists_parts {text t : List Char} {v : ℚ} {value : Binary64} (h : Writes text v)
    (he : evaluate? text = some (t, value)) :
    ∃ d, read? text = some d ∧ d.Digital ∧ d.innerSign = [] ∧ d.binary64?.isSome = true ∧
      d.exact = v ∧ d.canonical = t := by
  obtain ⟨d, hr, hi, hv⟩ := h.exists_read
  obtain ⟨d', hr', hvalue, ht, -⟩ := evaluate?_eq_some.mp he
  obtain rfl := Option.some.inj (hr.symm.trans hr')
  exact ⟨d, hr, digital_of_read? hr, hi, by rw [hvalue]; rfl, hv, ht⟩

/-- **A literal is formatted in normal form, without change of value and for good.** -/
theorem exists_formats {text : List Char} {v : ℚ} (h : Writes text v) (hlen : text.length ≤ 2 ^ 62)
    (hv : (evaluate? text).isSome = true) :
    ∃ t, Formats text t ∧ Normal t ∧ Writes t v ∧ Formats t t := by
  obtain ⟨⟨t, value⟩, he⟩ := Option.isSome_iff_exists.mp hv
  obtain ⟨d, hr, hd, hi, hsome, rfl, rfl⟩ := exists_parts h he
  obtain ⟨negative, whole, fraction, hform⟩ := exists_form hd hi hsome
  obtain ⟨value', he'⟩ := hform.evaluate? hd hi
  have hr' := hform.text ▸ read?_signText hform.isPlain negative
  -- The canonical text may have more digits than the text, as zeros take the place of an exponent.
  have hlength := (length_canonical_le hd hi hsome).trans
    (Nat.add_le_add_right (length_digits_le hr) _)
  exact ⟨_, formats_of_evaluate? he hr hi (by omega), hform.normal, hform.writes,
    formats_of_evaluate? he' hr' rfl (by omega)⟩

/-- A text writes one number at most. -/
theorem writes_unique {text : List Char} {v w : ℚ} (h : Writes text v) (h' : Writes text w) :
    v = w := by
  obtain ⟨d, hd, -, rfl⟩ := h.exists_read
  obtain ⟨d', hd', -, rfl⟩ := h'.exists_read
  rw [Option.some.inj (hd.symm.trans hd')]

/-- **Canonical texts are equal exactly if the values are.** -/
theorem canonical_eq_iff {text other t t' : List Char} {v w : ℚ} {x y : Binary64}
    (h : Writes text v) (h' : Writes other w) (he : evaluate? text = some (t, x))
    (he' : evaluate? other = some (t', y)) : t = t' ↔ v = w := by
  obtain ⟨d, -, hd, hi, hsome, rfl, rfl⟩ := exists_parts h he
  obtain ⟨d', -, hd', hi', hsome', rfl, rfl⟩ := exists_parts h' he'
  constructor
  · intro heq
    obtain ⟨_, _, _, hform⟩ := exists_form hd hi hsome
    obtain ⟨_, _, _, hform'⟩ := exists_form hd' hi' hsome'
    exact writes_unique (heq ▸ hform.writes) hform'.writes
  · exact canonical_congr hd hd' hi hi'

end Decimal

/-! ## Decimal numbers -/

open Decimal

/-- **Canonical texts are exact and unique.** -/
theorem canonical_texts_exact [Regex.Engine] {text : String} {v : ℚ} (h : Writes text.toList v)
    (hsize : text.utf8ByteSize < 2 ^ 62) (haccepted : (evaluate? text.toList).isSome = true) :
    -- The canonical text is in normal form, has the same value, and is its own canonical text.
    (∃ t, Formats text.toList t ∧ Normal t ∧ Writes t v ∧ Formats t t) ∧
    ∀ (other : String) (w : ℚ), Writes other.toList w →
      (evaluate? other.toList).isSome = true →
      -- Two of them are equal exactly if the values are,
      ((evaluate? text.toList).map Prod.fst = (evaluate? other.toList).map Prod.fst ↔ v = w) ∧
      -- and so numbers are the same exactly if their values are.
      ∀ a b : Numeric, a.literal = text → b.literal = other →
        ((Node.numeric a).same (.numeric b) = true ↔ v = w) := by
  have hlen := length_le_utf8Len text.toList
  rw [String.utf8Len_toList] at hlen
  refine ⟨exists_formats h (by omega) haccepted, fun other w h' haccepted' => ⟨?_, ?_⟩⟩
  · obtain ⟨⟨t, x⟩, he⟩ := Option.isSome_iff_exists.mp haccepted
    obtain ⟨⟨t', y⟩, he'⟩ := Option.isSome_iff_exists.mp haccepted'
    rw [he, he', ← canonical_eq_iff h h' he he']
    simp
  · rintro a b rfl rfl
    rw [← canonical_eq_iff h h' a.reads b.reads, String.toList_inj, Node.same]
    exact decide_eq_true_iff

theorem writes_oneAndHalf : Writes "1.50".toList (3 / 2) := by
  have h := Writes.literal .none
    (.both (.last (d := 1) (by decide)) (.digit (d := 5) (by decide) (.last (d := 0) (by decide))))
    .none
  norm_num at h
  exact h

theorem writes_fifteenTenths : Writes "15e-1".toList (3 / 2) := by
  have h := Writes.literal .none
    (.whole (.digit (d := 1) (by decide) (.last (d := 5) (by decide))))
    (.power (.inl rfl) .minus (.last (d := 1) (by decide)))
  norm_num at h
  exact h

theorem canonical_texts_exact_oneAndHalf :
    Writes "1.50".toList (3 / 2) ∧ "1.50".utf8ByteSize < 2 ^ 62 ∧
      (evaluate? "1.50".toList).isSome = true ∧
      (∃ t, Formats "1.50".toList t ∧ Normal t ∧ Writes t (3 / 2) ∧ Formats t t) ∧
      (evaluate? "1.50".toList).map Prod.fst = (evaluate? "15e-1".toList).map Prod.fst := by
  have hsize : "1.50".utf8ByteSize < 2 ^ 62 := by decide
  have haccepted : (evaluate? "1.50".toList).isSome = true := by decide +kernel
  have haccepted' : (evaluate? "15e-1".toList).isSome = true := by decide +kernel
  obtain ⟨hformats, hsame⟩ := canonical_texts_exact writes_oneAndHalf hsize haccepted
  obtain ⟨hcanonical, -⟩ := hsame "15e-1" (3 / 2) writes_fifteenTenths haccepted'
  exact ⟨writes_oneAndHalf, hsize, haccepted, hformats, hcanonical.mpr rfl⟩

end PathExpr
