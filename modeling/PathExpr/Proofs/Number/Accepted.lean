import PathExpr.Proofs.Number.Readable
import PathExpr.Proofs.Number.Rounding
import PathExpr.Regex.Test

/-!
# PathExpr/Proofs/Number/Accepted — which texts are decimal numbers

A text with one sign at most is accepted as a decimal number exactly if it is a literal whose number
can be rounded, and not to zero unless it is zero (`isSome_evaluate?_iff_rounded`).  The binary64
number is its value rounded, and the canonical text writes that value.

A text with two signs (`DoublySigned`) is no literal, but the first sign is taken off and the second
one goes with the digits, so that it is accepted, too (`isSome_evaluate?_of_doublySigned`), and the
canonical text has both.
-/

namespace PathExpr

/-! ## Literals with two signs -/

/-- A sign before a literal that has a sign of its own. -/
inductive DoublySigned : List Char → ℚ → Prop
  | literal {outer inner digits power : List Char} {s s' e : Int} {n k : Nat}
      (ho : WritesSign outer s) (ho' : outer ≠ []) (hi : WritesSign inner s') (hi' : inner ≠ [])
      (hm : WritesMantissa digits n k) (he : WritesExponent power e) :
      DoublySigned (outer ++ (inner ++ (digits ++ power))) (s * s' * n * 10 ^ (e - k))

namespace Decimal

variable {text : List Char} {v : ℚ} {d : Decimal}

/-- A sign that is there is taken off, whatever follows it. -/
theorem splitSign_of_writesSign {sign rest : List Char} {s : Int} (h : WritesSign sign s)
    (hne : sign ≠ []) : splitSign (sign ++ rest) = (decide (s = -1), rest) := by
  cases h with
  | none => exact absurd rfl hne
  | plus | minus => rfl

/-- …and is found in front of the digits. -/
theorem splitInnerSign_of_writesSign {sign : List Char} {s : Int} (h : WritesSign sign s)
    (hne : sign ≠ []) (rest : List Char) :
    splitInnerSign (sign ++ rest) = (sign, rest) ∧ (decide (sign = ['-']) = decide (s = -1)) := by
  cases h with
  | none => exact absurd rfl hne
  | plus | minus => exact ⟨rfl, rfl⟩

/-- No underscore stands right behind a sign. -/
theorem separated_sign {sign rest : List Char} {s : Int} (h : WritesSign sign s) :
    separatedAfter 10 false (sign ++ rest) = separatedAfter 10 false rest := by
  cases h with
  | none => rfl
  | plus | minus => exact separatedAfter_of_ne (by decide) false

/-- **A literal with two signs is read with a sign in front of its digits**… -/
theorem exists_read_of_doublySigned (h : DoublySigned text v) :
    ∃ d, read? text = some d ∧ d.innerSign ≠ [] ∧ d.exact = v := by
  cases h with
  | @literal outer inner digits power s s' e n k ho ho' hi hi' hm he =>
    obtain ⟨hread, hends, hsep⟩ := he.readExponent?
    obtain ⟨whole, fraction, hparts, hn, hk⟩ := hm.parts? hends hread
    obtain ⟨hinner, hminus⟩ := splitInnerSign_of_writesSign hi hi'
      (withoutSeparators digits ++ withoutSeparators power)
    let d : Decimal := ⟨decide (s = -1), inner, whole, fraction, e⟩
    refine ⟨d, read?_eq_some.mpr ?_, hi', ?_⟩
    · rw [splitSign_of_writesSign ho ho', hi.withoutSeparators_append, withoutSeparators_append,
        readDigits?_eq_some, hinner]
      exact ⟨(separated_sign hi).trans (hm.separatedAfter_append hsep false), rfl, rfl, hparts⟩
    · have hmantissa : d.mantissa = n := hn
      have hscale : d.scale = e - k := congrArg (e - ·) (congrArg Nat.cast hk)
      have hnegative : d.isNegative = (decide (s = -1) != decide (s' = -1)) := by
        rw [isNegative, hminus]
      rw [Decimal.exact, hmantissa, hscale, hnegative]
      cases ho <;> cases hi <;> simp [signFactor]

theorem exists_innerSign {rest : List Char} (hsep : separatedAfter 10 false rest = true)
    (hne : (splitInnerSign (withoutSeparators rest)).1 ≠ []) :
    ∃ inner s r, rest = inner ++ r ∧ WritesSign inner s ∧ inner ≠ [] := by
  rcases sign_cases rest with ⟨r, rfl⟩ | ⟨r, rfl⟩ | hu
  · exact ⟨['-'], -1, r, rfl, .minus, List.cons_ne_nil _ _⟩
  · exact ⟨['+'], 1, r, rfl, .plus, List.cons_ne_nil _ _⟩
  · rw [splitInnerSign_of_unsigned (unsigned_withoutSeparators hsep hu)] at hne
    exact absurd rfl hne

/-- …and what is read with one is such a literal. -/
theorem doublySigned_of_read? (h : read? text = some d) (hne : d.innerSign ≠ []) :
    DoublySigned text d.exact := by
  obtain ⟨hsep, hr⟩ := read?_eq_some.mp h
  obtain ⟨hn, hinner, hp⟩ := readDigits?_eq_some.mp hr
  obtain ⟨outer, s, htext, ho, hs⟩ := exists_sign text
  obtain ⟨inner, s', r, hrest, hi, hi'⟩ := exists_innerSign hsep (hinner ▸ hne)
  have ho' : outer ≠ [] := by
    -- Without a first sign the second one would have been taken off.
    rintro rfl
    rw [List.nil_append, hrest] at htext
    rw [htext, splitSign_of_writesSign hi hi'] at hrest
    exact hi' (List.self_eq_append_left.mp hrest)
  obtain ⟨hsplit, hminus⟩ := splitInnerSign_of_writesSign hi hi' (withoutSeparators r)
  rw [hrest, separated, separated_sign hi] at hsep
  rw [hrest, hi.withoutSeparators_append, hsplit] at hinner hp
  obtain ⟨front, power, hfront, he, hm⟩ := writes_of_parts? hsep hp
  have hexact : d.exact = s * s' * natOfDigits 10 (d.whole ++ d.fraction) *
      10 ^ (d.exponent - d.fraction.length) := by
    rw [Decimal.exact, isNegative, hn, hinner, hminus, hs, mantissa, digits, scale]
    cases hi <;> cases (splitSign text).1 <;> simp [signFactor]
  rw [htext, hrest, hfront, hexact]
  exact .literal ho ho' hi hi' hm he

theorem writes_or_doublySigned (h : read? text = some d) :
    Writes text d.exact ∨ DoublySigned text d.exact := by
  by_cases hi : d.innerSign = []
  · exact .inl (writes_of_read? h hi)
  · exact .inr (doublySigned_of_read? h hi)

/-- **With one sign at most, a text is accepted exactly if it is a literal whose number can be
rounded, and not to zero unless it is zero.** -/
theorem isSome_evaluate?_iff_rounded (hs : SingleSigned text) : (evaluate? text).isSome = true ↔
    ∃ v x, Writes text v ∧ Binary64.Rounded v x ∧ (x.toRat = 0 → v = 0) := by
  constructor
  · intro h
    obtain ⟨⟨t, x⟩, he⟩ := Option.isSome_iff_exists.mp h
    obtain ⟨d, hr, hx, -⟩ := evaluate?_eq_some.mp he
    exact ⟨d.exact, x, writes_of_read? hr (innerSign_of_singleSigned hr hs),
      rounded_of_binary64? (digital_of_read? hr) hx⟩
  · rintro ⟨v, x, hv, hx⟩
    exact (isSome_evaluate?_iff hv).mpr (Binary64.sized_iff_rounded.mpr ⟨x, hx⟩)

theorem length_innerSign_le (h : read? text = some d) : d.innerSign.length ≤ 1 := by
  obtain ⟨-, hr⟩ := read?_eq_some.mp h
  obtain ⟨-, hi, -⟩ := readDigits?_eq_some.mp hr
  rw [hi, splitInnerSign.eq_def]
  split <;> simp

/-- **With two signs it is accepted where its number is not rounded to zero.**  A zero is accepted
unless its exponent is out of range: it is kept behind the second sign. -/
theorem isSome_evaluate?_of_doublySigned {x : Binary64} (h : DoublySigned text v)
    (hlen : text.length ≤ 2 ^ 62) (hx : Binary64.Rounded v x) (hne : x.toRat ≠ 0) :
    (evaluate? text).isSome = true := by
  obtain ⟨d, hr, -, rfl⟩ := exists_read_of_doublySigned h
  have hd := digital_of_read? hr
  have hsome := (isSome_binary64?_iff_sized hd).mpr
    (Binary64.sized_iff_rounded.mpr ⟨x, hx, fun h0 => absurd h0 hne⟩)
  obtain ⟨value, hvalue⟩ := Option.isSome_iff_exists.mp hsome
  have hsignificant : d.significant ≠ [] := by
    intro hnil
    rw [(exact_eq_zero_iff hd).mpr hnil] at hx
    have hzero := hx.toRounds.unique (Binary64.rounds_zero false)
    exact hne (hzero.trans (Binary64.toRat_eq_zero.mpr rfl))
  obtain ⟨hlow, hhigh, -⟩ := ((isSome_binary64?_iff hd).mp hsome).resolve_left hsignificant
  have hwritten : d.formatted?.isSome = true := by
    unfold formatted?
    split
    · rfl
    · rw [canonical64?_eq_of_magnitude (length_innerSign_le hr) hlow hhigh
        ((length_digits_le hr).trans (by omega))]
      rfl
  rw [evaluate?_eq_some.mpr ⟨d, hr, hvalue, rfl, hwritten⟩]
  rfl

example : (evaluate? "--0e9223372036854775807".toList).isSome = false := by decide +kernel

/-- A literal with two signs is not one with one. -/
theorem not_doublySigned (h : SingleSigned text) : ¬ DoublySigned text v := by
  intro hd
  obtain ⟨d, hr, hi, -⟩ := exists_read_of_doublySigned hd
  exact hi (innerSign_of_singleSigned hr h)

end Decimal

/-! ## Decimal numbers -/

open Decimal

theorem exists_ofNumeric_iff [Regex.Engine] (text : String) :
    (∃ node, Node.ofNumeric text = .ok node) ↔ (evaluate? text.toList).isSome = true := by
  rw [← Numeric.isSome_ofText?, Option.isSome_iff_exists]
  constructor
  · rintro ⟨node, h⟩
    obtain ⟨n, hn, -⟩ := Node.ofNumeric_eq_ok.mp h
    exact ⟨n, Numeric.ofText?_eq_some.mpr hn⟩
  · rintro ⟨n, h⟩
    exact ⟨.numeric n, Node.ofNumeric_eq_ok.mpr ⟨n, Numeric.ofText?_eq_some.mp h, rfl⟩⟩

theorem Numeric.exists_rounded (n : Numeric) :
    ∃ v, (Writes n.literal.toList v ∨ DoublySigned n.literal.toList v) ∧
      Binary64.Rounded v n.value ∧ (n.value.toRat = 0 → v = 0) := by
  obtain ⟨d, hr, hx, -⟩ := evaluate?_eq_some.mp n.reads
  exact ⟨d.exact, writes_or_doublySigned hr, rounded_of_binary64? (digital_of_read? hr) hx⟩

/-- The canonical text of a literal with one sign at most is found with numbers of 64 bits. -/
theorem Numeric.formats {n : Numeric} (h : SingleSigned n.literal.toList)
    (hsize : n.literal.utf8ByteSize < 2 ^ 62) : Formats n.literal.toList n.canonical.toList := by
  obtain ⟨d, hr, -⟩ := evaluate?_eq_some.mp n.reads
  have hlen := length_le_utf8Len n.literal.toList
  rw [String.utf8Len_toList] at hlen
  exact formats_of_evaluate? n.reads hr (innerSign_of_singleSigned hr h) (by omega)

/-- **Decimal numbers are accepted and rounded as their literals say**, but for a second sign. -/
theorem numerics_read_exactly [Regex.Engine] (text : String) :
    -- With one sign at most, a text is accepted exactly if it is a literal that can be rounded,
    (SingleSigned text.toList →
      ((∃ node, Node.ofNumeric text = .ok node) ↔
        ∃ v x, Writes text.toList v ∧ Binary64.Rounded v x ∧ (x.toRat = 0 → v = 0)) ∧
      -- and what the canonical text writes is what is rounded.
      ∀ node, Node.ofNumeric text = .ok node → ∃ n v, node = .numeric n ∧
        Writes text.toList v ∧ Writes n.canonical.toList v ∧ Binary64.Rounded v n.value ∧
          (text.utf8ByteSize < 2 ^ 62 → Formats text.toList n.canonical.toList)) ∧
    -- Whatever is accepted is a literal, or one with a second sign, and it is rounded to nothing
    -- but what it writes.
    (∀ node, Node.ofNumeric text = .ok node → ∃ n v, node = .numeric n ∧
      (Writes text.toList v ∨ DoublySigned text.toList v) ∧ Binary64.Rounded v n.value ∧
        (n.value.toRat = 0 → v = 0)) ∧
    -- The second sign is let through, at least where the number is not rounded to zero.
    (text.utf8ByteSize < 2 ^ 62 → ∀ v x, DoublySigned text.toList v → Binary64.Rounded v x →
      x.toRat ≠ 0 → ∃ node, Node.ofNumeric text = .ok node) := by
  have haccepted := exists_ofNumeric_iff text
  refine ⟨fun hs => ⟨haccepted.trans (isSome_evaluate?_iff_rounded hs), fun node h => ?_⟩,
    fun node h => ?_, fun hsize v x hv hx hne => haccepted.mpr ?_⟩
  · obtain ⟨n, rfl, rfl⟩ := Node.ofNumeric_eq_ok.mp h
    obtain ⟨v, hv, hx, -⟩ := n.exists_rounded
    have hw := hv.resolve_right (not_doublySigned hs)
    exact ⟨n, v, rfl, hw, Numeric.writes_canonical hw, hx, n.formats hs⟩
  · obtain ⟨n, rfl, rfl⟩ := Node.ofNumeric_eq_ok.mp h
    obtain ⟨v, hv, hx⟩ := n.exists_rounded
    exact ⟨n, v, rfl, hv, hx⟩
  · have hlen := length_le_utf8Len text.toList
    rw [String.utf8Len_toList] at hlen
    exact isSome_evaluate?_of_doublySigned hv (by omega) hx hne

/-- **A second sign is let through.**  The text is no literal, but it is a number, whose canonical
text is none either. -/
theorem doubly_signed_accepted :
    (∃ n : Numeric, Node.ofNumeric "--1.5" = .ok (.numeric n) ∧ n.canonical = "--1.5" ∧
      n.value.toRat = 3 / 2) ∧
    ¬ ∃ v, Writes "--1.5".toList v := by
  have hreads : evaluate? "--1.5".toList =
      some ("--1.5".toList, ⟨false, 6755399441055744, -52⟩) := by
    decide +kernel
  constructor
  · refine ⟨⟨"--1.5", "--1.5", ⟨false, 6755399441055744, -52⟩, hreads⟩,
      Node.ofNumeric_eq_ok.mpr ⟨_, rfl, rfl⟩, rfl, ?_⟩
    norm_num [Binary64.toRat, signFactor]
  · rintro ⟨v, hv⟩
    obtain ⟨d, hr, hi, -⟩ := hv.exists_read
    have hinner : (read? "--1.5".toList).map Decimal.innerSign = some ['-'] := by decide +kernel
    rw [hr, Option.map_some, hi] at hinner
    cases hinner

end PathExpr
