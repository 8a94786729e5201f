import PathExpr.Proofs.Lexical.NumberWords
import PathExpr.Proofs.Number.Readable
import PathExpr.Proofs.Printing.Same

/-!
# PathExpr/Proofs/Number/Integers — integer literals and their values

`WritesInteger text v` says of a text that it is an integer literal, and which number it writes, by
its characters alone: a sign, a radix mark and digits.  Such a literal is read as what it writes,
and nothing else is read, as long as the number has 64 bits (`readInteger?_eq_some_iff`).

Where the text is a decimal literal as well, there is no radix mark in it, so it writes the same
number as one, and the canonical text of that number is the decimal text of the integer
(`Decimal.canonical_of_exact_eq`).
-/

namespace PathExpr

/-! ## The grammar -/

/-- The digit of the radix that has the value; letters stand for ten and above, in either case. -/
inductive WritesDigit (radix : Nat) : Char → Nat → Prop
  | lower {d : Nat} (h : d < radix) : WritesDigit radix (Nat.digitChar d) d
  | upper {d : Nat} (h : d < radix) : WritesDigit radix (Nat.digitChar d).toUpper d

/-- Digits of the radix with single underscores between, the number that they write, and how many
they are. -/
inductive WritesDigits (radix : Nat) : List Char → Nat → Nat → Prop
  | last {c : Char} {d : Nat} (h : WritesDigit radix c d) : WritesDigits radix [c] d 1
  | digit {c : Char} {d n k : Nat} {text : List Char} (h : WritesDigit radix c d)
      (hr : WritesDigits radix text n k) :
      WritesDigits radix (c :: text) (d * radix ^ k + n) (k + 1)
  | separated {c : Char} {d n k : Nat} {text : List Char} (h : WritesDigit radix c d)
      (hr : WritesDigits radix text n k) :
      WritesDigits radix (c :: '_' :: text) (d * radix ^ k + n) (k + 1)

/-- A radix mark, which may be left out, and the radix. -/
inductive RadixMark : List Char → Nat → Prop
  | none : RadixMark [] 10
  | binary {c : Char} (h : c = 'b' ∨ c = 'B') : RadixMark ['0', c] 2
  | octal {c : Char} (h : c = 'o' ∨ c = 'O') : RadixMark ['0', c] 8
  | hexadecimal {c : Char} (h : c = 'x' ∨ c = 'X') : RadixMark ['0', c] 16

/-- The text is an integer literal and writes the number. -/
inductive WritesInteger : List Char → Int → Prop
  | literal {sign mark digits : List Char} {s : Int} {radix n k : Nat} (hs : WritesSign sign s)
      (hm : RadixMark mark radix) (hd : WritesDigits radix digits n k) :
      WritesInteger (sign ++ (mark ++ digits)) (s * n)

/-! ## Digits -/

section Digits

variable {radix d n k : Nat} {c : Char} {text : List Char}

theorem alphanumericValue?_toUpper :
    ∀ d < 16, alphanumericValue? (Nat.digitChar d).toUpper = some d := by
  decide

theorem ofNat_lower_eq_digitChar :
    ∀ e < 6, Char.ofNat ('a'.toNat + e) = Nat.digitChar (e + 10) := by decide

theorem ofNat_upper_eq_toUpper :
    ∀ e < 6, Char.ofNat ('A'.toNat + e) = (Nat.digitChar (e + 10)).toUpper := by decide

/-- A character with a value below sixteen is the digit for it in one of the cases. -/
theorem eq_digitChar_or_toUpper (h : alphanumericValue? c = some d) (hd : d < 16) :
    c = Nat.digitChar d ∨ c = (Nat.digitChar d).toUpper := by
  have hofNat : ∀ {a : Char}, a ≤ c → Char.ofNat (a.toNat + (c.toNat - a.toNat)) = c := by
    intro a hle
    have hle' : a.toNat ≤ c.toNat := hle
    rw [Nat.add_sub_cancel' hle', Char.ofNat_toNat]
  unfold alphanumericValue? at h
  split at h
  next hc =>
    have hlow : '0'.toNat ≤ c.toNat := hc.1
    have hhigh : c.toNat ≤ '9'.toNat := hc.2
    have hlt : c.toNat - '0'.toNat < 10 := Nat.sub_lt_left_of_lt_add hlow (Nat.lt_succ_of_le hhigh)
    obtain rfl := Option.some.inj h
    exact .inl (by rw [← ofNat_eq_digitChar _ hlt, hofNat hc.1])
  next =>
    split at h
    next hc =>
      obtain rfl := Option.some.inj h
      exact .inl (by rw [← ofNat_lower_eq_digitChar _ (by omega), hofNat hc.1])
    next =>
      split at h
      next hc =>
        obtain rfl := Option.some.inj h
        exact .inr (by rw [← ofNat_upper_eq_toUpper _ (by omega), hofNat hc.1])
      next => cases h

/-- **The digits of a radix are the characters that have a value in it.** -/
theorem writesDigit_iff (hr : radix ≤ 16) :
    WritesDigit radix c d ↔ digitValue? radix c = some d := by
  constructor
  · intro h
    cases h with
    | lower h => exact digitValue?_digitChar h hr
    | upper h =>
      rw [digitValue?, alphanumericValue?_toUpper d (h.trans_le hr)]
      exact Option.filter_eq_some_iff.mpr ⟨rfl, decide_eq_true h⟩
  · intro h
    have hlt := digitValue?_lt h
    obtain ⟨hv, -⟩ := Option.filter_eq_some_iff.mp h
    rcases eq_digitChar_or_toUpper hv (hlt.trans_le hr) with rfl | rfl
    · exact .lower hlt
    · exact .upper hlt

theorem WritesDigit.isDigitOf (h : WritesDigit radix c d) (hr : radix ≤ 16) :
    isDigitOf radix c = true :=
  Option.isSome_of_eq_some ((writesDigit_iff hr).mp h)

theorem exists_writesDigit (hr : radix ≤ 16) (h : isDigitOf radix c = true) :
    ∃ d, WritesDigit radix c d ∧ (digitValue? radix c).getD 0 = d := by
  obtain ⟨d, hd⟩ := Option.isSome_iff_exists.mp h
  exact ⟨d, (writesDigit_iff hr).mpr hd, by rw [hd]; rfl⟩

/-! ## Runs of digits -/

theorem natOfDigits_withoutSeparators_cons (hr : radix ≤ 16) (h : WritesDigit radix c d)
    (text : List Char) :
    natOfDigits radix (withoutSeparators (c :: text)) =
        d * radix ^ (withoutSeparators text).length + natOfDigits radix (withoutSeparators text) ∧
      (withoutSeparators (c :: text)).length = (withoutSeparators text).length + 1 := by
  rw [withoutSeparators_cons (ne_underscore_of_isDigitOf (h.isDigitOf hr)), natOfDigits_cons,
    (writesDigit_iff hr).mp h]
  exact ⟨rfl, rfl⟩

/-- **What digits write is the number that is read without the underscores.** -/
theorem WritesDigits.spec (hr : radix ≤ 16) (h : WritesDigits radix text n k) :
    DigitGroups radix text ∧ natOfDigits radix (withoutSeparators text) = n ∧
      (withoutSeparators text).length = k := by
  induction h with
  | last h =>
    obtain ⟨hvalue, hlen⟩ := natOfDigits_withoutSeparators_cons hr h []
    refine ⟨.last (h.isDigitOf hr), hvalue.trans ?_, hlen⟩
    exact (Nat.add_zero _).trans (Nat.mul_one _)
  | digit h _ ih =>
    obtain ⟨hgroups, rfl, rfl⟩ := ih
    exact ⟨.digit (h.isDigitOf hr) hgroups, natOfDigits_withoutSeparators_cons hr h _⟩
  | separated h _ ih =>
    obtain ⟨hgroups, rfl, rfl⟩ := ih
    exact ⟨.separated (h.isDigitOf hr) hgroups, natOfDigits_withoutSeparators_cons hr h _⟩

/-- …and digits with underscores between them write it. -/
theorem DigitGroups.writesDigits (hr : radix ≤ 16) (h : DigitGroups radix text) :
    ∃ k, WritesDigits radix text (natOfDigits radix (withoutSeparators text)) k := by
  have hwrites : ∃ n k, WritesDigits radix text n k := by
    induction h with
    | last h =>
      obtain ⟨d, hd, -⟩ := exists_writesDigit hr h
      exact ⟨_, _, .last hd⟩
    | digit h _ ih =>
      obtain ⟨d, hd, -⟩ := exists_writesDigit hr h
      obtain ⟨n, k, hn⟩ := ih
      exact ⟨_, _, .digit hd hn⟩
    | separated h _ ih =>
      obtain ⟨d, hd, -⟩ := exists_writesDigit hr h
      obtain ⟨n, k, hn⟩ := ih
      exact ⟨_, _, .separated hd hn⟩
  obtain ⟨n, k, hn⟩ := hwrites
  obtain ⟨-, rfl, -⟩ := hn.spec hr
  exact ⟨k, hn⟩

/-- Digits and underscores in their place are one run. -/
theorem digitRun_eq_self {after : Bool} (hs : separatedAfter radix after text = true)
    (hd : ∀ c ∈ text, c = '_' ∨ isDigitOf radix c = true) : digitRun radix after text = text := by
  induction text generalizing after with
  | nil => rfl
  | cons c text ih =>
    obtain ⟨hc, htext⟩ := List.forall_mem_cons.mp hd
    rw [separatedAfter] at hs
    rw [digitRun]
    split at hs
    next hu =>
      obtain ⟨hbetween, hs⟩ := Bool.and_eq_true_iff.mp hs
      have hnot : ¬ isDigitOf radix c = true := by
        rw [hu, isDigitOf_underscore]
        exact Bool.false_ne_true
      rw [if_neg hnot, if_pos ⟨hu, Bool.and_eq_true_iff.mp hbetween⟩, ih hs htext]
    next hu =>
      have hdigit := hc.resolve_left hu
      rw [hdigit] at hs
      rw [if_pos hdigit, ih hs htext]

theorem digitGroups_of_separated (hne : text ≠ []) (hs : separated radix text = true)
    (hd : ∀ c ∈ text, c = '_' ∨ isDigitOf radix c = true) : DigitGroups radix text := by
  obtain ⟨c, rest, rfl⟩ := List.exists_cons_of_ne_nil hne
  have hfirst : isDigitOf radix c = true := by
    refine (hd c List.mem_cons_self).resolve_left ?_
    rintro rfl
    rw [separated, separatedAfter, if_pos rfl] at hs
    cases hs
  rw [← digitRun_eq_self hs hd]
  exact .of_digitRun hfirst

end Digits

/-! ## Radix marks -/

section Marks

variable {radix m : Nat} {mark digits text : List Char}

theorem RadixMark.le (h : RadixMark mark radix) : radix ≤ 16 := by
  cases h <;> decide

/-- A radix mark is a zero and the letter for the radix. -/
theorem RadixMark.of_ofMark? {c : Char} {r : Radix} (h : Radix.ofMark? c = some r) :
    RadixMark ['0', c] r.base := by
  unfold Radix.ofMark? at h
  split at h
  case h_1 | h_2 =>
    obtain rfl := Option.some.inj h
    exact .binary (by simp)
  case h_3 | h_4 =>
    obtain rfl := Option.some.inj h
    exact .octal (by simp)
  case h_5 | h_6 =>
    obtain rfl := Option.some.inj h
    exact .hexadecimal (by simp)
  case h_7 => cases h

/-- What is split off is a radix mark. -/
theorem exists_mark (text : List Char) :
    ∃ mark, text = mark ++ (splitRadix text).2 ∧ RadixMark mark (splitRadix text).1 := by
  unfold splitRadix
  split
  next c rest =>
    split
    next r hr => exact ⟨['0', c], rfl, .of_ofMark? hr⟩
    next => exact ⟨[], rfl, .none⟩
  next => exact ⟨[], rfl, .none⟩

/-- **A radix mark before digits is split off.** -/
theorem RadixMark.splitRadix_append (h : RadixMark mark radix) (hd : DigitGroups radix digits) :
    splitRadix (mark ++ digits) = (radix, digits) := by
  cases h with
  | none =>
    rw [List.nil_append, splitRadix.eq_def]
    split
    next c rest =>
      -- Behind a zero there is a digit or an underscore, and no mark is one.
      have hc := hd.mem c (by simp)
      split
      next r hr =>
        unfold Radix.ofMark? at hr
        split at hr
        case h_7 => cases hr
        all_goals exact absurd hc (by decide)
      next => rfl
    next => rfl
  | binary h => rcases h with rfl | rfl <;> rfl
  | octal h => rcases h with rfl | rfl <;> rfl
  | hexadecimal h => rcases h with rfl | rfl <;> rfl

/-- **A size is read exactly where a radix mark and digits write it.** -/
theorem readMagnitude?_eq_some_iff : readMagnitude? text = some m ↔
    ∃ mark digits radix k, text = mark ++ digits ∧ RadixMark mark radix ∧
      WritesDigits radix digits m k := by
  constructor
  · intro h
    obtain ⟨mark, htext, hm⟩ := exists_mark text
    rcases hs : splitRadix text with ⟨radix, digits⟩
    rw [hs] at htext hm
    simp only [readMagnitude?, hs] at h
    split at h
    next hcond =>
      obtain ⟨hne, hall, hsep⟩ := hcond
      have hmem : ∀ c ∈ digits, c = '_' ∨ isDigitOf radix c = true := fun c hc => by
        simpa using List.all_eq_true.mp hall c hc
      obtain ⟨k, hk⟩ := (digitGroups_of_separated hne hsep hmem).writesDigits hm.le
      obtain rfl := Option.some.inj h
      exact ⟨mark, digits, radix, k, htext, hm, hk⟩
    next => cases h
  · rintro ⟨mark, digits, radix, k, rfl, hm, hd⟩
    obtain ⟨hgroups, rfl, -⟩ := hd.spec hm.le
    exact readMagnitude?_of_digitGroups (hm.splitRadix_append hgroups) hgroups

end Marks

/-! ## Integers -/

section Integers

variable {text : List Char} {v : Int}

theorem readInteger?_eq_some_iff :
    readInteger? text = some v ↔ WritesInteger text v ∧ minInteger ≤ v ∧ v ≤ maxInteger := by
  constructor
  · intro h
    obtain ⟨m, hm, hv⟩ := readInteger?_eq_some.mp h
    obtain ⟨hv, hrange⟩ := integerOfMagnitude?_eq_some.mp hv
    obtain ⟨sign, s, htext, hs, hfactor⟩ := exists_sign text
    obtain ⟨mark, digits, radix, k, hrest, hmark, hd⟩ := readMagnitude?_eq_some_iff.mp hm
    have hvalue : v = s * m := by
      rw [← hv, hfactor]
      cases (splitSign text).1 <;> simp
    rw [hrest] at htext
    rw [hvalue] at hrange ⊢
    rw [htext]
    exact ⟨.literal hs hmark hd, hrange⟩
  · rintro ⟨h, hrange⟩
    cases h with
    | @literal sign mark digits s radix n k hs hm hd =>
      have hmagnitude := readMagnitude?_eq_some_iff.mpr ⟨mark, digits, radix, k, rfl, hm, hd⟩
      obtain ⟨hrest, hfactor⟩ := hs.splitSign_append (unsigned_of_readMagnitude? hmagnitude)
      refine readInteger?_eq_some.mpr
        ⟨n, by rwa [hrest], integerOfMagnitude?_eq_some.mpr ⟨?_, hrange⟩⟩
      rw [hfactor]
      cases (splitSign (sign ++ (mark ++ digits))).1 <;> simp

end Integers

/-! ## Decimal texts of integers -/

namespace Decimal

variable {text t : List Char} {d : Decimal} {v : Int} {x : Binary64}

/-- No point is put into the digits of a whole number. -/
theorem placePoint_whole {s : List Char} (hs : s ≠ []) (k : Nat) :
    placePoint s (s.length + k) = s ++ List.replicate k '0' := by
  have hpos := List.length_pos_of_ne_nil hs
  have hk : ((s.length : Int) + k).natAbs - s.length = k := by omega
  rw [placePoint, if_neg (by omega), if_pos (by omega), hk]

/-- The digits of a number, taken as a decimal literal, have its value… -/
theorem exact_plain_toDigits (n : Nat) (negative : Bool) :
    (plain negative (Nat.toDigits 10 n) []).exact = signFactor negative * n := by
  have hmantissa : (plain negative (Nat.toDigits 10 n) []).mantissa = n := by
    rw [mantissa, digits, plain, List.append_nil, natOfDigits_toDigits (by decide) (by decide)]
  rw [exact, isNegative_plain, hmantissa]
  simp [scale, plain]

/-- Without a zero in front the digits end with the zeros that do not count. -/
theorem exists_significant_of_head (h : d.digits.head? ≠ some '0') :
    ∃ k : Nat, d.digits = d.significant ++ List.replicate k '0' ∧
      d.magnitude = d.scale + (d.significant.length + k) := by
  obtain ⟨m, k, hsplit, hmagnitude⟩ := exists_significant d
  cases m with
  | zero => exact ⟨k, hsplit, hmagnitude⟩
  | succ m => exact absurd (by rw [hsplit]; rfl) h

/-- …and are its canonical text, if there is no leading zero. -/
theorem canonical_plain_toDigits {n : Nat} (h : n ≠ 0) (negative : Bool) :
    (plain negative (Nat.toDigits 10 n) []).canonical =
      signText negative ++ Nat.toDigits 10 n := by
  have hexact := exact_plain_toDigits n negative
  have hdigital := (plain_toDigits n).digital negative
  generalize hd : plain negative (Nat.toDigits 10 n) [] = d at hexact hdigital
  obtain ⟨hi, hdigits, hscale, hnegative⟩ : d.innerSign = [] ∧ d.digits = Nat.toDigits 10 n ∧
      d.scale = 0 ∧ d.negative = negative := by
    rw [← hd]
    exact ⟨rfl, List.append_nil _, rfl, rfl⟩
  have hne : d.significant ≠ [] := by
    rw [ne_eq, ← exact_eq_zero_iff hdigital, hexact]
    exact mul_ne_zero (signFactor_ne_zero _) (Nat.cast_ne_zero.mpr h)
  obtain ⟨k, hsplit, hmagnitude⟩ := exists_significant_of_head (hdigits ▸ head_toDigits h)
  rw [hscale, Int.zero_add] at hmagnitude
  rw [canonical_eq hi, if_neg hne, hmagnitude, placePoint_whole hne, ← hsplit, hdigits, hnegative]
  rfl

/-- **The canonical text of a whole number is its decimal text.** -/
theorem canonical_of_exact_eq (hd : d.Digital) (hi : d.innerSign = []) (h : d.exact = v) :
    d.canonical = (toString v).toList := by
  by_cases h0 : v = 0
  · rw [h0, Int.cast_zero] at h
    rw [canonical_eq hi, if_pos ((exact_eq_zero_iff hd).mp h), h0]
    rfl
  have hn : v.natAbs ≠ 0 := Int.natAbs_ne_zero.mpr h0
  have hcanonical : ∀ negative, (v : ℚ) = signFactor negative * v.natAbs →
      d.canonical = signText negative ++ Nat.toDigits 10 v.natAbs := by
    intro negative hv
    rw [← canonical_plain_toDigits hn]
    refine canonical_congr hd ((plain_toDigits _).digital negative) hi rfl ?_
    rw [h, hv, exact_plain_toDigits]
  rcases toList_toString_cases v with ⟨hv, ht⟩ | ⟨hv, ht⟩
  · have hv' : (v : ℚ) = v.natAbs := (congrArg Int.cast hv).trans (Int.cast_natCast _)
    rw [ht]
    exact hcanonical false (by rw [hv', signFactor]; simp)
  · have hv' : (v : ℚ) = -v.natAbs := by exact_mod_cast hv
    rw [ht]
    exact hcanonical true (by rw [hv', signFactor]; simp)

/-- Decimal digits are a run of digits of the radix ten. -/
theorem writesNat_of_writesDigits {n k : Nat} (h : WritesDigits 10 text n k) :
    WritesNat text n k := by
  have hdigit : ∀ {c d}, WritesDigit 10 c d → d < 10 ∧ c = Nat.digitChar d := fun h =>
    eq_digitChar ((writesDigit_iff (by decide)).mp h)
  induction h with
  | last h =>
    obtain ⟨hd, rfl⟩ := hdigit h
    exact .last hd
  | digit h _ ih =>
    obtain ⟨hd, rfl⟩ := hdigit h
    exact .digit hd ih
  | separated h _ ih =>
    obtain ⟨hd, rfl⟩ := hdigit h
    exact .separated hd ih

/-- Behind a radix mark nothing is read as a decimal literal. -/
theorem read?_mark {sign mark digits : List Char} {s : Int} {radix : Nat} (hs : WritesSign sign s)
    (hm : RadixMark mark radix) (hne : mark ≠ []) : read? (sign ++ (mark ++ digits)) = none := by
  have hunsigned : Unsigned (mark ++ digits) := by
    cases hm with
    | none => exact absurd rfl hne
    | binary | octal | hexadecimal => exact unsigned_of_isDecimalDigit (by decide) _
  have hparts : parts? (withoutSeparators (mark ++ digits)) = none := by
    cases hm with
    | none => exact absurd rfl hne
    | binary h | octal h | hexadecimal h => rcases h with rfl | rfl <;> rfl
  obtain ⟨hrest, -⟩ := hs.splitSign_append hunsigned
  refine Option.eq_none_iff_forall_ne_some.mpr fun d hd => ?_
  obtain ⟨hsep, hdigits⟩ := read?_eq_some.mp hd
  obtain ⟨-, -, h⟩ := readDigits?_eq_some.mp hdigits
  rw [hrest] at hsep h
  rw [splitInnerSign_of_unsigned (unsigned_withoutSeparators hsep hunsigned), hparts] at h
  cases h

/-- **An integer literal that is a decimal literal as well writes one number.** -/
theorem writes_of_writesInteger (h : WritesInteger text v) (hr : (read? text).isSome = true) :
    Writes text v := by
  cases h with
  | @literal sign mark digits s radix n k hs hm hd =>
    by_cases hne : mark = []
    · subst hne
      obtain rfl : radix = 10 := by
        cases hm
        rfl
      simpa using Writes.literal hs (.whole (writesNat_of_writesDigits hd)) .none
    · rw [read?_mark hs hm hne] at hr
      cases hr

/-- **The canonical text of an integer is the same as that of the decimal literal.** -/
theorem canonical_of_readInteger? (h : readInteger? text = some v)
    (he : evaluate? text = some (t, x)) : t = (toString v).toList := by
  obtain ⟨d', hr, -⟩ := evaluate?_eq_some.mp he
  have hwrites := writes_of_writesInteger (readInteger?_eq_some_iff.mp h).1 (by rw [hr]; rfl)
  obtain ⟨d, -, hd, hi, -, hexact, rfl⟩ := exists_parts hwrites he
  exact canonical_of_exact_eq hd hi hexact

end Decimal

/-! ## Numbers of either kind -/

/-- The two readings of a literal have one canonical text. -/
theorem canonical_eq_of_literal {i : Integer} {n : Numeric} (h : i.literal = n.literal) :
    i.canonical = n.canonical := by
  have hreads := n.reads
  rw [← h] at hreads
  exact (String.toList_inj.mp (Decimal.canonical_of_readInteger? i.reads hreads)).symm

/-- **Integer literals are read exactly, and as decimal literals no differently.** -/
theorem integers_read_exactly [Regex.Engine] :
    -- An integer literal has the value that it writes, if that is a signed number of 64 bits.
    (∀ text v, readInteger? text = some v ↔
      WritesInteger text v ∧ -2 ^ 63 ≤ v ∧ v ≤ 2 ^ 63 - 1) ∧
    -- Where it is a decimal literal, too, its canonical text is the decimal text of the value,
    (∀ text v t x, readInteger? text = some v → Decimal.evaluate? text = some (t, x) →
      t = (toString v).toList) ∧
    -- so the nodes for the two readings have one canonical text, are the same and look the same.
    ∀ literal a b, Node.ofInteger literal = .ok a → Node.ofNumeric literal = .ok b →
      (∃ i n, a = .integer i ∧ b = .numeric n ∧ i.canonical = n.canonical) ∧
      a.same b = true ∧ b.same a = true ∧
      ∀ chained inChain parens,
        a.render chained inChain parens = b.render chained inChain parens := by
  have hmin : (-2 ^ 63 : Int) = minInteger := by norm_num [minInteger]
  have hmax : (2 ^ 63 - 1 : Int) = maxInteger := by norm_num [maxInteger]
  rw [hmin, hmax]
  refine ⟨fun text v => readInteger?_eq_some_iff,
    fun text v t x => Decimal.canonical_of_readInteger?, fun literal a b ha hb => ?_⟩
  obtain ⟨i, hi, rfl⟩ := Node.ofInteger_eq_ok.mp ha
  obtain ⟨n, hn, rfl⟩ := Node.ofNumeric_eq_ok.mp hb
  have hcanonical := canonical_eq_of_literal (hi.trans hn.symm)
  have hi' : (Node.integer i).number? = some n.canonical.toList :=
    congrArg (some ∘ String.toList) hcanonical
  refine ⟨⟨i, n, rfl, rfl, hcanonical⟩, same_of_number? hi' rfl, same_of_number? rfl hi',
    fun chained inChain parens => ?_⟩
  rw [render_number hi', render_number rfl]

end PathExpr
