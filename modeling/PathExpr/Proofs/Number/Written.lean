import PathExpr.Proofs.Number.Canonical

/-!
# PathExpr/Proofs/Number/Written — the values that decimal literals write

`Writes text v` says of a text that it is a decimal literal with one sign at most, and which
rational number it writes, by its characters alone.  A literal is read as what it writes
(`Writes.exists_read`), and the value of its parts, `Decimal.exact`, is that number.
-/

namespace PathExpr

/-! ## Literals -/

/-- Digits with single underscores between, the number that they write, and how many they are. -/
inductive WritesNat : List Char → Nat → Nat → Prop
  | last {d : Nat} (h : d < 10) : WritesNat [Nat.digitChar d] d 1
  | digit {d n k : Nat} {text : List Char} (h : d < 10) (hr : WritesNat text n k) :
      WritesNat (Nat.digitChar d :: text) (d * 10 ^ k + n) (k + 1)
  | separated {d n k : Nat} {text : List Char} (h : d < 10) (hr : WritesNat text n k) :
      WritesNat (Nat.digitChar d :: '_' :: text) (d * 10 ^ k + n) (k + 1)

/-- A sign, which may be left out, and the factor that it stands for. -/
inductive WritesSign : List Char → Int → Prop
  | none : WritesSign [] 1
  | plus : WritesSign ['+'] 1
  | minus : WritesSign ['-'] (-1)

/-- Digits with perhaps a point, the number that they write without it, and how many of them follow
it. -/
inductive WritesMantissa : List Char → Nat → Nat → Prop
  | whole {text : List Char} {n k : Nat} (h : WritesNat text n k) : WritesMantissa text n 0
  | wholePoint {text : List Char} {n k : Nat} (h : WritesNat text n k) :
      WritesMantissa (text ++ ['.']) n 0
  | fraction {text : List Char} {n k : Nat} (h : WritesNat text n k) :
      WritesMantissa ('.' :: text) n k
  | both {whole fraction : List Char} {m n j k : Nat} (h : WritesNat whole m j)
      (h' : WritesNat fraction n k) : WritesMantissa (whole ++ '.' :: fraction) (m * 10 ^ k + n) k

/-- An exponent, which may be left out. -/
inductive WritesExponent : List Char → Int → Prop
  | none : WritesExponent [] 0
  | power {mark : Char} {sign text : List Char} {s : Int} {n k : Nat}
      (hm : mark = 'e' ∨ mark = 'E') (hs : WritesSign sign s) (h : WritesNat text n k) :
      WritesExponent (mark :: (sign ++ text)) (s * n)

/-- The text is a decimal literal and writes the number. -/
inductive Writes : List Char → ℚ → Prop
  | literal {sign digits power : List Char} {s e : Int} {n k : Nat} (hs : WritesSign sign s)
      (hm : WritesMantissa digits n k) (he : WritesExponent power e) :
      Writes (sign ++ (digits ++ power)) (s * n * 10 ^ (e - k))

/-! ## Runs of digits -/

theorem withoutSeparators_append (as bs : List Char) :
    withoutSeparators (as ++ bs) = withoutSeparators as ++ withoutSeparators bs :=
  List.filter_append _ _

theorem withoutSeparators_cons {c : Char} (h : c ≠ '_') (text : List Char) :
    withoutSeparators (c :: text) = c :: withoutSeparators text :=
  List.filter_cons_of_pos (by simpa using h)

theorem unsigned_of_isDecimalDigit {c : Char} (h : isDecimalDigit c = true) (rest : List Char) :
    Unsigned (c :: rest) :=
  unsigned_cons (Decimal.ne_of_isDecimalDigit h (by decide))
    (Decimal.ne_of_isDecimalDigit h (by decide))

/-- The digits without separators write the number, and they are so many. -/
structure Cleaned (digits : List Char) (n k : Nat) : Prop where
  ne_nil : digits ≠ []
  digital : ∀ c ∈ digits, isDecimalDigit c = true
  value : natOfDigits 10 digits = n
  length : digits.length = k

namespace WritesNat

variable {text : List Char} {d n k : Nat}

theorem isDecimalDigit_digitChar (h : d < 10) : isDecimalDigit (Nat.digitChar d) = true :=
  isDigitOf_digitChar h (by decide)

theorem digitChar_ne_underscore (h : d < 10) : Nat.digitChar d ≠ '_' :=
  Decimal.ne_of_isDecimalDigit (isDecimalDigit_digitChar h) (by decide)

theorem exists_digit (h : WritesNat text n k) :
    ∃ d rest, d < 10 ∧ text = Nat.digitChar d :: rest := by
  cases h with
  | last h | digit h | separated h => exact ⟨_, _, h, rfl⟩

theorem unsigned_append (h : WritesNat text n k) (rest : List Char) : Unsigned (text ++ rest) := by
  obtain ⟨d, text, hd, rfl⟩ := h.exists_digit
  exact unsigned_of_isDecimalDigit (isDecimalDigit_digitChar hd) _

theorem cleaned_cons {digits : List Char} (h : d < 10) (hr : Cleaned digits n k) :
    Cleaned (Nat.digitChar d :: digits) (d * 10 ^ k + n) (k + 1) := by
  refine ⟨List.cons_ne_nil _ _, List.forall_mem_cons.mpr ⟨isDecimalDigit_digitChar h, hr.digital⟩,
    ?_, congrArg Nat.succ hr.length⟩
  rw [natOfDigits_cons, digitValue?_digitChar h (by decide), hr.value, hr.length]
  rfl

theorem cleaned (h : WritesNat text n k) : Cleaned (withoutSeparators text) n k := by
  induction h with
  | @last d h =>
    rw [withoutSeparators_cons (digitChar_ne_underscore h)]
    have hdigit := isDecimalDigit_digitChar h
    refine ⟨List.cons_ne_nil _ _, List.forall_mem_singleton.mpr hdigit, ?_, rfl⟩
    simp [withoutSeparators, natOfDigits, digitValue?_digitChar h]
  | digit h _ ih =>
    rw [withoutSeparators_cons (digitChar_ne_underscore h)]
    exact cleaned_cons h ih
  | separated h _ ih =>
    rw [withoutSeparators_cons (digitChar_ne_underscore h)]
    exact cleaned_cons h ih

theorem separatedAfter_digitChar (h : d < 10) (rest : List Char) (after : Bool) :
    separatedAfter 10 after (Nat.digitChar d :: rest) = separatedAfter 10 true rest := by
  rw [separatedAfter, if_neg (digitChar_ne_underscore h), isDigitOf_digitChar h (by decide)]

/-- **The underscores of a run stand between digits**, whatever stands before the run. -/
theorem separatedAfter_append (h : WritesNat text n k) (rest : List Char) (after : Bool) :
    separatedAfter 10 after (text ++ rest) = separatedAfter 10 true rest := by
  induction h generalizing after with
  | last h => exact separatedAfter_digitChar h rest after
  | digit h _ ih => exact (separatedAfter_digitChar h _ after).trans (ih true)
  | @separated _ _ _ text h hr ih =>
    obtain ⟨c, more, hc, rfl⟩ := hr.exists_digit
    have hfirst : startsWithDigit 10 (Nat.digitChar c :: more ++ rest) = true :=
      isDecimalDigit_digitChar hc
    refine (separatedAfter_digitChar h _ after).trans ?_
    change separatedAfter 10 true ('_' :: (Nat.digitChar c :: more ++ rest)) = _
    rw [separatedAfter, if_pos rfl, hfirst, ih]
    rfl

end WritesNat

/-- Digits without separators are a run. -/
theorem writesNat_of_digital {digits : List Char} (h : ∀ c ∈ digits, isDecimalDigit c = true)
    (hne : digits ≠ []) : WritesNat digits (natOfDigits 10 digits) digits.length := by
  induction digits with
  | nil => exact absurd rfl hne
  | cons c digits ih =>
    obtain ⟨d, hd, rfl⟩ := exists_of_isDecimalDigit (h c List.mem_cons_self)
    rw [natOfDigits_cons, digitValue?_digitChar hd (by decide), Option.getD_some]
    by_cases hnil : digits = []
    · subst hnil
      simpa using WritesNat.last hd
    · exact .digit hd (ih (fun c hc => h c (List.mem_cons_of_mem _ hc)) hnil)

/-! ## Parts of literals -/

variable {text rest sign power : List Char} {s e : Int} {n k : Nat}

theorem separatedAfter_of_ne {c : Char} (h : c ≠ '_') (after : Bool) :
    separatedAfter 10 after (c :: rest) = separatedAfter 10 (isDigitOf 10 c) rest := by
  rw [separatedAfter, if_neg h]

namespace WritesSign

/-- A sign has no underscore. -/
theorem withoutSeparators_append (h : WritesSign sign s) :
    withoutSeparators (sign ++ rest) = sign ++ withoutSeparators rest := by
  cases h with
  | none => rfl
  | plus => exact withoutSeparators_cons (by decide) rest
  | minus => exact withoutSeparators_cons (by decide) rest

/-- A sign is taken off. -/
theorem splitSign_append (h : WritesSign sign s) (hu : Unsigned rest) :
    (splitSign (sign ++ rest)).2 = rest ∧
      s = if (splitSign (sign ++ rest)).1 then -1 else 1 := by
  cases h with
  | none =>
    rw [List.nil_append, splitSign_of_unsigned hu]
    exact ⟨rfl, rfl⟩
  | plus => exact ⟨rfl, rfl⟩
  | minus => exact ⟨rfl, rfl⟩

theorem separatedAfter_append (h : WritesSign sign s) (hr : WritesNat text n k) (after : Bool) :
    separatedAfter 10 after (sign ++ text) = true := by
  have htext : ∀ after, separatedAfter 10 after text = true := fun after => by
    have happend := hr.separatedAfter_append [] after
    rwa [List.append_nil] at happend
  cases h with
  | none => exact htext after
  | plus => exact (separatedAfter_of_ne (by decide) after).trans (htext _)
  | minus => exact (separatedAfter_of_ne (by decide) after).trans (htext _)

end WritesSign

theorem Cleaned.unsigned {digits : List Char} (h : Cleaned digits n k) : Unsigned digits := by
  obtain ⟨c, rest, rfl⟩ := List.exists_cons_of_ne_nil h.ne_nil
  exact unsigned_of_isDecimalDigit (h.digital c List.mem_cons_self) rest

/-- What may follow the digits: nothing, or the mark of an exponent. -/
def EndsNumber (text : List Char) : Prop :=
  text = [] ∨ ∃ mark rest, text = mark :: rest ∧ (mark = 'e' ∨ mark = 'E')

theorem EndsNumber.head (h : EndsNumber text) {c : Char} (hc : c ∈ text.head?) :
    isDecimalDigit c = false ∧ c ≠ '.' := by
  rcases h with rfl | ⟨mark, rest, rfl, hm⟩
  · cases hc
  · obtain rfl := Option.some.inj hc
    rcases hm with rfl | rfl <;> decide

/-- **An exponent is read as what it writes.** -/
theorem WritesExponent.readExponent? (h : WritesExponent power e) :
    Decimal.readExponent? (withoutSeparators power) = some e ∧
      EndsNumber (withoutSeparators power) ∧ ∀ after, separatedAfter 10 after power = true := by
  cases h with
  | none => exact ⟨rfl, .inl rfl, fun _ => rfl⟩
  | @power mark sign text s n k hm hs h =>
    have hmark : mark ≠ '_' := by rcases hm with rfl | rfl <;> decide
    have hclean := h.cleaned
    rw [withoutSeparators_cons hmark, hs.withoutSeparators_append]
    refine ⟨?_, .inr ⟨mark, _, rfl, hm⟩, fun after => ?_⟩
    · obtain ⟨hrest, hfactor⟩ := hs.splitSign_append hclean.unsigned
      rcases hsplit : splitSign (sign ++ withoutSeparators text) with ⟨negative, digits⟩
      rw [hsplit] at hrest hfactor
      obtain rfl : digits = withoutSeparators text := hrest
      have hall : (withoutSeparators text).all isDecimalDigit = true :=
        List.all_eq_true.mpr hclean.digital
      simp only [Decimal.readExponent?, hsplit, hm, hclean.ne_nil, hall, hclean.value, hfactor,
        ne_eq, not_false_eq_true, and_self, if_true]
      cases negative <;> simp
    · exact (separatedAfter_of_ne hmark after).trans (hs.separatedAfter_append h _)

/-! ## Digits around a point -/

namespace Decimal

variable {whole fraction point : List Char}

/-- **Digits before a point and behind it are told apart.** -/
theorem parts?_eq (hw : ∀ c ∈ whole, isDecimalDigit c = true)
    (hf : ∀ c ∈ fraction, isDecimalDigit c = true) (hne : ¬ (whole = [] ∧ fraction = []))
    (hp : point = '.' :: fraction ∨ point = [] ∧ fraction = []) (hends : EndsNumber power)
    (he : readExponent? power = some e) :
    parts? (whole ++ (point ++ power)) = some (whole, fraction, e) := by
  have hsplit : splitFraction (point ++ power) = (fraction, power) := by
    rcases hp with rfl | ⟨rfl, rfl⟩
    · obtain ⟨htake, hdrop⟩ := span_digits hf fun c hc => (hends.head hc).1
      rw [List.cons_append, splitFraction, htake, hdrop]
    · rw [List.nil_append, splitFraction]
      rintro rest rfl
      exact (hends.head rfl).2 rfl
  have hhead : ∀ c ∈ (point ++ power).head?, isDecimalDigit c = false := by
    intro c hc
    rcases hp with rfl | ⟨rfl, -⟩
    · obtain rfl := Option.some.inj hc
      decide
    · exact (hends.head hc).1
  obtain ⟨htake, hdrop⟩ := span_digits hw hhead
  simp only [parts?, htake, hdrop, hsplit, if_neg hne, he, Option.map_some]

end Decimal

namespace WritesMantissa

variable {digits : List Char}

/-- **The digits are read as what they write.** -/
theorem parts? (h : WritesMantissa digits n k) (hends : EndsNumber power)
    (he : Decimal.readExponent? power = some e) :
    ∃ whole fraction,
      Decimal.parts? (withoutSeparators digits ++ power) = some (whole, fraction, e) ∧
      natOfDigits 10 (whole ++ fraction) = n ∧ fraction.length = k := by
  have hnone : ∀ c ∈ ([] : List Char), isDecimalDigit c = true := by simp
  cases h with
  | whole h =>
    have hc := h.cleaned
    refine ⟨withoutSeparators digits, [], ?_, by rw [List.append_nil, hc.value], rfl⟩
    exact Decimal.parts?_eq hc.digital hnone (by simp [hc.ne_nil]) (.inr ⟨rfl, rfl⟩) hends he
  | @wholePoint text _ _ h =>
    have hc := h.cleaned
    refine ⟨withoutSeparators text, [], ?_, by rw [List.append_nil, hc.value], rfl⟩
    rw [withoutSeparators_append, List.append_assoc]
    exact Decimal.parts?_eq hc.digital hnone (by simp [hc.ne_nil]) (.inl rfl) hends he
  | @fraction text _ _ h =>
    have hc := h.cleaned
    refine ⟨[], withoutSeparators text, ?_, hc.value, hc.length⟩
    rw [withoutSeparators_cons (by decide)]
    exact Decimal.parts?_eq hnone hc.digital (by simp [hc.ne_nil]) (.inl rfl) hends he
  | @both whole fraction _ _ _ _ h h' =>
    have hc := h.cleaned
    have hc' := h'.cleaned
    refine ⟨withoutSeparators whole, withoutSeparators fraction, ?_, ?_, hc'.length⟩
    · rw [withoutSeparators_append, List.append_assoc, withoutSeparators_cons (by decide)]
      exact Decimal.parts?_eq hc.digital hc'.digital (by simp [hc.ne_nil]) (.inl rfl) hends he
    · rw [natOfDigits_append, hc.value, hc'.value, hc'.length]

theorem separatedAfter_append (h : WritesMantissa digits n k)
    (hr : ∀ after, separatedAfter 10 after rest = true) (after : Bool) :
    separatedAfter 10 after (digits ++ rest) = true := by
  have hpoint : '.' ≠ '_' := by decide
  cases h with
  | whole h => exact (h.separatedAfter_append rest after).trans (hr _)
  | wholePoint h =>
    rw [List.append_assoc, h.separatedAfter_append]
    exact (separatedAfter_of_ne hpoint true).trans (hr _)
  | fraction h =>
    refine (separatedAfter_of_ne hpoint after).trans ?_
    exact (h.separatedAfter_append rest _).trans (hr _)
  | both h h' =>
    rw [List.append_assoc, h.separatedAfter_append]
    refine (separatedAfter_of_ne hpoint true).trans ?_
    exact (h'.separatedAfter_append rest _).trans (hr _)

theorem unsigned_append (h : WritesMantissa digits n k) (rest : List Char) :
    Unsigned (digits ++ rest) := by
  cases h with
  | whole h => exact h.unsigned_append rest
  | wholePoint h =>
    rw [List.append_assoc]
    exact h.unsigned_append _
  | fraction => exact unsigned_cons (by decide) (by decide)
  | both h =>
    rw [List.append_assoc]
    exact h.unsigned_append _

end WritesMantissa

/-! ## Literals are read -/

/-- The factor that a sign stands for. -/
def signFactor (negative : Bool) : ℚ := if negative then -1 else 1

/-- The value of the parts of a literal. -/
def Decimal.exact (d : Decimal) : ℚ := signFactor d.isNegative * d.mantissa * 10 ^ d.scale

/-- **A literal is read as the number that it writes.** -/
theorem Writes.exists_read {v : ℚ} (h : Writes text v) :
    ∃ d, Decimal.read? text = some d ∧ d.innerSign = [] ∧ d.exact = v := by
  cases h with
  | @literal sign digits power s e n k hs hm he =>
    obtain ⟨hread, hends, hsep⟩ := he.readExponent?
    obtain ⟨whole, fraction, hparts, hn, hk⟩ := hm.parts? hends hread
    obtain ⟨hrest, hfactor⟩ := hs.splitSign_append (hm.unsigned_append power)
    let d : Decimal := ⟨(splitSign (sign ++ (digits ++ power))).1, [], whole, fraction, e⟩
    refine ⟨d, Decimal.read?_eq_some.mpr ?_, rfl, ?_⟩
    · rw [hrest, withoutSeparators_append, Decimal.readDigits?_eq_some,
        Decimal.splitInnerSign_of_unsigned (Decimal.unsigned_of_parts? hparts)]
      exact ⟨hm.separatedAfter_append hsep false, rfl, rfl, hparts⟩
    · have hmantissa : d.mantissa = n := hn
      have hscale : d.scale = e - k := congrArg (e - ·) (congrArg Nat.cast hk)
      rw [Decimal.exact, hmantissa, hscale, hfactor]
      cases hneg : (splitSign (sign ++ (digits ++ power))).1 <;>
        simp [signFactor, Decimal.isNegative, d, hneg]

end PathExpr
