import PathExpr.Proofs.Lexical.Faults
import PathExpr.Proofs.Lexical.Front
import PathExpr.Proofs.Lexical.LongestNumber

/-!
# PathExpr/Proofs/Lexical/NumberTokens — number tokens follow the grammar

Without a radix mark a number token takes the longest word at the front of the text, and with one it
is an integer exactly if the text behind the mark is a `RadixWord`.
-/

namespace PathExpr

variable {first : Char} {text : List Char}

/-! ## Name characters behind a number -/

/-- Digits and ASCII letters can be part of a name. -/
theorem isAlphanumeric_of_alphanumericValue? {c : Char} {d : Nat}
    (h : alphanumericValue? c = some d) : isAlphanumeric c = true := by
  have hascii : ∀ top, c ≤ top → top ≤ 'z' →
      isAlphanumeric c = (c.isUpper || c.isLower || c.isDigit) := by
    intro top hc htop
    have hle : c.toNat ≤ 'z'.toNat := Char.le_trans hc htop
    have hz : 'z'.toNat = 0x7a := rfl
    exact if_pos (decide_eq_true (by omega))
  unfold alphanumericValue? at h
  split at h
  next hc =>
    have hdigit : c.isDigit = true :=
      Bool.and_eq_true_iff.mpr ⟨decide_eq_true hc.1, decide_eq_true hc.2⟩
    rw [hascii _ hc.2 (by decide), hdigit, Bool.or_true]
  next =>
    split at h
    next hc =>
      have hlower : c.isLower = true :=
        Bool.and_eq_true_iff.mpr ⟨decide_eq_true hc.1, decide_eq_true hc.2⟩
      rw [hascii _ hc.2 (by decide), hlower, Bool.or_true, Bool.true_or]
    next =>
      split at h
      next hc =>
        have hupper : c.isUpper = true := decide_eq_true hc
        rw [hascii _ hc.2 (by decide), hupper, Bool.true_or, Bool.true_or]
      next => cases h

theorem isNameChar_of_isDigitOf {radix : Nat} {c : Char} (h : isDigitOf radix c = true) :
    isNameChar c = true := by
  obtain ⟨d, hd⟩ := Option.isSome_iff_exists.mp h
  obtain ⟨hv, -⟩ := Option.filter_eq_some_iff.mp hd
  rw [isNameChar, isAlphanumeric_of_alphanumericValue? hv]
  rfl

/-- Where no name goes on, no digits do. -/
theorem digitRun_of_startsWithName {rest : List Char} (h : startsWithName rest = false)
    (radix : Nat) (after : Bool) : digitRun radix after rest = [] := by
  cases rest with
  | nil => rfl
  | cons c rest =>
    have hc : ¬ isNameChar c = true := Bool.eq_false_iff.mp h
    rw [digitRun, if_neg (mt isNameChar_of_isDigitOf hc), if_neg]
    rintro ⟨rfl, -⟩
    exact hc rfl

theorem startsWithName_of_not_endsDigits {text : List Char} (h : ¬ EndsDigits text) :
    startsWithName text = true := by
  cases text with
  | nil => exact absurd endsDigits_nil h
  | cons c text =>
    by_contra hname
    have hc : ¬ isNameChar c = true := hname
    refine h (endsDigits_cons (Bool.eq_false_iff.mpr (mt isNameChar_of_isDigitOf hc)) ?_)
    rintro rfl
    exact hc rfl

/-- Digits and underscores do not stand behind a whole part. -/
theorem behind_of_not_endsDigits {text : List Char} (h : ¬ EndsDigits text) : behind text = [] := by
  have hprefix : behind text <+: text :=
    append_isPrefix (fractionPart_isPrefix text) (exponentPart_isPrefix _)
  have happend := List.prefix_iff_eq_append.mp hprefix
  refine (behind_cases text).resolve_right fun hb => h ?_
  rw [← happend]
  exact hb.endsDigits_append _

/-- A zero with digits behind it is a number with a name behind it. -/
theorem decimalNumeral_eq (h : BeginsNumber (first :: text)) :
    decimalNumeral first text =
      if startsWithName (text.drop (decimalTail first text).1.length) then
        ⟨(decimalTail first text).1.length +
          (nameRun (text.drop (decimalTail first text).1.length)).length, .error .trailingJunk⟩
      else
        ⟨(decimalTail first text).1.length,
          decimalKind (first :: (decimalTail first text).1) (decimalTail first text).2⟩ := by
  unfold decimalNumeral
  split
  next hz =>
    obtain ⟨rfl, hjunk⟩ := hz
    have hends : ¬ EndsDigits text := by
      intro hends
      rcases hjunk with hd | hu
      · exact hends.not_startsWithDigit hd
      · exact (hends _ hu).2 rfl
    have hfront := cons_decimalTail h
    rw [frontNumber_of_zero, behind_of_not_endsDigits hends] at hfront
    have htail : (decimalTail '0' text).1 = [] := (List.cons.inj hfront).2
    rw [htail, List.length_nil, List.drop_zero, Nat.zero_add,
      if_pos (startsWithName_of_not_endsDigits hends)]
  next => rfl

/-! ## Number tokens -/

/-- A number has one fault at most, and it is that of its kind. -/
theorem faults_ofNumeral {n : Numeral} (h : (Lexeme.ofNumeral n).Honest) :
    (Lexeme.ofNumeral n).faults.map Prod.fst = (Lexeme.ofNumeral n).kind.fault?.toList := by
  rw [h.fault?_kind]
  unfold Lexeme.ofNumeral
  split <;> rfl

/-- A number begins with its first character. -/
theorem nextToken_of_beginsNumber {c : Cursor} (hc : c.rest = first :: text)
    (h : BeginsNumber (first :: text)) :
    nextToken c = readLexeme c (.ofNumeral (numeral first text)) := by
  rcases h with hd | ⟨more, htext, hd⟩
  · have hfirst : isDecimalDigit first = true := hd
    have hblank := isBlank_of_isDecimalDigit hfirst
    have hslash : first ≠ '/' := Decimal.ne_of_isDecimalDigit hfirst (by decide)
    rw [nextToken_of_trivia hc (trivia_eq_zero hblank fun h => hslash h.1),
      lexeme_of_digit hfirst]
  · obtain ⟨rfl, rfl⟩ := List.cons.inj htext
    have hlexeme : lexeme '.' text = .ofNumeral (numeral '.' text) := if_pos hd
    rw [nextToken_of_trivia hc (trivia_eq_zero (by decide) (by simp)), hlexeme]

/-- The token at the cursor is of the kind and covers the word, and its only fault, if it is faulty,
is that of its kind. -/
structure ReadsNumber (c : Cursor) (word rest : List Char) (kind : TokenKind) : Prop where
  covers : (nextToken c).Covers c word rest kind
  faults : (nextToken c).faults.map PlacedFault.fault = kind.fault?.toList

theorem readsNumber {c : Cursor} {word rest : List Char} (hc : c.rest = first :: text)
    (h : BeginsNumber (first :: text)) (htext : first :: text = word ++ rest)
    (hmore : (numeral first text).more + 1 = word.length) :
    ReadsNumber c word rest (Lexeme.ofNumeral (numeral first text)).kind := by
  rw [← ofNumeral_more] at hmore
  constructor
  · rw [nextToken_of_beginsNumber hc h]
    exact covers_readLexeme (hc.trans htext) hmore
  · rw [nextToken_of_beginsNumber hc h, ← faults_ofNumeral (honest_numeral first text), readLexeme,
      List.map_map]
    rfl

theorem nameRun_append (text : List Char) :
    nameRun text ++ text.drop (nameRun text).length = text :=
  List.prefix_iff_eq_append.mp (List.takeWhile_prefix isNameChar)

/-- What is read where a number without radix mark is at the front: the longest word, if no name
character touches it, and else that word and the run of such characters. -/
structure ReadsWord (c : Cursor) (word rest : List Char) : Prop where
  clean : startsWithName rest = false → ∃ kind, WordKind word kind ∧ ReadsNumber c word rest kind
  touched : startsWithName rest = true →
    ReadsNumber c (word ++ nameRun rest) (rest.drop (nameRun rest).length) (.faulty .trailingJunk)

/-- The letters that mark a radix behind a zero. -/
inductive RadixLetter : Char → Nat → Prop
  | binary {c : Char} (h : c = 'b' ∨ c = 'B') : RadixLetter c 2
  | octal {c : Char} (h : c = 'o' ∨ c = 'O') : RadixLetter c 8
  | hexadecimal {c : Char} (h : c = 'x' ∨ c = 'X') : RadixLetter c 16

/-- They are the marks that number tokens are read by. -/
theorem radixLetter_iff {c : Char} {base : Nat} :
    RadixLetter c base ↔ ∃ radix, Radix.ofMark? c = some radix ∧ radix.base = base := by
  constructor
  · rintro (⟨rfl | rfl⟩ | ⟨rfl | rfl⟩ | ⟨rfl | rfl⟩) <;> exact ⟨_, rfl, rfl⟩
  · rintro ⟨radix, h, rfl⟩
    unfold Radix.ofMark? at h
    split at h <;> cases h <;> constructor <;> simp

/-- No zero with a radix mark is at the front. -/
def NoRadixMark (text : List Char) : Prop :=
  ∀ mark base more, text = '0' :: mark :: more → ¬ RadixLetter mark base

theorem numeral_of_noRadixMark (h : NoRadixMark (first :: text)) :
    numeral first text = decimalNumeral first text := by
  refine numeral_eq_decimalNumeral fun mark hm hz => ?_
  obtain ⟨more, rfl⟩ := List.head?_eq_some_iff.mp hm
  exact Option.eq_none_iff_forall_ne_some.mpr fun radix hradix =>
    h mark radix.base more (by rw [hz]) (radixLetter_iff.mpr ⟨radix, hradix, rfl⟩)

/-- **A number without radix mark is read as the longest word**, with the kind that this is by
itself, or as junk. -/
theorem readsWord {c : Cursor} (h : BeginsNumber c.rest) (hr : NoRadixMark c.rest) :
    ∃ word rest, LongestWord c.rest word rest ∧ ReadsWord c word rest := by
  have hlongest := h.longestWord
  refine ⟨_, _, hlongest, ?_⟩
  obtain ⟨first, text, hc⟩ := h.exists_cons
  rw [hc] at h hr hlongest ⊢
  have hfront := cons_decimalTail h
  have hdrop : (first :: text).drop (frontNumber (first :: text)).length =
      text.drop (decimalTail first text).1.length := by
    rw [← hfront]
    rfl
  have hdec := decimalNumeral_eq h
  rw [← numeral_of_noRadixMark hr, ← hdrop, hfront] at hdec
  have hlength := congrArg List.length hfront
  rw [List.length_cons] at hlength
  constructor
  · intro hname
    rw [if_neg (by rw [hname]; exact Bool.false_ne_true)] at hdec
    refine ⟨_, wordKind_decimalKind hlongest.isNumber (decimalTail_snd_eq_false_iff h)
      (decimalTail first text).1.length, ?_⟩
    rw [← hdec]
    exact readsNumber hc h hlongest.text_eq (by rw [hdec]; exact hlength)
  · intro hname
    rw [if_pos hname] at hdec
    have hkind : (Lexeme.ofNumeral (numeral first text)).kind = .faulty .trailingJunk := by
      rw [hdec]
      rfl
    rw [← hkind]
    refine readsNumber hc h ?_ ?_
    · rw [List.append_assoc, nameRun_append]
      exact hlongest.text_eq
    · rw [hdec, List.length_append, ← hlength]
      exact Nat.add_right_comm _ _ _

/-! ## Radix marks -/

/-- A binary exponent is at the front, perhaps behind a fraction of hexadecimal digits and
underscores. -/
inductive BinaryPower : List Char → Prop
  | mark {mark : Char} {rest : List Char} (hm : mark = 'p' ∨ mark = 'P') :
      BinaryPower (mark :: rest)
  | fraction {mark : Char} {digits rest : List Char}
      (hd : ∀ c ∈ digits, isDigitOf 16 c = true ∨ c = '_') (hm : mark = 'p' ∨ mark = 'P') :
      BinaryPower ('.' :: (digits ++ mark :: rest))

theorem binaryExponentAhead_iff {text : List Char} :
    binaryExponentAhead text = true ↔ BinaryPower text := by
  constructor
  · intro h
    obtain ⟨mark, hm, hhead | ⟨digits, more, hd, rfl⟩⟩ := binaryExponentAhead_cases h
    · obtain ⟨more, rfl⟩ := List.head?_eq_some_iff.mp hhead
      exact .mark hm
    · exact .fraction (fun c hc => by simpa using hd c hc) hm
  · intro h
    cases h with
    | mark hm => rcases hm with rfl | rfl <;> rfl
    | fraction hd hm =>
      exact binaryExponentAhead_append (fun c hc => by simpa using hd c hc) hm _

/-- The text is an integer of the radix and the rest: digits in groups with a value of 64 bits, no
name character behind them, and no binary exponent behind hexadecimal ones. -/
structure RadixWord (base : Nat) (text digits rest : List Char) : Prop where
  text_eq : text = digits ++ rest
  groups : DigitGroups base digits
  inRange : (natOfDigits base (withoutSeparators digits) : Int) ≤ maxInteger
  ends : startsWithName rest = false
  notFloat : base = 16 → ¬ BinaryPower rest

namespace RadixWord

variable {radix : Radix} {mark : Char} {digits rest : List Char}

theorem digitRun_eq (h : RadixWord radix.base text digits rest) :
    digitRun radix.base false text = digits := by
  rw [h.text_eq, h.groups.digitRun_append, digitRun_of_startsWithName h.ends, List.append_nil]

theorem isSome_readInteger?_iff (hm : Radix.ofMark? mark = some radix)
    (h : DigitGroups radix.base digits) :
    (readInteger? ('0' :: mark :: digits)).isSome = true ↔
      (natOfDigits radix.base (withoutSeparators digits) : Int) ≤ maxInteger := by
  have hsplit : splitRadix ('0' :: mark :: digits) = (radix.base, digits) := by
    simp only [splitRadix, hm]
  exact PathExpr.isSome_readInteger?_iff (unsigned_cons (by decide) (by decide))
    (readMagnitude?_of_digitGroups hsplit h)

/-- Such an integer is read. -/
theorem radixNumeral_eq (h : RadixWord radix.base text digits rest)
    (hm : Radix.ofMark? mark = some radix) : radixNumeral radix mark text =
      ⟨1 + digits.length, .ok (.integer (String.ofList ('0' :: mark :: digits)))⟩ := by
  have hne : digits ≠ [] := by
    obtain ⟨c, more, rfl, -⟩ := h.groups.exists_cons
    exact List.cons_ne_nil c more
  rw [radixNumeral_eq_ok, h.digitRun_eq, h.text_eq, List.drop_left]
  refine ⟨hne, rfl, ?_, h.ends, (isSome_readInteger?_iff hm h.groups).mpr h.inRange, rfl⟩
  rintro ⟨rfl, hahead⟩
  exact h.notFloat rfl (binaryExponentAhead_iff.mp hahead)

theorem eq_hexadecimal (h : radix.base = 16) : radix = .hexadecimal := by
  cases radix <;> first | rfl | cases h

/-- …and nothing else is. -/
theorem of_radixNumeral {t : TokenKind} (hm : Radix.ofMark? mark = some radix)
    (hk : (radixNumeral radix mark text).kind = .ok t) :
    RadixWord radix.base text (digitRun radix.base false text)
      (text.drop (digitRun radix.base false text).length) := by
  obtain ⟨hne, -, hfloat, hends, hsome, -⟩ := radixNumeral_eq_ok.mp (Numeral.eq_of_kind hk)
  have hgroups : DigitGroups radix.base (digitRun radix.base false text) := by
    refine .of_digitRun ?_
    cases text with
    | nil => exact absurd rfl hne
    | cons c text =>
      by_contra hc
      exact hne ((if_neg hc).trans (if_neg (by simp)))
  exact
    { text_eq := (List.prefix_iff_eq_append.mp (digitRun_isPrefix radix.base false text)).symm
      groups := hgroups
      inRange := (isSome_readInteger?_iff hm hgroups).mp hsome
      ends := hends
      notFloat := fun hhex hpower =>
        hfloat ⟨eq_hexadecimal hhex, binaryExponentAhead_iff.mpr hpower⟩ }

end RadixWord

/-- What is read behind a zero and a radix mark: an integer if the text begins with one, and else a
faulty token. -/
structure ReadsRadix (c : Cursor) (base : Nat) (mark : Char) (text : List Char) : Prop where
  accepted : ∀ digits rest, RadixWord base text digits rest → ReadsNumber c ('0' :: mark :: digits)
    rest (.integer (String.ofList ('0' :: mark :: digits)))
  kind_iff : (∃ literal, (nextToken c).token.kind = .integer literal) ↔
    ∃ digits rest, RadixWord base text digits rest
  refused : (¬ ∃ digits rest, RadixWord base text digits rest) →
    ∃ fault, (nextToken c).token.kind = .faulty fault

theorem readsRadix {c : Cursor} {base : Nat} {mark : Char} (hc : c.rest = '0' :: mark :: text)
    (h : RadixLetter mark base) : ReadsRadix c base mark text := by
  obtain ⟨radix, hm, rfl⟩ := radixLetter_iff.mp h
  have hbegins : BeginsNumber ('0' :: mark :: text) := .inl rfl
  have hnumeral : numeral '0' (mark :: text) = radixNumeral radix mark text :=
    numeral_eq_radixNumeral hm
  have haccepted : ∀ digits rest, RadixWord radix.base text digits rest →
      ReadsNumber c ('0' :: mark :: digits) rest
        (.integer (String.ofList ('0' :: mark :: digits))) := by
    intro digits rest hword
    have hread := hnumeral.trans (hword.radixNumeral_eq hm)
    have htext : '0' :: mark :: text = '0' :: mark :: digits ++ rest := by rw [hword.text_eq]; rfl
    have hnumber := readsNumber hc hbegins htext (by rw [hread, Nat.add_comm 1]; rfl)
    rwa [hread] at hnumber
  have hrefused : (¬ ∃ digits rest, RadixWord radix.base text digits rest) →
      ∃ fault, (nextToken c).token.kind = .faulty fault := by
    intro hnone
    rw [nextToken_of_beginsNumber hc hbegins, hnumeral]
    cases hk : (radixNumeral radix mark text).kind with
    | ok t => exact absurd ⟨_, _, RadixWord.of_radixNumeral hm hk⟩ hnone
    | error fault => exact ⟨fault, by rw [readLexeme, Lexeme.ofNumeral, hk]; rfl⟩
  refine ⟨haccepted, ⟨?_, ?_⟩, hrefused⟩
  · rintro ⟨literal, hliteral⟩
    by_contra hnone
    obtain ⟨fault, hfault⟩ := hrefused hnone
    rw [hfault] at hliteral
    cases hliteral
  · rintro ⟨digits, rest, hword⟩
    exact ⟨_, by rw [(haccepted digits rest hword).covers.token]⟩

/-- **Number literals are scanned exactly by their grammar, and the longest one is taken.** -/
theorem numbers_follow_grammar (c : Cursor) :
    (BeginsNumber c.rest → NoRadixMark c.rest →
      ∃ word rest, LongestWord c.rest word rest ∧ ReadsWord c word rest) ∧
    ∀ mark base text, c.rest = '0' :: mark :: text → RadixLetter mark base →
      ReadsRadix c base mark text :=
  ⟨readsWord, fun _ _ _ hc hm => readsRadix hc hm⟩

end PathExpr
