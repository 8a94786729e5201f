import PathExpr.Proofs.Lexical.Front
import PathExpr.Proofs.Lexical.Locality
import PathExpr.Proofs.Lexical.Quoted

/-!
# PathExpr/Proofs/Lexical/Strings — the grammar of string literals

`StringBody body chars` says of the text between the quotation marks of a literal that it is a row
of raw characters and escape sequences, and which characters they stand for.  Nothing in it speaks
of reading: there are the marks, the digits and the numbers that these write.

`escape` reads what follows a backslash from the front and tells how far it came.  It answers with a
character exactly where the text begins with an escape sequence for it (`escape_eq_ok_iff`), so a
literal is free of faults exactly if its body is in the grammar (`faults_stringRest_eq_nil`).
-/

namespace PathExpr

/-! ## The grammar -/

/-- There are only hexadecimal digits in it. -/
def HexDigits (digits : List Char) : Prop := ∀ c ∈ digits, isDigitOf 16 c = true

/-- A code unit: four hexadecimal digits, or one to six between braces. -/
inductive CodeUnit : List Char → Nat → Prop
  | plain {digits : List Char} (hd : HexDigits digits) (hlen : digits.length = 4) :
      CodeUnit digits (natOfDigits 16 digits)
  | braced {digits : List Char} (hd : HexDigits digits) (hlow : 1 ≤ digits.length)
      (hhigh : digits.length ≤ 6) :
      CodeUnit ('\x7b' :: digits ++ ['\x7d']) (natOfDigits 16 digits)

/-- A letter or mark that a backslash makes another character of. -/
inductive LetterEscape : Char → Char → Prop
  | backspace : LetterEscape 'b' '\x08'
  | formFeed : LetterEscape 'f' '\x0c'
  | lineFeed : LetterEscape 'n' '\n'
  | carriageReturn : LetterEscape 'r' '\r'
  | tab : LetterEscape 't' '\t'
  | verticalTab : LetterEscape 'v' '\x0b'
  | quotationMark : LetterEscape '"' '"'
  | backslash : LetterEscape '\\' '\\'
  | slash : LetterEscape '/' '/'

/-- What follows the backslash of an escape sequence, and the character that the sequence stands
for.  As the character has one, a code point is none of a surrogate and none beyond the last. -/
inductive EscapeSequence : List Char → Char → Prop
  | letter {mark c : Char} (h : LetterEscape mark c) : EscapeSequence [mark] c
  | byte {digits : List Char} {c : Char} (hd : HexDigits digits) (hlen : digits.length = 2)
      (hc : c.toNat = natOfDigits 16 digits) (h0 : c.toNat ≠ 0) :
      EscapeSequence ('x' :: digits) c
  | unit {unit : List Char} {c : Char} (h : CodeUnit unit c.toNat) (h0 : c.toNat ≠ 0) :
      EscapeSequence ('u' :: unit) c
  | pair {unit unit' : List Char} {high low : Nat} {c : Char} (h : CodeUnit unit high)
      (h' : CodeUnit unit' low) (hh : 0xd800 ≤ high ∧ high ≤ 0xdbff)
      (hl : 0xdc00 ≤ low ∧ low ≤ 0xdfff)
      (hc : c.toNat = 0x10000 + (high - 0xd800) * 0x400 + (low - 0xdc00)) :
      EscapeSequence ('u' :: unit ++ '\\' :: 'u' :: unit') c

/-- The body of a string literal, and the characters that it stands for. -/
inductive StringBody : List Char → List Char → Prop
  | nil : StringBody [] []
  | raw {c : Char} {body chars : List Char} (hc : 0x20 ≤ c.toNat) (hq : c ≠ '"') (hb : c ≠ '\\')
      (h : StringBody body chars) : StringBody (c :: body) (c :: chars)
  | escape {sequence body chars : List Char} {c : Char} (hs : EscapeSequence sequence c)
      (h : StringBody body chars) : StringBody ('\\' :: sequence ++ body) (c :: chars)

/-! ## Code units -/

section Units

variable {text rest digits w : List Char} {n k : Nat} {c mark : Char}

/-- Digits of a run that is no longer than it may be are all of the run. -/
theorem takeWhile_take_of_hexDigits (hd : HexDigits digits) (hlen : digits.length ≤ n)
    (hr : ∀ c ∈ rest.head?, isDigitOf 16 c = false) :
    ((digits ++ rest).take n).takeWhile (isDigitOf 16) = digits := by
  rw [List.take_append, List.take_of_length_le hlen, List.takeWhile_append_of_pos hd]
  have hnil : (rest.take (n - digits.length)).takeWhile (isDigitOf 16) = [] := by
    cases rest with
    | nil => rw [List.take_nil, List.takeWhile_nil]
    | cons c rest =>
      cases n - digits.length with
      | zero => rfl
      | succ m =>
        rw [List.take_succ_cons, List.takeWhile_cons_of_neg]
        simp [hr c rfl]
  rw [hnil, List.append_nil]

theorem hexDigits_takeWhile (text : List Char) : HexDigits (text.takeWhile (isDigitOf 16)) :=
  fun _ hc => List.mem_takeWhile_imp hc

/-- Digits found at the front of a text are there. -/
theorem exists_append_takeWhile (text : List Char) (n : Nat) :
    ∃ rest, text = (text.take n).takeWhile (isDigitOf 16) ++ rest := by
  obtain ⟨rest, hrest⟩ :=
    (List.takeWhile_prefix (isDigitOf 16) (l := text.take n)).trans (List.take_prefix n text)
  exact ⟨rest, hrest.symm⟩

/-- **A code unit that is read stands there.** -/
theorem exists_unit_of_codeUnit (h : codeUnit text = (.ok n, k)) :
    ∃ w rest, text = w ++ rest ∧ CodeUnit w n ∧ w.length = k := by
  rcases codeUnit_eq_ok.mp h with ⟨body, rfl, hne, hbrace, rfl, rfl⟩ | ⟨-, hlen, rfl, rfl⟩
  · obtain ⟨rest, hrest⟩ := exists_append_takeWhile body 6
    generalize hds : (body.take 6).takeWhile (isDigitOf 16) = ds at *
    subst hrest
    rw [List.drop_left] at hbrace
    obtain ⟨more, rfl⟩ := List.head?_eq_some_iff.mp hbrace
    have hhex : HexDigits ds := hds ▸ hexDigits_takeWhile _
    have hle : ds.length ≤ 6 := by
      rw [← hds]
      exact (List.takeWhile_prefix _).length_le.trans (List.length_take_le 6 _)
    refine ⟨'\x7b' :: ds ++ ['\x7d'], more, by simp, ?_, by simp⟩
    exact .braced hhex (List.length_pos_iff.mpr hne) hle
  · obtain ⟨rest, hrest⟩ := exists_append_takeWhile text 4
    exact ⟨_, rest, hrest, .plain (hexDigits_takeWhile _) hlen, hlen⟩

/-- …and one that stands there is read, whatever follows it. -/
theorem codeUnit_of_unit (h : CodeUnit w n) (rest : List Char) :
    codeUnit (w ++ rest) = (.ok n, w.length) := by
  rw [codeUnit_eq_ok]
  cases h with
  | plain hd hlen =>
    refine .inr ⟨?_, ?_⟩
    · have hpos : 0 < w.length := by omega
      obtain ⟨c, ds, rfl⟩ := List.exists_cons_of_length_pos hpos
      intro hb
      obtain rfl := Option.some.inj hb
      exact absurd (hd _ List.mem_cons_self) (by decide)
    · rw [← hlen, List.take_left, List.takeWhile_eq_self_iff.mpr hd]
      exact ⟨rfl, rfl, rfl⟩
  | @braced digits hd hlow hhigh =>
    have htake : ((digits ++ '\x7d' :: rest).take 6).takeWhile (isDigitOf 16) = digits :=
      takeWhile_take_of_hexDigits hd hhigh (by
        rintro _ ⟨⟩
        decide)
    refine .inl ⟨digits ++ '\x7d' :: rest, by simp, ?_⟩
    rw [htake, List.drop_left]
    exact ⟨List.length_pos_iff.mp hlow, rfl, rfl, by simp⟩

/-- **A code stands for the character that has it.** -/
theorem charOfCode_eq_ok : charOfCode n = .ok c ↔ c.toNat = n ∧ n ≠ 0 := by
  constructor
  · intro h
    rw [charOfCode] at h
    by_cases h0 : n = 0
    · rw [if_pos h0] at h
      cases h
    · rw [if_neg h0] at h
      by_cases hv : n.isValidChar
      · rw [dif_pos hv] at h
        obtain rfl := Except.ok.inj h
        exact ⟨rfl, h0⟩
      · rw [dif_neg hv] at h
        cases h
  · rintro ⟨rfl, h0⟩
    exact charOfCode_toNat fun hc => h0 (by rw [hc]; rfl)

theorem simpleEscape?_eq_some : simpleEscape? mark = some c ↔ LetterEscape mark c := by
  constructor
  · intro h
    unfold simpleEscape? at h
    split at h
    all_goals first
      | obtain rfl := Option.some.inj h; constructor
      | cases h
  · intro h
    cases h <;> rfl

end Units

/-! ## Escape sequences -/

section Sequences

variable {text : List Char} {c : Char} {n k : Nat}

theorem isHighSurrogate_iff : isHighSurrogate n = true ↔ 0xd800 ≤ n ∧ n ≤ 0xdbff := by
  rw [isHighSurrogate, Bool.and_eq_true, decide_eq_true_iff, decide_eq_true_iff]

theorem isLowSurrogate_iff : isLowSurrogate n = true ↔ 0xdc00 ≤ n ∧ n ≤ 0xdfff := by
  rw [isLowSurrogate, Bool.and_eq_true, decide_eq_true_iff, decide_eq_true_iff]

/-- No character has the code of a surrogate. -/
theorem not_surrogate_toNat (c : Char) :
    isHighSurrogate c.toNat = false ∧ isLowSurrogate c.toNat = false := by
  have hv : c.toNat < 0xd800 ∨ 0xdfff < c.toNat ∧ c.toNat < 0x110000 := c.valid
  rw [isHighSurrogate, isLowSurrogate]
  simp only [Bool.and_eq_false_iff, decide_eq_false_iff_not]
  omega

/-- **What is read after `\u` stands there.** -/
theorem sequence_of_unitEscape (h : unitEscape text = (.ok c, k)) :
    ∃ w rest, text = w ++ rest ∧ EscapeSequence ('u' :: w) c ∧ w.length = k := by
  unfold unitEscape at h
  split at h
  · cases (Prod.mk.inj h).1
  next unit used hunit =>
    obtain ⟨w, rest, rfl, hw, rfl⟩ := exists_unit_of_codeUnit hunit
    split at h
    · cases (Prod.mk.inj h).1
    · split at h
      next hhigh =>
        rw [List.drop_left] at h
        split at h
        next more =>
          split at h
          · cases (Prod.mk.inj h).1
          next low usedToo hunit' =>
            obtain ⟨w', rest', rfl, hw', rfl⟩ := exists_unit_of_codeUnit hunit'
            split at h
            next hlow =>
              obtain ⟨hc, rfl⟩ := Prod.mk.inj h
              obtain ⟨hcode, -⟩ := charOfCode_eq_ok.mp hc
              refine ⟨w ++ '\\' :: 'u' :: w', rest', by simp, ?_, by simp; omega⟩
              exact .pair hw hw' (isHighSurrogate_iff.mp hhigh) (isLowSurrogate_iff.mp hlow) hcode
            · cases (Prod.mk.inj h).1
        · cases (Prod.mk.inj h).1
      · obtain ⟨hc, rfl⟩ := Prod.mk.inj h
        obtain ⟨rfl, h0⟩ := charOfCode_eq_ok.mp hc
        exact ⟨w, rest, rfl, .unit hw h0, rfl⟩

theorem toNat_ofNat_of_lt : ∀ n < 16 ^ 2, (Char.ofNat n).toNat = n := by decide +kernel

/-- …and the two digits after `\x`. -/
theorem sequence_of_byteEscape (h : byteEscape text = (.ok c, k)) :
    ∃ w rest, text = w ++ rest ∧ EscapeSequence ('x' :: w) c ∧ w.length = k := by
  obtain ⟨rest, hrest⟩ := exists_append_takeWhile text 2
  have hhex := hexDigits_takeWhile (text.take 2)
  rw [byteEscape.eq_def] at h
  extract_lets digits code at h
  split at h
  next hlen =>
    obtain ⟨hc, rfl⟩ := Prod.mk.inj h
    split at hc
    · cases hc
    next h0 =>
      obtain rfl := Except.ok.inj hc
      have hlt : code < 16 ^ digits.length := natOfDigits_lt (by decide) digits
      rw [hlen] at hlt
      have hcode : (Char.ofNat code).toNat = code := toNat_ofNat_of_lt code hlt
      exact ⟨digits, rest, hrest, .byte hhex hlen hcode (hcode.trans_ne h0), hlen⟩
  · cases (Prod.mk.inj h).1

/-- **What is read after a backslash stands there.** -/
theorem sequence_of_escape (h : escape text = (.ok c, k)) :
    ∃ w rest, text = w ++ rest ∧ EscapeSequence w c ∧ w.length = k := by
  unfold escape at h
  split at h
  · cases (Prod.mk.inj h).1
  · obtain ⟨hc, rfl⟩ := Prod.mk.inj h
    obtain ⟨w, rest, rfl, hw, hlen⟩ := sequence_of_byteEscape (Prod.ext hc rfl)
    exact ⟨'x' :: w, rest, rfl, hw, congrArg Nat.succ hlen⟩
  · obtain ⟨hc, rfl⟩ := Prod.mk.inj h
    obtain ⟨w, rest, rfl, hw, hlen⟩ := sequence_of_unitEscape (Prod.ext hc rfl)
    exact ⟨'u' :: w, rest, rfl, hw, congrArg Nat.succ hlen⟩
  next mark rest _ _ =>
    split at h
    next ch hch =>
      obtain ⟨hc, rfl⟩ := Prod.mk.inj h
      obtain rfl := Except.ok.inj hc
      exact ⟨[mark], rest, rfl, .letter (simpleEscape?_eq_some.mp hch), rfl⟩
    · cases (Prod.mk.inj h).1

/-- Two digits are read after `\x`… -/
theorem byteEscape_of_digits {digits : List Char} (hd : HexDigits digits) (hlen : digits.length = 2)
    (hc : c.toNat = natOfDigits 16 digits) (h0 : c.toNat ≠ 0) (rest : List Char) :
    byteEscape (digits ++ rest) = (.ok c, digits.length) := by
  have htake : ((digits ++ rest).take 2).takeWhile (isDigitOf 16) = digits := by
    rw [← hlen, List.take_left, List.takeWhile_eq_self_iff.mpr hd]
  rw [byteEscape, htake]
  simp only [hlen, if_true, ← hc, if_neg h0, Char.ofNat_toNat]

/-- …and after `\u` one unit, which is none of a pair as a character has it… -/
theorem unitEscape_of_unit {unit : List Char} (h : CodeUnit unit c.toNat) (h0 : c.toNat ≠ 0)
    (rest : List Char) : unitEscape (unit ++ rest) = (.ok c, unit.length) := by
  obtain ⟨hhigh, hlow⟩ := not_surrogate_toNat c
  rw [unitEscape, codeUnit_of_unit h]
  simp only [hlow, hhigh, charOfCode_eq_ok.mpr ⟨rfl, h0⟩]
  rfl

/-- …or two that make a pair. -/
theorem unitEscape_of_pair {unit unit' : List Char} {high low : Nat} (h : CodeUnit unit high)
    (h' : CodeUnit unit' low) (hh : 0xd800 ≤ high ∧ high ≤ 0xdbff)
    (hl : 0xdc00 ≤ low ∧ low ≤ 0xdfff)
    (hc : c.toNat = 0x10000 + (high - 0xd800) * 0x400 + (low - 0xdc00)) (rest : List Char) :
    unitEscape (unit ++ '\\' :: 'u' :: unit' ++ rest) =
      (.ok c, (unit ++ '\\' :: 'u' :: unit').length) := by
  have hhigh := isHighSurrogate_iff.mpr hh
  have hlow := isLowSurrogate_iff.mpr hl
  have hlow' : isLowSurrogate high = false := by
    rw [← Bool.not_eq_true, isLowSurrogate_iff]
    omega
  have hpos : combineSurrogates high low ≠ 0 := by
    unfold combineSurrogates
    omega
  have hcode : charOfCode (combineSurrogates high low) = .ok c := charOfCode_eq_ok.mpr ⟨hc, hpos⟩
  have htext : unit ++ '\\' :: 'u' :: unit' ++ rest =
      unit ++ ('\\' :: 'u' :: (unit' ++ rest)) := by simp
  rw [htext, unitEscape, codeUnit_of_unit h]
  simp only [hlow', hhigh, List.drop_left, codeUnit_of_unit h', hlow, hcode, if_true,
    List.length_append, List.length_cons]
  simp only [Bool.false_eq_true, if_false, Prod.mk.injEq, true_and]
  omega

/-- **An escape sequence is read as what it stands for**, whatever follows it. -/
theorem escape_of_sequence {w : List Char} (h : EscapeSequence w c) (rest : List Char) :
    escape (w ++ rest) = (.ok c, w.length) := by
  cases h with
  | @letter mark c h =>
    have hx : mark ≠ 'x' := by rintro rfl; cases h
    have hu : mark ≠ 'u' := by rintro rfl; cases h
    rw [List.singleton_append, escape.eq_4 _ _ (by simpa using hx) (by simpa using hu),
      simpleEscape?_eq_some.mpr h]
    rfl
  | byte hd hlen hc h0 =>
    rw [List.cons_append, escape, byteEscape_of_digits hd hlen hc h0, List.length_cons]
  | unit h h0 => rw [List.cons_append, escape, unitEscape_of_unit h h0, List.length_cons]
  | pair h h' hh hl hc =>
    rw [List.cons_append, List.cons_append, escape, unitEscape_of_pair h h' hh hl hc,
      List.length_cons]

/-- **An escape sequence is read exactly where one stands.** -/
theorem escape_eq_ok_iff :
    escape text = (.ok c, k) ↔ ∃ w rest, text = w ++ rest ∧ EscapeSequence w c ∧ w.length = k := by
  constructor
  · exact sequence_of_escape
  · rintro ⟨w, rest, rfl, h, rfl⟩
    exact escape_of_sequence h rest

end Sequences

/-! ## String literals -/

section Literals

variable {text body chars rest : List Char} {seen : Nat}

/-- **A literal with its body in the grammar is read as what the body stands for.** -/
theorem stringRest_of_body (h : StringBody body chars) (seen : Nat) (rest : List Char) :
    ∃ b, stringRest seen (body ++ '"' :: rest) = ⟨chars, seen + body.length + 1, [], b⟩ := by
  induction h generalizing seen with
  | nil => exact ⟨false, by rw [List.nil_append, stringRest, if_pos rfl]; rfl⟩
  | raw hc hq hb _ ih =>
    obtain ⟨b, hread⟩ := ih (seen + 1)
    refine ⟨b, ?_⟩
    rw [List.cons_append, stringRest, if_neg hq, if_neg hb, if_neg (Nat.not_lt.mpr hc), hread,
      List.length_cons, ← Nat.add_assoc, Nat.add_right_comm seen]
    rfl
  | @escape sequence body chars c hs _ ih =>
    obtain ⟨b, hread⟩ := ih (seen + ('\\' :: sequence).length)
    refine ⟨true, ?_⟩
    rw [List.append_assoc, stringRest_escape sequence (escape_of_sequence hs _) seen, hread,
      List.length_append, ← Nat.add_assoc]
    rfl

/-- **A literal without faults has its body in the grammar.** -/
theorem exists_stringBody (hf : (stringRest seen text).faults = []) :
    ∃ body rest chars, text = body ++ '"' :: rest ∧ StringBody body chars := by
  induction seen, text using stringRest.induct
  case case1 seen => simp [stringRest] at hf
  case case2 seen rest => exact ⟨[], rest, [], rfl, .nil⟩
  case case3 seen rest e hq ih =>
    rw [stringRest, if_neg (by decide), if_pos rfl] at hf
    obtain ⟨hf, c, hok⟩ := faults_pushEscape_eq_nil.mp hf
    obtain ⟨w, more, htext, hw, hlen⟩ := sequence_of_escape (Prod.ext hok rfl)
    obtain ⟨body, after, chars, hmore, hbody⟩ := ih hf
    rw [htext, show e.2 = w.length from hlen.symm, List.drop_left] at hmore
    exact ⟨'\\' :: w ++ body, after, c :: chars, by rw [htext, hmore]; simp, .escape hw hbody⟩
  case case4 seen c rest hq hc hn ih =>
    rw [stringRest, if_neg hq, if_neg hc, if_pos hn] at hf
    cases hf
  case case5 seen c rest hq hc hn ih =>
    rw [stringRest, if_neg hq, if_neg hc, if_neg hn] at hf
    obtain ⟨body, rest, chars, rfl, hbody⟩ := ih hf
    exact ⟨c :: body, rest, c :: chars, rfl, .raw (Nat.not_lt.mp hn) hq hc hbody⟩

/-- **A literal is free of faults exactly if its body is in the grammar.** -/
theorem faults_stringRest_eq_nil : (stringRest seen text).faults = [] ↔
    ∃ body rest chars, text = body ++ '"' :: rest ∧ StringBody body chars := by
  constructor
  · exact exists_stringBody
  · rintro ⟨body, rest, chars, rfl, h⟩
    obtain ⟨b, hread⟩ := stringRest_of_body h seen rest
    rw [hread]

end Literals

/-! ## Tokens -/

/-- What is read at the cursor, where quoted text begins behind `opening`: a token that `make` makes
of the decoded text if the grammar has it, which covers the literal and comes without faults, and a
faulty token if not. -/
structure ReadsQuoted (c : Cursor) (opening text : List Char) (make : String → TokenKind) :
    Prop where
  accepted : ∀ body rest chars, text = body ++ '"' :: rest → StringBody body chars →
    (nextToken c).Covers c (opening ++ body ++ ['"']) rest (make (String.ofList chars)) ∧
      (nextToken c).faults = []
  kind_iff : ∀ value, (nextToken c).token.kind = make value ↔
    ∃ body rest chars, text = body ++ '"' :: rest ∧ StringBody body chars ∧
      value = String.ofList chars
  refused : (¬ ∃ body rest chars, text = body ++ '"' :: rest ∧ StringBody body chars) →
    ∃ fault, (nextToken c).token.kind = .faulty fault

theorem readsQuoted {c : Cursor} {opening text : List Char} {make : String → TokenKind}
    (hc : c.rest = opening ++ text)
    (hl : nextToken c = readLexeme c (.ofRun
      (make (String.ofList (stringRest opening.length text).value))
      (stringRest opening.length text)))
    (hinj : ∀ value value', make value = make value' → value = value')
    (hm : ∀ value fault, make value ≠ .faulty fault) : ReadsQuoted c opening text make := by
  have haccepted : ∀ body rest chars, text = body ++ '"' :: rest → StringBody body chars →
      (nextToken c).Covers c (opening ++ body ++ ['"']) rest (make (String.ofList chars)) ∧
        (nextToken c).faults = [] := by
    rintro body rest chars rfl hbody
    obtain ⟨b, hread⟩ := stringRest_of_body hbody opening.length rest
    rw [hread] at hl
    rw [hl]
    refine ⟨covers_readLexeme (by rw [hc]; simp) ?_, rfl⟩
    simp only [Lexeme.ofRun, List.length_append, List.length_singleton, Nat.add_sub_cancel]
  have hrefused : (¬ ∃ body rest chars, text = body ++ '"' :: rest ∧ StringBody body chars) →
      ∃ fault, (nextToken c).token.kind = .faulty fault := by
    intro h
    have hne : (stringRest opening.length text).faults ≠ [] := mt faults_stringRest_eq_nil.mp h
    obtain ⟨f, fs, hf⟩ := List.exists_cons_of_ne_nil hne
    exact ⟨f.1, by rw [hl]; simp [readLexeme, Lexeme.kind, Lexeme.ofRun, hf]⟩
  refine ⟨haccepted, fun value => ⟨fun hk => ?_, ?_⟩, hrefused⟩
  · by_cases h : ∃ body rest chars, text = body ++ '"' :: rest ∧ StringBody body chars
    · obtain ⟨body, rest, chars, htext, hbody⟩ := h
      obtain ⟨⟨htoken, -⟩, -⟩ := haccepted body rest chars htext hbody
      rw [htoken] at hk
      exact ⟨body, rest, chars, htext, hbody, (hinj _ _ hk).symm⟩
    · obtain ⟨fault, hfault⟩ := hrefused h
      exact absurd (hk.symm.trans hfault) (hm value fault)
  · rintro ⟨body, rest, chars, htext, hbody, rfl⟩
    obtain ⟨⟨htoken, -⟩, -⟩ := haccepted body rest chars htext hbody
    rw [htoken]

/-- **Quoted text is read exactly if it is in the grammar, and as what it stands for**, as a string
where a quotation mark begins it, and as the name of a variable behind a dollar sign. -/
theorem quoted_text_follows_grammar (text : List Char) (offset : Nat) (position : Position) :
    ReadsQuoted ⟨'"' :: text, offset, position⟩ ['"'] text .string ∧
      ReadsQuoted ⟨'$' :: '"' :: text, offset, position⟩ ['$', '"'] text .variable := by
  have hstring : trivia ('"' :: text) = 0 := trivia_eq_zero (by decide) (by simp)
  have hvariable : trivia ('$' :: '"' :: text) = 0 := trivia_eq_zero (by decide) (by simp)
  constructor
  · exact readsQuoted rfl (nextToken_of_trivia rfl hstring) (fun _ _ h => TokenKind.string.inj h)
      nofun
  · exact readsQuoted rfl (nextToken_of_trivia rfl hvariable)
      (fun _ _ h => TokenKind.variable.inj h) nofun

end PathExpr
