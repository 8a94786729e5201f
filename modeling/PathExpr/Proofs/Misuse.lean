import Mathlib.Data.String.Basic
import Mathlib.Logic.Function.Iterate
import PathExpr.Proofs.Lexical.Numerals
import PathExpr.Proofs.Lexical.Reach
import PathExpr.Proofs.Number.Bounds
import PathExpr.Proofs.Syntax.Graceful
import PathExpr.Regex.Test

/-!
# PathExpr/Proofs/Misuse — parsing asks for nothing in vain

Reading a text ends with a path or with a fault in the text, and never with a `Misuse`.  The tokens
hold numbers, and go on to do so however often their sign is turned; and as long as the text has
less than `2 ^ 62` bytes, numbers of 64 bits are enough for what is counted in them.
-/

namespace PathExpr

/-! ## Turning signs over and over -/

theorem readInteger?_iterate {text : List Char} {v : Int} (h : readInteger? text = some v)
    (hv : v ≠ minInteger) (n : Nat) :
    ∃ w, readInteger? (negateText^[n] text) = some w ∧ w ≠ minInteger := by
  induction n with
  | zero => exact ⟨v, h, hv⟩
  | succ n ih =>
    obtain ⟨w, hw, hne⟩ := ih
    have hrange := (Integer.mk (String.ofList (negateText^[n] text)) w (by simpa using hw)).inRange
    have hmin : minInteger = -maxInteger - 1 := rfl
    rw [Function.iterate_succ_apply']
    refine ⟨-w, readInteger?_negateText hw hne, ?_⟩
    dsimp only at hrange
    omega

/-- **Turning the sign of a decimal literal over and over changes neither its digits nor whether it
has a value.** -/
theorem Decimal.read?_iterate {text : List Char} {d : Decimal} (h : read? text = some d)
    (hv : d.binary64?.isSome = true) (hs : SingleSigned text) (n : Nat) :
    ∃ d', read? (negateText^[n] text) = some d' ∧ d'.binary64?.isSome = true ∧
      SingleSigned (negateText^[n] text) ∧ d'.digits = d.digits := by
  induction n with
  | zero => exact ⟨d, h, hv, hs, rfl⟩
  | succ n ih =>
    obtain ⟨d', hd', hv', hs', hdigits⟩ := ih
    obtain ⟨e, he, hw, hf, hx, -⟩ := read?_negateText hd'
    rw [Function.iterate_succ_apply']
    refine ⟨e, he, ?_, hs'.negateText, ?_⟩
    · exact isSome_binary64?_of_unsigned (digital_of_read? hd') hw.symm hf.symm hx.symm hv'
    · rw [← hdigits, digits, hw, hf, digits]

/-! ## The tokens of a text -/

/-- Every token of a text is read from a part of it. -/
theorem exists_lexeme {c : Cursor} {t : Token} (h : t ∈ (Stream.ofCursor c).tokens) :
    ∃ first rest, first :: rest <:+ c.rest ∧ t.kind = (lexeme first rest).kind := by
  induction c using Stream.ofCursor.induct
  case case1 c hnil =>
    rw [ofCursor_nil hnil] at h
    cases h
  case case2 c hne r ih =>
    subst r
    obtain ⟨first, rest, hr⟩ := List.exists_cons_of_ne_nil hne
    have hskip : first :: rest <:+ c.rest := by
      rw [← hr, Cursor.skipTrivia, Cursor.rest_advance]
      exact List.drop_suffix _ _
    rw [ofCursor_cons hr] at h
    rw [nextToken_cons hr] at ih
    rcases List.mem_cons.mp h with rfl | h
    · exact ⟨first, rest, hskip, rfl⟩
    · obtain ⟨f, r, hsuffix, hk⟩ := ih h
      refine ⟨f, r, hsuffix.trans ?_, hk⟩
      rw [readLexeme, Cursor.rest_advance, hr]
      exact (List.drop_suffix _ _).trans hskip

variable {text literal : String}

theorem intended_of_kind {l : Lexeme} {kind : TokenKind} (h : l.kind = kind)
    (hk : ∀ fault, kind ≠ .faulty fault) : l.intended = kind := by
  unfold Lexeme.kind at h
  split at h
  · exact h
  · exact absurd h.symm (hk _)

section

variable [Regex.Engine]

theorem exists_integer_of_mem {t : Token} (ht : t ∈ (tokenStream text).tokens)
    (hk : t.kind = .integer literal) (n : Nat) :
    ∃ i, Node.ofInteger (String.ofList (negateText^[n] literal.toList)) = .ok (.integer i) := by
  obtain ⟨first, rest, -, hl⟩ := exists_lexeme ht
  have hg := genuine_lexeme first rest
  rw [intended_of_kind (hl.symm.trans hk) nofun] at hg
  obtain ⟨i, rfl, hi⟩ := hg
  have hmin : minInteger = -0x8000000000000000 := rfl
  obtain ⟨w, hw, -⟩ := readInteger?_iterate i.reads (by omega) n
  exact ⟨⟨String.ofList (negateText^[n] i.literal.toList), w, by simpa using hw⟩,
    Node.ofInteger_eq_ok.mpr ⟨_, rfl, rfl⟩⟩

theorem exists_numeric_of_mem (h : text.utf8ByteSize < 2 ^ 62) {t : Token}
    (ht : t ∈ (tokenStream text).tokens) (hk : t.kind = .decimal literal) (n : Nat) :
    ∃ numeric d,
      Node.ofNumeric (String.ofList (negateText^[n] literal.toList)) = .ok (.numeric numeric) ∧
      Decimal.read? (negateText^[n] literal.toList) = some d ∧
      d.canonical64? = some numeric.canonical.toList := by
  obtain ⟨first, rest, hsuffix, hl⟩ := exists_lexeme ht
  have hi := intended_of_kind (hl.symm.trans hk) nofun
  have hlen : literal.toList.length ≤ text.utf8ByteSize := by
    have hle := Nat.le_trans hsuffix.length_le (length_le_utf8Len text.toList)
    rw [String.utf8Len_toList] at hle
    rw [toList_of_decimal hi, List.length_cons, List.length_take]
    rw [List.length_cons] at hle
    omega
  have hg := genuine_lexeme first rest
  rw [hi] at hg
  obtain ⟨m, rfl, hu⟩ := hg
  obtain ⟨d, hd, hv, -⟩ := Decimal.evaluate?_eq_some.mp m.reads
  obtain ⟨d', hd', hv', hs', hdigits⟩ :=
    Decimal.read?_iterate hd (by rw [hv]; rfl) hu.singleSigned n
  obtain ⟨value, hvalue⟩ := Option.isSome_iff_exists.mp hv'
  have hi' := Decimal.innerSign_of_singleSigned hd' hs'
  have hreads := Decimal.evaluate?_eq_some.mpr
    ⟨d', hd', hvalue, rfl, Decimal.isSome_formatted? hi'⟩
  have hdigitslen := Decimal.length_digits_le hd
  rw [← hdigits] at hdigitslen
  refine ⟨⟨String.ofList (negateText^[n] m.literal.toList), String.ofList d'.canonical, value,
    by simpa using hreads⟩, d', Node.ofNumeric_eq_ok.mpr ⟨_, rfl, rfl⟩, hd', ?_⟩
  rw [String.toList_ofList]
  exact Decimal.canonical64?_eq (Decimal.digital_of_read? hd') hi' hv' (by omega)

/-! ## Paths -/

theorem Path.parse_ne_misuse (text : String) (m : Misuse) :
    Path.parse text ≠ .error (.misuse m) := by
  intro h
  unfold Path.parse at h
  cases hs : tokens? text with
  | error fault => rw [hs] at h; cases h
  | ok s =>
    have hl : Lexes text.toList (s.tokens.map Token.kind) := tokens?_eq_ok.mp ⟨s, hs, rfl⟩
    have hwhole := Grammar.graceful_whole hl.genuine
    rw [hs] at h
    change Path.ofStream s = _ at h
    unfold Path.ofStream at h
    match hw : Grammar.whole (s.tokens.map Token.kind) with
    | .error (.fault fault left) => rw [hw] at h; cases h
    | .error (.misuse m) => exact hwhole.ne_misuse m hw
    | .ok (mode, root) =>
      rw [hw] at h
      change (Path.ofChain root mode root.isPredicate).mapError Failure.scope = _ at h
      cases hc : Path.ofChain root mode root.isPredicate with
      | ok p => rw [hc] at h; cases h
      | error fault => rw [hc] at h; cases h

end

/-- **Parsing asks for nothing in vain.** -/
theorem parse_meets_requests [Regex.Engine] (text : String)
    (h : text.utf8ByteSize < 2 ^ 62) :
    (∀ m, Path.parse text ≠ .error (.misuse m)) ∧
    -- Number tokens stand for numbers, however often their sign is turned,
    (∀ t ∈ (tokenStream text).tokens, ∀ literal, t.kind = .integer literal → ∀ n,
      ∃ i, Node.ofInteger (String.ofList (negateText^[n] literal.toList)) = .ok (.integer i)) ∧
    -- and their canonical texts are found with numbers of 64 bits.
    ∀ t ∈ (tokenStream text).tokens, ∀ literal, t.kind = .decimal literal → ∀ n, ∃ numeric d,
      Node.ofNumeric (String.ofList (negateText^[n] literal.toList)) = .ok (.numeric numeric) ∧
      Decimal.read? (negateText^[n] literal.toList) = some d ∧
      d.canonical64? = some numeric.canonical.toList :=
  ⟨Path.parse_ne_misuse text, fun _ ht _ hk n => exists_integer_of_mem ht hk n,
    fun _ ht _ hk n => exists_numeric_of_mem h ht hk n⟩

theorem decimalKind_oneAndHalf : decimalKind ['1', '.', '5'] true = .ok (.decimal "1.5") := by
  have h : (Numeric.ofText? (String.ofList ['1', '.', '5'])).isSome = true := by
    rw [Numeric.isSome_ofText?]
    decide +kernel
  rw [decimalKind, Bool.not_true, Bool.false_and, if_neg Bool.false_ne_true, if_pos h]

theorem exists_token_oneAndHalf : ∃ t ∈ (tokenStream "1.5").tokens, t.kind = .decimal "1.5" := by
  have hplain : Decimal.Plain ['1'] ['5'] :=
    ⟨by decide, List.forall_mem_singleton.mpr rfl, List.forall_mem_singleton.mpr rfl,
      .inr (by decide)⟩
  have hl : Lexes "1.5".toList [.decimal "1.5"] :=
    (spells_plain hplain decimalKind_oneAndHalf).lexes delimited_nil
  obtain ⟨-, hkinds⟩ := lexes_iff_ofCursor (c := Cursor.ofText "1.5".toList).mp hl
  obtain ⟨t, ht, hk⟩ := List.mem_map.mp (hkinds.symm ▸ List.mem_singleton_self _)
  exact ⟨t, ht, hk⟩

theorem parse_meets_requests_oneAndHalf :
    "1.5".utf8ByteSize < 2 ^ 62 ∧ (∀ m, Path.parse "1.5" ≠ .error (.misuse m)) ∧
      ∃ numeric d, Node.ofNumeric "-1.5" = .ok (.numeric numeric) ∧
        Decimal.read? "-1.5".toList = some d ∧
        d.canonical64? = some numeric.canonical.toList := by
  obtain ⟨t, ht, hk⟩ := exists_token_oneAndHalf
  have hsize : "1.5".utf8ByteSize < 2 ^ 62 := by decide
  have hmeets := parse_meets_requests "1.5" hsize
  exact ⟨hsize, hmeets.1, hmeets.2.2 t ht "1.5" hk 1⟩

end PathExpr
