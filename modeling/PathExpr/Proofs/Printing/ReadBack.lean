import PathExpr.Proofs.Printing.Pieces
import PathExpr.Proofs.Printing.Same

/-!
# PathExpr/Proofs/Printing/ReadBack — texts that are read as given chains

`ReadBack text level c` says that the text is an expression of the level whose tree is the same as
`c`, and `ReadOperand text c` that it is an operand.  For each operator there is a lemma that builds
its text from the texts of its operands; which operands need parentheses is not decided here.
-/

namespace PathExpr

variable [Regex.Engine]

/-- The text is read as an expression of the level, the same as the chain. -/
def ReadBack (text : List Char) (level : Nat) (c : Chain) : Prop :=
  ∃ ts d, Spells Delimited text ts ∧ Derives (.expression (Role.of c) level d) ts ∧
    Chain.same d c = true

/-- The text is read as an operand, the same as the chain. -/
def ReadOperand (text : List Char) (c : Chain) : Prop :=
  ∃ ts d, Spells Delimited text ts ∧ Derives (.operand (Role.of c) d) ts ∧ Chain.same d c = true

variable {text text' : List Char} {level level' : Nat} {c left right : Chain} {role : Role}

/-! ## Levels -/

theorem Derives.weaken {ts : List TokenKind} (h : Derives (.expression role level c) ts)
    (hl : level' ≤ level) : Derives (.expression role level' c) ts := by
  cases h with
  | alone h => exact .alone h
  | dyadic ht hp h h' => exact .dyadic ht (hl.trans hp) h h'
  | startsWith starts withWord ht hp h => exact .startsWith starts withWord ht (hl.trans hp) h
  | likeRegex spelling test hf hp h => exact .likeRegex spelling test hf (hl.trans hp) h

omit [Regex.Engine] in
theorem tier_lt_of_dyadic {operand whole : Role} {tier : Nat} {t : TokenKind}
    {operator : BinaryOperator} (h : Dyadic operand whole tier t operator) : tier < 5 := by
  cases h <;> decide

/-- Above the priorities of operators there are only operands. -/
theorem Derives.operand {ts : List TokenKind} (h : Derives (.expression role level c) ts)
    (hl : 5 ≤ level) : Derives (.operand role c) ts := by
  cases h with
  | alone h => exact h
  | dyadic ht hp =>
    have hlt := tier_lt_of_dyadic ht
    omega
  | startsWith _ _ _ hp => omega
  | likeRegex _ _ _ hp => omega

theorem ReadBack.mono (h : ReadBack text level c) (hl : level' ≤ level) :
    ReadBack text level' c := by
  obtain ⟨ts, d, ht, hd, hs⟩ := h
  exact ⟨ts, d, ht, hd.weaken hl, hs⟩

theorem ReadBack.operand (h : ReadBack text level c) (hl : 5 ≤ level) : ReadOperand text c := by
  obtain ⟨ts, d, ht, hd, hs⟩ := h
  exact ⟨ts, d, ht, hd.operand hl, hs⟩

theorem ReadOperand.readBack (h : ReadOperand text c) (level : Nat) : ReadBack text level c := by
  obtain ⟨ts, d, ht, hd, hs⟩ := h
  exact ⟨ts, d, ht, .alone hd, hs⟩

/-- **In parentheses any expression is an operand.** -/
theorem ReadBack.parentheses (h : ReadBack text level c) :
    ReadOperand ('(' :: text ++ [')']) c := by
  obtain ⟨ts, d, ht, hd, hs⟩ := h.mono (Nat.zero_le level)
  exact ⟨_, d, (spells_parentheses ht).anything, .group hd, hs⟩

/-! ## Same trees -/

theorem same_singleton {a b : Node} : Chain.same [a] [b] = true ↔ a.same b = true := by
  rw [same_cons]
  exact and_iff_left rfl

/-- What is the same as a number is one. -/
theorem isNumber_of_same {d : Chain} (h : c.same d = true) (hc : c.isNumber = true) :
    d.isNumber = true := by
  rcases number_cases hc with ⟨i, rfl⟩ | ⟨n, rfl⟩ <;>
  · cases d with
    | nil => cases h
    | cons b bs =>
      obtain ⟨hb, hbs⟩ := same_cons.mp h
      cases bs with
      | nil => cases b <;> first | rfl | cases hb
      | cons => cases hbs

/-! ## Operators between operands -/

omit [Regex.Engine] in
theorem toList_between (word : String) :
    (" " ++ word ++ " ").toList = ' ' :: (word.toList ++ [' ']) := by
  simp [String.toList_append]

/-- **An operator between operands that bind tightly enough is read back.** -/
theorem readBack_dyadic {operand whole : Role} {tier : Nat} {t : TokenKind}
    {operator : BinaryOperator} (ht : Dyadic operand whole tier t operator)
    (hl : ReadBack text tier left) (hr : ReadBack text' (tier + 1) right)
    (hlr : Role.of left = operand) (hrr : Role.of right = operand) :
    ReadBack (text ++ (" " ++ operator.text ++ " ").toList ++ text') tier
      [.binary operator left right] := by
  obtain ⟨ls, left', hls, hld, hlsame⟩ := hl
  obtain ⟨rs, right', hrs, hrd, hrsame⟩ := hr
  rw [hlr] at hld
  rw [hrr] at hrd
  have hwhole : Role.of [.binary operator left right] = whole := by cases ht <;> rfl
  refine ⟨ls ++ t :: rs, [.binary operator left' right'], ?_, ?_, ?_⟩
  · have hs := (hls.append (spells_operator ht) fun rest _ => by
      rw [toList_between]
      exact delimited_cons (by decide)).append hrs fun _ _ => trivial
    rwa [List.append_assoc ls] at hs
  · rw [hwhole]
    exact .dyadic ht (Nat.le_refl _) hld hrd
  · exact same_singleton.mpr (same_binary.mpr ⟨rfl, hlsame, hrsame⟩)

/-- **…and so is a prefix test**, -/
theorem readBack_startsWith {t : TokenKind} {initial : Node} (ht : InitialToken t initial)
    (hi : Spells Anything text' [t]) (hsame : initial.same initial = true)
    (hl : ReadBack text BinaryOperator.startsWith.priority left) (hlr : Role.of left = .value) :
    ReadBack (text ++ (" " ++ BinaryOperator.startsWith.text ++ " ").toList ++ text')
      BinaryOperator.startsWith.priority [.binary .startsWith left [initial]] := by
  obtain ⟨ls, left', hls, hld, hlsame⟩ := hl
  rw [hlr] at hld
  refine ⟨_, [.binary .startsWith left' [initial]], ?_,
    .startsWith Keyword.starts.word Keyword.withWord.word ht (Nat.le_refl _) hld, ?_⟩
  · have hwords := (spells_between .starts).append
      ((spells_keyword .withWord).append spells_blank fun _ _ => endsName_blank) fun _ _ => trivial
    have hs := (hls.append hwords fun _ _ => delimited_cons (by decide)).append hi
      fun _ _ => trivial
    rw [List.append_assoc ls] at hs
    exact hs.anything
  · exact same_singleton.mpr (same_binary.mpr ⟨rfl, hlsame, same_singleton.mpr hsame⟩)

/-- **…and a pattern test.** -/
theorem readBack_likeRegex {test : Regex.Test} (hp : NulFree test.pattern)
    (hl : ReadBack text BinaryOperator.startsWith.priority left) (hlr : Role.of left = .value) :
    ReadBack (text ++ " like_regex ".toList ++ quoted test.pattern ++ flagText test.flags)
      BinaryOperator.startsWith.priority [.likeRegex left test] := by
  obtain ⟨ls, left', hls, hld, hlsame⟩ := hl
  obtain ⟨fs, hfs, hf⟩ := exists_flagClause test.flags
  rw [hlr] at hld
  refine ⟨_, [.likeRegex left' test], ?_,
    .likeRegex Keyword.likeRegex.word test hf (Nat.le_refl _) hld, ?_⟩
  · have hword := hls.append (spells_between .likeRegex) fun _ _ => delimited_cons (by decide)
    have hs := (hword.append (spells_quoted hp) fun _ _ => trivial).append hfs fun _ _ => trivial
    rw [List.append_assoc (ls ++ _), List.append_assoc ls] at hs
    exact hs
  · exact same_singleton.mpr (same_likeRegex.mpr ⟨hlsame, rfl⟩)

/-! ## Operators before and around an operand -/

/-- A sign before what is no number stays a sign. -/
theorem folded_of_isNumber {t : TokenKind} {sign : UnaryOperator} (ht : SignToken t sign)
    (h : c.isNumber = false) : Folded sign c [.unary sign c] := by
  cases ht with
  | plus => exact .plus h
  | minus => exact .minus h

omit [Regex.Engine] in
theorem spells_sign {t : TokenKind} {sign : UnaryOperator} (ht : SignToken t sign) :
    Spells Anything sign.text.toList [t] := by
  cases ht with
  | plus => exact spells_symbol .plus
  | minus => exact spells_symbol .minus

/-- **A sign before an operand that is no number is read back.** -/
theorem readOperand_sign {t : TokenKind} {sign : UnaryOperator} (ht : SignToken t sign)
    (h : ReadOperand text c) (hc : Role.of c = .value) (hn : c.isNumber = false) :
    ReadOperand (sign.text.toList ++ text) [.unary sign c] := by
  obtain ⟨ts, d, hts, hd, hs⟩ := h
  rw [hc] at hd
  have hrole : Role.of [.unary sign c] = .value := by cases ht <;> rfl
  have hnumber : d.isNumber = false := by
    rw [Bool.eq_false_iff] at hn ⊢
    exact fun hd => hn (isNumber_of_same hs hd)
  refine ⟨t :: ts, [.unary sign d], ?_, ?_, same_singleton.mpr (same_unary.mpr ⟨rfl, hs⟩)⟩
  · exact (spells_sign ht).append hts fun _ _ => trivial
  · rw [hrole]
    exact .signed ht hd (folded_of_isNumber ht hnumber)

theorem readOperand_existence (h : ReadBack text 0 c) (hc : Role.of c = .value) :
    ReadOperand ("exists (".toList ++ text ++ [')']) [.unary .existence c] := by
  obtain ⟨ts, d, hts, hd, hs⟩ := h
  rw [hc] at hd
  refine ⟨_, [.unary .existence d], ?_, .existence Keyword.existsWord.word hd,
    same_singleton.mpr (same_unary.mpr ⟨rfl, hs⟩)⟩
  have hword := (spells_keyword .existsWord).append spells_blank fun _ _ => endsName_blank
  exact (hword.append (spells_parentheses hts) fun _ _ => trivial).anything

theorem readOperand_negation (h : ReadBack text 0 c) (hc : Role.of c = .predicate) :
    ReadOperand ("!(".toList ++ text ++ [')']) [.unary .negation c] := by
  obtain ⟨ts, d, hts, hd, hs⟩ := h
  rw [hc] at hd
  refine ⟨_, [.unary .negation d], ?_, .negation hd,
    same_singleton.mpr (same_unary.mpr ⟨rfl, hs⟩)⟩
  exact (spells_bang.append (spells_parentheses hts) fun _ _ => rfl).anything

theorem readOperand_isUnknown (h : ReadBack text 0 c) (hc : Role.of c = .predicate) :
    ReadOperand ('(' :: text ++ ") is unknown".toList) [.unary .isUnknown c] := by
  obtain ⟨ts, d, hts, hd, hs⟩ := h
  rw [hc] at hd
  refine ⟨_, [.unary .isUnknown d], ?_, .unknownTest Keyword.is.word Keyword.unknown.word hd,
    same_singleton.mpr (same_unary.mpr ⟨rfl, hs⟩)⟩
  have hwords := (spells_between .is).append (spells_keyword_delimited .unknown) fun _ _ => trivial
  have hs := (spells_parentheses hts).append hwords fun _ _ => trivial
  rw [List.append_assoc ('(' :: text), List.append_assoc (.openParen :: ts)] at hs
  exact hs

end PathExpr
