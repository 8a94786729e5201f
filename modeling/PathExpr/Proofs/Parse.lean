import PathExpr.Path
import PathExpr.Proofs.Lexical.Genuine
import PathExpr.Proofs.Number.Sign
import PathExpr.Proofs.Syntax.Exact

/-!
# PathExpr/Proofs/Parse — when a text is a path

The three steps of `Path.parse` put together: a text is a path exactly if its tokens form one
(`IsPath`) in whose tree every constant stands where it has a meaning.  What `IsPath` asks of number
tokens and of signs beyond their order is so for the tokens of any text.
-/

namespace PathExpr

theorem mapError_eq_ok {ε ε' α : Type} {f : ε → ε'} {x : Except ε α} {a : α} :
    x.mapError f = .ok a ↔ x = .ok a := by
  cases x <;> simp [Except.mapError]

variable [Regex.Engine]

/-! ## The tokens of texts -/

/-- A number token of a text stands for a number. -/
theorem exists_head_of_genuine {t : TokenKind} (h : t.Genuine) {literal : String}
    (ht : t = .integer literal ∨ t = .decimal literal) : ∃ node, HeadToken t node := by
  rcases ht with rfl | rfl
  · obtain ⟨i, rfl, -⟩ := h
    exact ⟨_, .integer i⟩
  · obtain ⟨n, rfl, -⟩ := h
    exact ⟨_, .decimal n⟩

/-- A sign may stand before anything. -/
theorem exists_folded {t : TokenKind} {sign : UnaryOperator} (ht : SignToken t sign) (c : Chain) :
    ∃ whole, Folded sign c whole := by
  cases ht with
  | plus => exact ⟨_, folded_affirm c⟩
  | minus =>
    cases hc : c.isNumber with
    | false => exact ⟨_, .minus hc⟩
    | true =>
      rcases number_cases hc with ⟨i, rfl⟩ | ⟨n, rfl⟩
      · cases hi : i.negated? with
        | some j => exact ⟨_, .minusInteger hi⟩
        | none => exact ⟨_, .outOfRange hi⟩
      · obtain ⟨m, hm, -⟩ := n.exists_negated?
        exact ⟨_, .minusNumeric hm⟩

/-- **The grammar is read, all of it and nothing else.**  Tokens are read as a path if and only if
they form it, and they form one path at most.  The tokens of a text are not refused for what they
carry: every number has a value, and every sign may stand before any value. -/
theorem whole_reads_grammar :
    (∀ ts mode root, Grammar.whole ts = .ok (mode, root) ↔ IsPath mode root ts) ∧
    (∀ ts mode mode' root root', IsPath mode root ts → IsPath mode' root' ts →
      mode = mode' ∧ root = root') ∧
    (∀ text s, tokens? text = .ok s → ∀ t ∈ s.tokens.map Token.kind, ∀ literal,
      t = .integer literal ∨ t = .decimal literal → ∃ node, HeadToken t node) ∧
    ∀ t sign value, SignToken t sign → ∃ whole, Folded sign value whole := by
  refine ⟨fun _ _ _ => Grammar.whole_eq_ok_iff_isPath, fun _ _ _ _ _ => Grammar.isPath_unique,
    fun text s hs t hm literal ht => ?_, fun _ _ value ht => exists_folded ht value⟩
  have hl : Lexes text.toList (s.tokens.map Token.kind) := tokens?_eq_ok.mp ⟨s, hs, rfl⟩
  exact exists_head_of_genuine (hl.genuine t hm) ht

/-! ## Texts -/

/-- A path is its root with its mode and its flag, and no path is refused but for its constants. -/
theorem Path.ofChain_eq_ok {root : Chain} {mode : Mode} {predicate : Bool} {p : Path} :
    Path.ofChain root mode predicate = .ok p ↔
      p.root = root ∧ p.mode = mode ∧ p.predicate = predicate := by
  unfold Path.ofChain
  constructor
  · intro h
    split at h
    · obtain rfl := Except.ok.inj h
      exact ⟨rfl, rfl, rfl⟩
    · cases h
  · rintro ⟨rfl, rfl, rfl⟩
    split
    · rfl
    next fault h => exact absurd (h.symm.trans p.inScope) (by simp)

/-- **A text is a path exactly if its tokens form it.** -/
theorem Path.parse_eq_ok {text : String} {p : Path} :
    Path.parse text = .ok p ↔ ∃ ts, Lexes text.toList ts ∧ IsPath p.mode p.root ts ∧
      p.predicate = p.root.isPredicate := by
  unfold Path.parse Path.ofStream
  constructor
  · intro h
    obtain ⟨s, hs, h⟩ := Grammar.bind_eq_ok.mp h
    obtain ⟨⟨mode, root⟩, hw, h⟩ := Grammar.bind_eq_ok.mp h
    obtain ⟨rfl, rfl, hp⟩ := Path.ofChain_eq_ok.mp (mapError_eq_ok.mp h)
    exact ⟨_, tokens?_eq_ok.mp ⟨s, mapError_eq_ok.mp hs, rfl⟩,
      Grammar.whole_eq_ok_iff_isPath.mp (mapError_eq_ok.mp hw), hp⟩
  · rintro ⟨ts, hl, hpath, hp⟩
    obtain ⟨s, hs, rfl⟩ := tokens?_eq_ok.mpr hl
    refine Grammar.bind_eq_ok.mpr ⟨s, mapError_eq_ok.mpr hs, ?_⟩
    refine Grammar.bind_eq_ok.mpr ⟨(p.mode, p.root), ?_, ?_⟩
    · exact mapError_eq_ok.mpr (Grammar.whole_eq_ok_iff_isPath.mpr hpath)
    · exact mapError_eq_ok.mpr (Path.ofChain_eq_ok.mpr ⟨rfl, rfl, hp⟩)

end PathExpr
