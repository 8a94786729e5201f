import PathExpr.Proofs.Syntax.Completeness

/-!
# PathExpr/Proofs/Syntax/Exact — reading is derivability

Soundness and completeness together: the reader of whole paths succeeds on exactly the tokens that
`IsPath` allows, and answers with the tree of the derivation, of which there is only one.
-/

namespace PathExpr

namespace Grammar

/-- Without a word for the mode the mode is lax. -/
theorem mode_of_starts {t : TokenKind} {ts : List TokenKind} (h : Starts t) :
    mode (t :: ts) = (.lax, t :: ts) := by
  rw [mode]
  · exact fun spelling _ e => (h.2 spelling).1 (List.cons.inj e).1
  · exact fun spelling _ e => (h.2 spelling).2 (List.cons.inj e).1

variable [Regex.Engine]

/-- **All tokens are read as an expression exactly if they derive it.** -/
theorem complete_eq_ok {ts : List TokenKind} {root : Chain} :
    complete ts = .ok root ↔ ∃ role, Derives (.expression role 0 root) ts := by
  constructor
  · intro h
    obtain ⟨⟨c, rest, hlt⟩, he, h⟩ := bind_eq_ok.mp h
    obtain ⟨pre, e, hpre, -⟩ := (sound ts).expression (Nat.zero_le _) he
    simp only at e h
    split at h
    · obtain rfl := Except.ok.inj h
      obtain rfl : ts = pre := by simpa using e
      exact ⟨_, hpre⟩
    · exact absurd h unexpected_ne_ok
  · rintro ⟨role, h⟩
    have hr := reads_expression (complete_of_derives h) (Nat.le_refl 0) follows_nil
      (stops_of_nextOperation rfl)
    rw [List.append_nil] at hr
    obtain ⟨hlt, e⟩ := hr
    rw [complete, e]
    rfl

theorem mode_of_derives {role : Role} {level : Nat} {root : Chain} {ts : List TokenKind}
    (h : Derives (.expression role level root) ts) : mode ts = (.lax, ts) := by
  obtain ⟨t, us, rfl, ht⟩ := starting_of_derives h
  exact mode_of_starts ht

theorem whole_eq_ok {ts : List TokenKind} {m : Mode} {root : Chain} :
    whole ts = .ok (m, root) ↔ (mode ts).1 = m ∧ complete (mode ts).2 = .ok root := by
  unfold whole
  cases complete (mode ts).2 with
  | error stop => simp [Except.map]
  | ok c => simp [Except.map]

/-- **The tokens are read as a path exactly if they form it.** -/
theorem whole_eq_ok_iff_isPath {ts : List TokenKind} {m : Mode} {root : Chain} :
    whole ts = .ok (m, root) ↔ IsPath m root ts := by
  rw [whole_eq_ok, complete_eq_ok]
  constructor
  · rintro ⟨rfl, role, h⟩
    rw [mode.eq_def] at h ⊢
    split at h
    · exact .strict _ h
    · exact .lax _ h
    · exact .bare h
  · rintro (h | ⟨spelling, h⟩ | ⟨spelling, h⟩)
    · rw [mode_of_derives h]
      exact ⟨rfl, _, h⟩
    · exact ⟨rfl, _, h⟩
    · exact ⟨rfl, _, h⟩

/-- Tokens form one path at most. -/
theorem isPath_unique {ts : List TokenKind} {m n : Mode} {root tree : Chain}
    (h : IsPath m root ts) (h' : IsPath n tree ts) : m = n ∧ root = tree := by
  have e := (whole_eq_ok_iff_isPath.mpr h).symm.trans (whole_eq_ok_iff_isPath.mpr h')
  exact Prod.mk.inj (Except.ok.inj e)

end Grammar

end PathExpr
