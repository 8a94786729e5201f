import PathExpr.Proofs.Evidence
import PathExpr.Proofs.Syntax.Derivation

/-!
# PathExpr/Proofs/Syntax/Reads — when the readers of single tokens succeed

`Reads` and `Leaves` say that a reader succeeds, with which value and which rest.  A lemma named
`…_sound` takes a success apart into the tokens that were read and what is known of them; one named
`reads_…` or `leaves_…` says that a phrase is read, whatever follows it.
-/

namespace PathExpr.Grammar

variable {α β : Type} {ts rest : List TokenKind}

/-- The reader succeeds with the value and leaves the rest. -/
def Reads (x : Except Stop (Reading ts α)) (a : α) (rest : List TokenKind) : Prop :=
  ∃ h, x = .ok ⟨a, rest, h⟩

/-- The reader, which may take no token, succeeds with the value and leaves the rest. -/
def Leaves (x : Except Stop (Remainder ts α)) (a : α) (rest : List TokenKind) : Prop :=
  ∃ h, x = .ok ⟨a, rest, h⟩

/-! ## Steps and requests -/

/-- The steps of a success are successes. -/
theorem bind_eq_ok {ε : Type} {x : Except ε α} {f : α → Except ε β} {b : β} :
    x >>= f = .ok b ↔ ∃ a, x = .ok a ∧ f a = .ok b := by
  cases x <;> simp [bind, Except.bind]

@[simp] theorem ok_bind (a : α) (f : α → Except Stop β) : (Except.ok a >>= f) = f a := rfl

@[simp] theorem built_eq_ok {x : Except Misuse α} {a : α} : built x = .ok a ↔ x = .ok a := by
  cases x <;> simp [built]

@[simp] theorem accepted_eq_ok {left : Nat} {x : Except PatternFault α} {a : α} :
    accepted left x = .ok a ↔ x = .ok a := by
  cases x <;> simp [accepted]

@[simp] theorem unexpected_ne_ok {wanted : Wanted} {a : α} :
    (unexpected wanted ts : Except Stop α) ≠ .ok a := by
  simp [unexpected]

/-! ## Single tokens -/

theorem token_sound {kind : TokenKind} {r : Reading ts Unit} (h : token kind ts = .ok r) :
    ts = kind :: r.rest := by
  unfold token at h
  split at h
  · split at h
    next e =>
      obtain rfl := Except.ok.inj h
      rw [e, Reading.rest_one]
    · exact absurd h unexpected_ne_ok
  · exact absurd h unexpected_ne_ok

theorem token_cons (kind : TokenKind) : token kind (kind :: rest) = .ok (.one ()) := by
  simp [token]

theorem closing_sound {r : Reading ts Unit} (h : closing ts = .ok r) :
    ts = .closeParen :: r.rest := by
  unfold closing at h
  split at h
  · obtain rfl := Except.ok.inj h
    rfl
  · exact absurd h (by simp)
  · exact absurd h unexpected_ne_ok

theorem closing_cons : closing (.closeParen :: rest) = .ok (.one ()) := rfl

variable [Regex.Engine]

/-- **A head that is read is the head of a chain.** -/
theorem primary_sound {r : Reading ts Node} (h : primary ts = .ok r) :
    ∃ t, ts = t :: r.rest ∧ HeadToken t r.value := by
  unfold primary at h
  split at h
  case h_9 =>
    obtain ⟨node, hn, h⟩ := bind_eq_ok.mp h
    obtain ⟨i, rfl, rfl⟩ := Node.ofInteger_eq_ok.mp (built_eq_ok.mp hn)
    obtain rfl := Except.ok.inj h
    exact ⟨_, rfl, .integer i⟩
  case h_10 =>
    obtain ⟨node, hn, h⟩ := bind_eq_ok.mp h
    obtain ⟨n, rfl, rfl⟩ := Node.ofNumeric_eq_ok.mp (built_eq_ok.mp hn)
    obtain rfl := Except.ok.inj h
    exact ⟨_, rfl, .decimal n⟩
  case h_11 => exact absurd h unexpected_ne_ok
  all_goals
    obtain rfl := Except.ok.inj h
    exact ⟨_, rfl, by constructor⟩

theorem reads_primary {t : TokenKind} {node : Node} (h : HeadToken t node) :
    Reads (primary (t :: rest)) node rest := by
  cases h with
  | integer i =>
    rw [primary, built_eq_ok.mpr (Node.ofInteger_eq_ok.mpr ⟨i, rfl, rfl⟩)]
    exact ⟨_, rfl⟩
  | decimal n =>
    rw [primary, built_eq_ok.mpr (Node.ofNumeric_eq_ok.mpr ⟨n, rfl, rfl⟩)]
    exact ⟨_, rfl⟩
  | _ => exact ⟨_, rfl⟩

/-! ## Roles that are asked for -/

@[simp] theorem wantPredicate_eq_ok {c : Chain} {left : Nat} {u : Unit} :
    wantPredicate c left = .ok u ↔ c.isPredicate = true := by
  unfold wantPredicate
  split <;> simp_all

@[simp] theorem wantValue_eq_ok {c : Chain} {left : Nat} {u : Unit} :
    wantValue c left = .ok u ↔ c.isPredicate = false := by
  unfold wantValue
  split <;> simp_all

theorem wantPredicate_of_role {c : Chain} {left : Nat} (h : Role.of c = .predicate) :
    wantPredicate c left = .ok () :=
  wantPredicate_eq_ok.mpr (Role.of_eq_predicate.mp h)

theorem wantValue_of_role {c : Chain} {left : Nat} (h : Role.of c = .value) :
    wantValue c left = .ok () :=
  wantValue_eq_ok.mpr (Role.of_eq_value.mp h)

end PathExpr.Grammar
