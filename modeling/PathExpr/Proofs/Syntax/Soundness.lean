import PathExpr.Proofs.Syntax.Members

/-!
# PathExpr/Proofs/Syntax/Soundness — what is read is derivable

Every reader of `Grammar/Expression` reads a phrase: the tokens that it takes derive the tree that
it answers with (`sound`, by the recursion of the readers).

The readers check only afterwards what their operands are.  `SoundOperators` carries the invariant
that makes up for it: the expression read so far has a level that no following operator *on operands
of its role* exceeds.  A following operator on operands of the other role may bind more tightly, but
then the check of its left operand fails.
-/

namespace PathExpr.Grammar

variable {ts pre : List TokenKind}

/-! ## Operators and their tokens -/

/-- The role of the operands that an operator wants. -/
def Operation.operandRole : Operation → Role
  | .predicates _ => .predicate
  | _ => .value

/-- The operator at the front of the tokens. -/
def nextOperation (ts : List TokenKind) : Option Operation := ts.head?.bind Operation.ofToken?

@[simp] theorem nextOperation_nil : nextOperation [] = none := rfl

@[simp] theorem nextOperation_cons (t : TokenKind) :
    nextOperation (t :: ts) = Operation.ofToken? t := rfl

theorem exists_of_nextOperation {operation : Operation} (h : nextOperation ts = some operation) :
    ∃ t, Operation.ofToken? t = some operation := by
  obtain ⟨t, -, ht⟩ := Option.bind_eq_some_iff.mp h
  exact ⟨t, ht⟩

/-- No operator of priority `bound` at least follows. -/
def Stops (bound : Nat) (ts : List TokenKind) : Prop :=
  ∀ operation, nextOperation ts = some operation → operation.priority < bound

theorem dyadic_of_predicates {t : TokenKind} {operator : BinaryOperator}
    (h : Operation.ofToken? t = some (.predicates operator)) :
    Dyadic .predicate .predicate operator.priority t operator := by
  unfold Operation.ofToken? at h
  split at h <;> cases h <;> constructor

theorem dyadic_of_values {t : TokenKind} {operator : BinaryOperator}
    (h : Operation.ofToken? t = some (.values operator)) :
    ∃ whole, Dyadic .value whole operator.priority t operator := by
  unfold Operation.ofToken? at h
  split at h <;> cases h <;> exact ⟨_, by constructor⟩

theorem eq_keyword_of_startsWith {t : TokenKind} (h : Operation.ofToken? t = some .startsWith) :
    ∃ spelling, t = .keyword .starts spelling := by
  unfold Operation.ofToken? at h
  split at h <;> cases h
  exact ⟨_, rfl⟩

theorem eq_keyword_of_likeRegex {t : TokenKind} (h : Operation.ofToken? t = some .likeRegex) :
    ∃ spelling, t = .keyword .likeRegex spelling := by
  unfold Operation.ofToken? at h
  split at h <;> cases h
  exact ⟨_, rfl⟩

/-- Operators between two operands bind less tightly than signs. -/
theorem priority_lt_sign {t : TokenKind} {operation : Operation}
    (ht : Operation.ofToken? t = some operation) :
    operation.priority < UnaryOperator.plus.priority := by
  unfold Operation.ofToken? at ht
  split at ht <;> cases ht <;> decide

/-- Operators between predicates bind less tightly than those that make predicates of values. -/
theorem priority_le_startsWith {operation : Operation} (h : nextOperation ts = some operation)
    (hr : operation.operandRole = .predicate) :
    operation.priority ≤ BinaryOperator.startsWith.priority := by
  obtain ⟨t, ht⟩ := exists_of_nextOperation h
  unfold Operation.ofToken? at ht
  split at ht <;> cases ht <;> first | decide | cases hr

variable [Regex.Engine]

/-- The role of the whole is read off the operator. -/
theorem role_of_dyadic {operand whole : Role} {tier : Nat} {t : TokenKind}
    {operator : BinaryOperator} (h : Dyadic operand whole tier t operator) (left right : Chain) :
    Role.of [.binary operator left right] = whole := by
  cases h <;> rfl

/-- An expression of some level is one of every lower level. -/
theorem derives_lower {role : Role} {level bound : Nat} {c : Chain}
    (h : Derives (.expression role level c) ts) (hb : bound ≤ level) :
    Derives (.expression role bound c) ts := by
  cases h with
  | alone h => exact .alone h
  | dyadic ht hp hl hr => exact .dyadic ht (Nat.le_trans hb hp) hl hr
  | startsWith s w ht hp hl => exact .startsWith s w ht (Nat.le_trans hb hp) hl
  | likeRegex s test hf hp hl => exact .likeRegex s test hf (Nat.le_trans hb hp) hl

/-- An operand has the role of its tree. -/
theorem derives_role {role : Role} {c : Chain} (h : Derives (.operand role c) ts) :
    Derives (.operand (Role.of c) c) ts := by
  obtain ⟨-, hr⟩ := h.typed
  rwa [hr]

/-! ## Readers that call no expression -/

theorem startsWith_sound {start : Nat} {left : Chain} {r : Reading ts Chain} {spelling : String}
    (hl : Derives (.expression .value Operation.startsWith.priority left) pre)
    (h : startsWith start left ts = .ok r) :
    ∃ mid, ts = mid ++ r.rest ∧ Derives
      (.expression .predicate Operation.startsWith.priority r.value)
      (pre ++ .keyword .starts spelling :: mid) := by
  unfold startsWith at h
  split at h
  case h_1 | h_2 =>
    obtain ⟨_, -, h⟩ := bind_eq_ok.mp h
    obtain rfl := Except.ok.inj h
    exact ⟨[_, _], rfl, .startsWith _ _ (by constructor) (Nat.le_refl _) hl⟩
  case h_3 =>
    obtain ⟨_, -, h⟩ := bind_eq_ok.mp h
    exact absurd h unexpected_ne_ok
  case h_4 => exact absurd h unexpected_ne_ok

omit [Regex.Engine] in
theorem flags_sound {r : Remainder ts Regex.Flags} (h : flags ts = .ok r) :
    ∃ pre, ts = pre ++ r.rest ∧ FlagClause pre r.value := by
  unfold flags at h
  split at h
  · obtain ⟨fs, hf, h⟩ := bind_eq_ok.mp h
    obtain rfl := Except.ok.inj h
    exact ⟨[_, _], rfl, .present _ (accepted_eq_ok.mp hf)⟩
  · exact absurd h unexpected_ne_ok
  · obtain rfl := Except.ok.inj h
    exact ⟨[], rfl, .absent⟩

theorem likeRegex_sound {start : Nat} {left : Chain} {r : Reading ts Chain} {spelling : String}
    (hl : Derives (.expression .value Operation.likeRegex.priority left) pre)
    (h : likeRegex start left ts = .ok r) :
    ∃ mid, ts = mid ++ r.rest ∧ Derives
      (.expression .predicate Operation.likeRegex.priority r.value)
      (pre ++ .keyword .likeRegex spelling :: mid) := by
  unfold likeRegex at h
  split at h
  next pattern rest =>
    obtain ⟨_, -, h⟩ := bind_eq_ok.mp h
    obtain ⟨⟨fs, us, hus⟩, hf, h⟩ := bind_eq_ok.mp h
    obtain ⟨mid, e, hmid⟩ := flags_sound hf
    obtain ⟨test, ht, hr⟩ := bind_eq_ok.mp h
    obtain ⟨rfl, rfl⟩ := Regex.Test.ofFlags_eq_ok.mp (accepted_eq_ok.mp ht)
    obtain rfl := Except.ok.inj hr
    exact ⟨.string test.pattern :: mid, by simp [e], .likeRegex _ test hmid (Nat.le_refl _) hl⟩
  · obtain ⟨_, -, h⟩ := bind_eq_ok.mp h
    exact absurd h unexpected_ne_ok

theorem unknownTest_sound {start : Nat} {inner : Chain} {r : Reading ts Chain}
    (h : unknownTest start inner ts = .ok r) :
    ∃ spelling, ts = .keyword .unknown spelling :: r.rest ∧ inner.isPredicate = true ∧
      r.value = [.unary .isUnknown inner] := by
  unfold unknownTest at h
  split at h
  next hp =>
    split at h
    · obtain rfl := Except.ok.inj h
      exact ⟨_, rfl, hp, rfl⟩
    · exact absurd h unexpected_ne_ok
  · exact absurd h (by simp)

/-- An operator that was applied had a left operand of the role that it wants. -/
theorem role_of_application {operation : Operation} {start : Nat} {left : Chain}
    {r : Reading ts Chain} (h : application operation start left ts = .ok r) :
    Role.of left = operation.operandRole := by
  cases operation with
  | predicates operator =>
    rw [application] at h
    obtain ⟨_, hw, -⟩ := bind_eq_ok.mp h
    exact Role.of_eq_predicate.mpr (wantPredicate_eq_ok.mp hw)
  | values operator =>
    rw [application] at h
    obtain ⟨_, hw, -⟩ := bind_eq_ok.mp h
    exact Role.of_eq_value.mpr (wantValue_eq_ok.mp hw)
  | startsWith =>
    rw [application, startsWith.eq_def] at h
    split at h
    case h_4 => exact absurd h unexpected_ne_ok
    all_goals
      obtain ⟨_, hw, -⟩ := bind_eq_ok.mp h
      exact Role.of_eq_value.mpr (wantValue_eq_ok.mp hw)
  | likeRegex =>
    rw [application, likeRegex.eq_def] at h
    split at h <;>
    · obtain ⟨_, hw, -⟩ := bind_eq_ok.mp h
      exact Role.of_eq_value.mpr (wantValue_eq_ok.mp hw)

/-! ## What the readers of expressions read

One statement for each reader, at one list of tokens.  `Sound ts` has them all. -/

/-- An expression is read, and no operator that it could go on with follows. -/
def SoundExpression (ts : List TokenKind) : Prop :=
  ∀ ⦃bound : Nat⦄ ⦃r : Reading ts Chain⦄, bound ≤ UnaryOperator.plus.priority →
    expression bound ts = .ok r →
    ∃ pre, ts = pre ++ r.rest ∧ Derives (.expression (Role.of r.value) bound r.value) pre ∧
      Stops bound r.rest

/-- What follows an expression is read so that the whole is one. -/
def SoundOperators (ts : List TokenKind) : Prop :=
  ∀ ⦃bound start level : Nat⦄ ⦃left : Chain⦄ ⦃pre : List TokenKind⦄ ⦃r : Remainder ts Chain⦄,
    Derives (.expression (Role.of left) level left) pre →
    (∀ o, nextOperation ts = some o → o.operandRole = Role.of left → o.priority ≤ level) →
    bound ≤ level → operators bound start left ts = .ok r →
    ∃ mid, ts = mid ++ r.rest ∧
      Derives (.expression (Role.of r.value) bound r.value) (pre ++ mid) ∧ Stops bound r.rest

/-- An operator with its operands is read. -/
def SoundApplication (ts : List TokenKind) : Prop :=
  ∀ ⦃operation : Operation⦄ ⦃start : Nat⦄ ⦃left : Chain⦄ ⦃t : TokenKind⦄ ⦃pre : List TokenKind⦄
    ⦃r : Reading ts Chain⦄, Operation.ofToken? t = some operation →
    Derives (.expression (Role.of left) operation.priority left) pre →
    application operation start left ts = .ok r →
    ∃ mid, ts = mid ++ r.rest ∧
      Derives (.expression (Role.of r.value) operation.priority r.value) (pre ++ t :: mid) ∧
      ∀ o, nextOperation r.rest = some o → o.operandRole = Role.of r.value →
        o.priority ≤ operation.priority

def SoundOperand (ts : List TokenKind) : Prop :=
  ∀ ⦃r : Reading ts Chain⦄, operand ts = .ok r →
    ∃ pre, ts = pre ++ r.rest ∧ Derives (.operand (Role.of r.value) r.value) pre

def SoundSigned (ts : List TokenKind) : Prop :=
  ∀ ⦃sign : UnaryOperator⦄ ⦃r : Reading ts Chain⦄, signed sign ts = .ok r →
    ∃ pre c, ts = pre ++ r.rest ∧ Derives (.operand .value c) pre ∧ Folded sign c r.value

def SoundGroup (ts : List TokenKind) : Prop :=
  ∀ ⦃r : Reading ts Chain⦄, group ts = .ok r →
    ∃ pre, ts = pre ++ r.rest ∧ Derives (.operand (Role.of r.value) r.value) (.openParen :: pre)

def SoundPredicate (ts : List TokenKind) : Prop :=
  ∀ ⦃r : Reading ts Chain⦄, predicate ts = .ok r →
    ∃ pre, ts = pre ++ .closeParen :: r.rest ∧ Derives (.expression .predicate 0 r.value) pre

def SoundExistence (ts : List TokenKind) : Prop :=
  ∀ ⦃r : Reading ts Chain⦄, existence ts = .ok r →
    ∃ pre c, ts = .openParen :: pre ++ .closeParen :: r.rest ∧
      Derives (.expression .value 0 c) pre ∧ r.value = [.unary .existence c]

def SoundAccessors (ts : List TokenKind) : Prop :=
  ∀ ⦃r : Remainder ts (List Node)⦄, accessors ts = .ok r →
    ∃ pre, ts = pre ++ r.rest ∧ Derives (.accessors r.value) pre

def SoundSubscript (ts : List TokenKind) : Prop :=
  ∀ ⦃r : Reading ts Chain⦄, subscript ts = .ok r →
    ∃ pre, ts = pre ++ r.rest ∧ Derives (.subscript r.value) pre

def SoundSubscripts (ts : List TokenKind) : Prop :=
  ∀ ⦃opened : Nat⦄ ⦃r : Reading ts (List Chain)⦄, subscripts opened ts = .ok r →
    ∃ pre, ts = pre ++ .closeBracket :: r.rest ∧ Derives (.subscripts r.value) pre

/-- All readers read phrases at the front of `ts`. -/
structure Sound (ts : List TokenKind) : Prop where
  expression : SoundExpression ts
  operators : SoundOperators ts
  application : SoundApplication ts
  operand : SoundOperand ts
  signed : SoundSigned ts
  group : SoundGroup ts
  predicate : SoundPredicate ts
  existence : SoundExistence ts
  accessors : SoundAccessors ts
  subscript : SoundSubscript ts
  subscripts : SoundSubscripts ts

/-! ## One step of each reader

Every reader is sound on a list if all readers are on shorter ones, and, where it calls another on
the same list, if that other is sound there. -/

section Step

variable (ih : ∀ us : List TokenKind, us.length < ts.length → Sound us)
include ih

theorem soundExpression (ho : SoundOperand ts) : SoundExpression ts := by
  intro bound r hb h
  rw [expression] at h
  obtain ⟨⟨left, us, hus⟩, hl, h⟩ := bind_eq_ok.mp h
  obtain ⟨pre, e, hpre⟩ := ho hl
  obtain ⟨s, hs, h⟩ := bind_eq_ok.mp h
  obtain rfl := Except.ok.inj h
  have hnext : ∀ o, nextOperation us = some o → o.priority ≤ UnaryOperator.plus.priority := by
    intro o ho
    obtain ⟨t, ht⟩ := exists_of_nextOperation ho
    exact Nat.le_of_lt (priority_lt_sign ht)
  obtain ⟨mid, e', hmid, hstop⟩ := (ih us hus).operators (.alone hpre) (fun o ho _ => hnext o ho)
    hb hs
  exact ⟨pre ++ mid, by simpa [e'] using e, hmid, hstop⟩

theorem soundOperators : SoundOperators ts := by
  intro bound start level left pre r hl hm hb h
  rw [operators.eq_def] at h
  split at h
  · obtain rfl := Except.ok.inj h
    exact ⟨[], rfl, by simpa using derives_lower hl hb, fun o ho => by simp at ho⟩
  next t us =>
  split at h
  next ho =>
    obtain rfl := Except.ok.inj h
    exact ⟨[], rfl, by simpa using derives_lower hl hb, fun o ho' => by simp_all⟩
  next operation ho =>
  split at h
  next hlt =>
    obtain rfl := Except.ok.inj h
    refine ⟨[], rfl, by simpa using derives_lower hl hb, fun o ho' => ?_⟩
    obtain rfl : operation = o := by simpa [ho] using ho'
    exact hlt
  next hlt =>
    obtain ⟨⟨whole, vs, hvs⟩, ha, h⟩ := bind_eq_ok.mp h
    have hrole := role_of_application ha
    obtain ⟨mid, e, hmid, hnext⟩ := (ih us (Nat.lt_succ_self _)).application ho
      (derives_lower hl (hm operation ho hrole.symm)) ha
    obtain ⟨s, hs, h⟩ := bind_eq_ok.mp h
    obtain ⟨mid', e', hmid', hstop⟩ :=
      (ih vs (Nat.lt_succ_of_lt hvs)).operators hmid hnext (Nat.le_of_not_lt hlt) hs
    obtain rfl := Except.ok.inj h
    exact ⟨t :: mid ++ mid', by simpa [e'] using e, by simpa using hmid', hstop⟩

omit ih in
theorem soundApplication (he : SoundExpression ts) : SoundApplication ts := by
  intro operation start left t pre r ho hl h
  have hrole := role_of_application h
  rw [hrole] at hl
  cases operation with
  | predicates operator =>
    rw [application] at h
    obtain ⟨_, -, h⟩ := bind_eq_ok.mp h
    obtain ⟨⟨right, us, hus⟩, hr, h⟩ := bind_eq_ok.mp h
    obtain ⟨mid, e, hmid, hstop⟩ := he (priority_lt_sign ho) hr
    obtain ⟨_, hw, h⟩ := bind_eq_ok.mp h
    obtain rfl := Except.ok.inj h
    rw [Role.of_eq_predicate.mpr (wantPredicate_eq_ok.mp hw)] at hmid
    have ht := dyadic_of_predicates ho
    refine ⟨mid, e, ?_, fun o ho _ => Nat.le_of_lt_succ (hstop o ho)⟩
    rw [role_of_dyadic ht]
    exact .dyadic ht (Nat.le_refl _) hl hmid
  | values operator =>
    rw [application] at h
    obtain ⟨_, -, h⟩ := bind_eq_ok.mp h
    obtain ⟨⟨right, us, hus⟩, hr, h⟩ := bind_eq_ok.mp h
    obtain ⟨mid, e, hmid, hstop⟩ := he (priority_lt_sign ho) hr
    obtain ⟨_, hw, h⟩ := bind_eq_ok.mp h
    obtain rfl := Except.ok.inj h
    rw [Role.of_eq_value.mpr (wantValue_eq_ok.mp hw)] at hmid
    obtain ⟨whole, ht⟩ := dyadic_of_values ho
    refine ⟨mid, e, ?_, fun o ho _ => Nat.le_of_lt_succ (hstop o ho)⟩
    rw [role_of_dyadic ht]
    exact .dyadic ht (Nat.le_refl _) hl hmid
  | startsWith =>
    obtain ⟨spelling, rfl⟩ := eq_keyword_of_startsWith ho
    obtain ⟨mid, e, hmid⟩ := startsWith_sound hl (by rwa [application] at h)
    rw [hmid.typed.2]
    exact ⟨mid, e, hmid, fun o ho hr => priority_le_startsWith ho hr⟩
  | likeRegex =>
    obtain ⟨spelling, rfl⟩ := eq_keyword_of_likeRegex ho
    obtain ⟨mid, e, hmid⟩ := likeRegex_sound hl (by rwa [application] at h)
    rw [hmid.typed.2]
    exact ⟨mid, e, hmid, fun o ho hr => priority_le_startsWith ho hr⟩

omit ih in
theorem soundSigned (ho : SoundOperand ts) : SoundSigned ts := by
  intro sign r h
  rw [signed] at h
  obtain ⟨⟨c, us, hus⟩, hc, h⟩ := bind_eq_ok.mp h
  obtain ⟨pre, e, hpre⟩ := ho hc
  obtain ⟨_, hw, h⟩ := bind_eq_ok.mp h
  obtain ⟨whole, hf, h⟩ := bind_eq_ok.mp h
  obtain rfl := Except.ok.inj h
  rw [Role.of_eq_value.mpr (wantValue_eq_ok.mp hw)] at hpre
  exact ⟨pre, c, e, hpre, fold_eq_ok.mp (built_eq_ok.mp hf)⟩

omit ih in
theorem soundPredicate (he : SoundExpression ts) : SoundPredicate ts := by
  intro r h
  rw [predicate] at h
  obtain ⟨⟨c, us, hus⟩, hc, h⟩ := bind_eq_ok.mp h
  obtain ⟨pre, e, hpre, -⟩ := he (Nat.zero_le _) hc
  obtain ⟨_, hw, h⟩ := bind_eq_ok.mp h
  obtain ⟨⟨_, vs, hvs⟩, hcl, h⟩ := bind_eq_ok.mp h
  have e' := closing_sound hcl
  obtain rfl := Except.ok.inj h
  rw [Role.of_eq_predicate.mpr (wantPredicate_eq_ok.mp hw)] at hpre
  exact ⟨pre, by simpa [e'] using e, hpre⟩

theorem soundExistence : SoundExistence ts := by
  intro r h
  rw [existence] at h
  obtain ⟨⟨_, us, hus⟩, ho, h⟩ := bind_eq_ok.mp h
  have e := token_sound ho
  obtain ⟨⟨c, vs, hvs⟩, hc, h⟩ := bind_eq_ok.mp h
  obtain ⟨pre, e', hpre, -⟩ := (ih us hus).expression (Nat.zero_le _) hc
  obtain ⟨_, hw, h⟩ := bind_eq_ok.mp h
  obtain ⟨⟨_, ws, hws⟩, hcl, h⟩ := bind_eq_ok.mp h
  have e'' := closing_sound hcl
  obtain rfl := Except.ok.inj h
  rw [Role.of_eq_value.mpr (wantValue_eq_ok.mp hw)] at hpre
  simp only at e' e''
  exact ⟨pre, c, by simpa [e', e''] using e, hpre, rfl⟩

theorem soundGroup (he : SoundExpression ts) : SoundGroup ts := by
  intro r h
  rw [group] at h
  obtain ⟨⟨c, us, hus⟩, hc, h⟩ := bind_eq_ok.mp h
  obtain ⟨pre, e, hpre, -⟩ := he (Nat.zero_le _) hc
  obtain ⟨⟨_, vs, hvs⟩, hcl, h⟩ := bind_eq_ok.mp h
  have e' := closing_sound hcl
  simp only at e e' h
  split at h
  next is ws hws =>
    obtain ⟨w, hw, h⟩ := bind_eq_ok.mp h
    obtain ⟨unknown, e'', hp, hv⟩ := unknownTest_sound hw
    obtain rfl := Except.ok.inj h
    rw [Role.of_eq_predicate.mpr hp] at hpre
    refine ⟨pre ++ [.closeParen, .keyword .is is, .keyword .unknown unknown],
      by simp [e, e', e''], ?_⟩
    simpa [hv] using derives_role (.unknownTest is unknown hpre)
  next =>
    obtain ⟨⟨nodes, ws, hws⟩, ha, h⟩ := bind_eq_ok.mp h
    obtain ⟨mid, e'', hmid⟩ := (ih vs (Nat.lt_trans hvs hus)).accessors ha
    simp only [linked_eq] at h
    obtain rfl := Except.ok.inj h
    simp only at e''
    refine ⟨pre ++ .closeParen :: mid, by simp [e, e', e''], ?_⟩
    by_cases hn : nodes = []
    · subst hn
      cases hmid
      simpa using Derives.group hpre
    · exact derives_role (.groupChain hpre hmid hn)

theorem soundOperand : SoundOperand ts := by
  intro r h
  rw [operand.eq_def] at h
  split at h
  case h_1 rest =>
    obtain ⟨⟨c, us, hus⟩, hc, h⟩ := bind_eq_ok.mp h
    obtain rfl := Except.ok.inj h
    obtain ⟨pre, d, e, hpre, hf⟩ := (ih rest (Nat.lt_succ_self _)).signed hc
    exact ⟨.plus :: pre, by simp [e], derives_role (.signed .plus hpre hf)⟩
  case h_2 rest =>
    obtain ⟨⟨c, us, hus⟩, hc, h⟩ := bind_eq_ok.mp h
    obtain rfl := Except.ok.inj h
    obtain ⟨pre, d, e, hpre, hf⟩ := (ih rest (Nat.lt_succ_self _)).signed hc
    exact ⟨.minus :: pre, by simp [e], derives_role (.signed .minus hpre hf)⟩
  case h_3 rest =>
    obtain ⟨⟨c, us, hus⟩, hc, h⟩ := bind_eq_ok.mp h
    obtain rfl := Except.ok.inj h
    obtain ⟨pre, e, hpre⟩ := (ih rest (by simp only [List.length_cons]; omega)).predicate hc
    exact ⟨.bang :: .openParen :: pre ++ [.closeParen], by simp [e],
      derives_role (.negation hpre)⟩
  case h_4 spelling rest =>
    obtain ⟨⟨c, us, hus⟩, hc, h⟩ := bind_eq_ok.mp h
    obtain rfl := Except.ok.inj h
    obtain ⟨pre, d, e, hpre, rfl⟩ := (ih rest (by simp only [List.length_cons]; omega)).existence hc
    exact ⟨.bang :: .keyword .existsWord spelling :: .openParen :: pre ++ [.closeParen],
      by simp [e], derives_role (.noExistence spelling hpre)⟩
  case h_5 => exact absurd h unexpected_ne_ok
  case h_6 rest =>
    obtain ⟨⟨c, us, hus⟩, hc, h⟩ := bind_eq_ok.mp h
    obtain rfl := Except.ok.inj h
    obtain ⟨pre, e, hpre⟩ := (ih rest (Nat.lt_succ_self _)).group hc
    exact ⟨.openParen :: pre, by simp [e], hpre⟩
  case h_7 spelling rest =>
    obtain ⟨⟨c, us, hus⟩, hc, h⟩ := bind_eq_ok.mp h
    obtain rfl := Except.ok.inj h
    obtain ⟨pre, d, e, hpre, rfl⟩ := (ih rest (Nat.lt_succ_self _)).existence hc
    exact ⟨.keyword .existsWord spelling :: .openParen :: pre ++ [.closeParen], by simp [e],
      derives_role (.existence spelling hpre)⟩
  case h_8 =>
    obtain ⟨⟨head, us, hus⟩, hh, h⟩ := bind_eq_ok.mp h
    obtain ⟨t, e, ht⟩ := primary_sound hh
    obtain ⟨⟨nodes, vs, hvs⟩, ha, h⟩ := bind_eq_ok.mp h
    obtain ⟨pre, e', hpre⟩ := (ih us hus).accessors ha
    simp only [linked_eq] at h
    obtain rfl := Except.ok.inj h
    exact ⟨t :: pre, by simp [e, e'], derives_role (.chain ht hpre)⟩

theorem soundAccessors : SoundAccessors ts := by
  intro r h
  rw [accessors.eq_def] at h
  split at h
  case h_1 rest =>
    obtain ⟨⟨node, us, hus⟩, hm, h⟩ := bind_eq_ok.mp h
    obtain ⟨pre, e, hpre⟩ := member_sound hm
    obtain ⟨⟨nodes, vs, hvs⟩, ha, h⟩ := bind_eq_ok.mp h
    obtain ⟨mid, e', hmid⟩ := (ih us (Nat.lt_succ_of_lt hus)).accessors ha
    obtain rfl := Except.ok.inj h
    exact ⟨.dot :: pre ++ mid, by simp [e, e'], .member hpre hmid⟩
  case h_2 rest =>
    obtain ⟨⟨nodes, us, hus⟩, ha, h⟩ := bind_eq_ok.mp h
    obtain ⟨mid, e, hmid⟩ := (ih rest (by simp only [List.length_cons]; omega)).accessors ha
    obtain rfl := Except.ok.inj h
    exact ⟨.openBracket :: .star :: .closeBracket :: mid, by simp [e], .allElements hmid⟩
  case h_3 rest hne =>
    obtain ⟨⟨items, us, hus⟩, hi, h⟩ := bind_eq_ok.mp h
    obtain ⟨pre, e, hpre⟩ := (ih rest (Nat.lt_succ_self _)).subscripts hi
    obtain ⟨⟨nodes, vs, hvs⟩, ha, h⟩ := bind_eq_ok.mp h
    obtain ⟨mid, e', hmid⟩ := (ih us (Nat.lt_succ_of_lt hus)).accessors ha
    obtain rfl := Except.ok.inj h
    exact ⟨.openBracket :: pre ++ .closeBracket :: mid, by simp [e, e'], .elements hpre hmid⟩
  case h_4 rest =>
    obtain ⟨⟨_, us, hus⟩, ho, h⟩ := bind_eq_ok.mp h
    have e := token_sound ho
    obtain ⟨⟨c, vs, hvs⟩, hc, h⟩ := bind_eq_ok.mp h
    obtain ⟨pre, e', hpre⟩ := (ih us (Nat.lt_succ_of_lt hus)).predicate hc
    obtain ⟨⟨nodes, ws, hws⟩, ha, h⟩ := bind_eq_ok.mp h
    have hlt : vs.length < rest.length := Nat.lt_trans hvs hus
    obtain ⟨mid, e'', hmid⟩ := (ih vs (Nat.lt_succ_of_lt hlt)).accessors ha
    obtain rfl := Except.ok.inj h
    exact ⟨.question :: .openParen :: pre ++ .closeParen :: mid, by simp [e, e', e''],
      .filter hpre hmid⟩
  case h_5 =>
    obtain rfl := Except.ok.inj h
    exact ⟨[], rfl, .noAccessors⟩

theorem soundSubscript (he : SoundExpression ts) : SoundSubscript ts := by
  intro r h
  rw [subscript] at h
  obtain ⟨⟨first, us, hus⟩, hf, h⟩ := bind_eq_ok.mp h
  obtain ⟨pre, e, hpre, -⟩ := he (Nat.zero_le _) hf
  obtain ⟨_, hw, h⟩ := bind_eq_ok.mp h
  rw [Role.of_eq_value.mpr (wantValue_eq_ok.mp hw)] at hpre
  simp only at e h
  split at h
  next spelling vs hvs _ =>
    obtain ⟨⟨last, ws, hws⟩, hl, h⟩ := bind_eq_ok.mp h
    obtain ⟨mid, e', hmid, -⟩ :=
      (ih vs (Nat.lt_trans (Nat.lt_succ_self _) hvs)).expression (Nat.zero_le _) hl
    obtain ⟨_, hw', h⟩ := bind_eq_ok.mp h
    obtain rfl := Except.ok.inj h
    rw [Role.of_eq_value.mpr (wantValue_eq_ok.mp hw')] at hmid
    exact ⟨pre ++ .keyword .toWord spelling :: mid, by simp [e, e'], .range spelling hpre hmid⟩
  next =>
    obtain rfl := Except.ok.inj h
    exact ⟨pre, e, .index hpre⟩

theorem soundSubscripts (hs : SoundSubscript ts) : SoundSubscripts ts := by
  intro opened r h
  rw [subscripts] at h
  obtain ⟨⟨item, us, hus⟩, hi, h⟩ := bind_eq_ok.mp h
  obtain ⟨pre, e, hpre⟩ := hs hi
  simp only at e h
  split at h
  next vs hvs =>
    obtain ⟨⟨items, ws, hws⟩, hm, h⟩ := bind_eq_ok.mp h
    obtain ⟨mid, e', hmid⟩ := (ih vs (Nat.lt_trans (Nat.lt_succ_self _) hvs)).subscripts hm
    obtain rfl := Except.ok.inj h
    exact ⟨pre ++ .comma :: mid, by simp [e, e'], .moreItems hpre hmid⟩
  next vs hvs =>
    obtain rfl := Except.ok.inj h
    exact ⟨pre, e, .lastItem hpre⟩
  next => exact absurd h (by simp)
  next => exact absurd h unexpected_ne_ok

end Step

/-- **Every reader reads phrases of the grammar**, by induction on the number of tokens. -/
theorem sound (ts : List TokenKind) : Sound ts := by
  induction h : ts.length using Nat.strongRecOn generalizing ts with
  | ind n ih =>
    subst h
    have ih : ∀ us : List TokenKind, us.length < ts.length → Sound us :=
      fun us hus => ih us.length hus us rfl
    have hopd : SoundOperand ts := soundOperand ih
    have hexp := soundExpression ih hopd
    have hsub := soundSubscript ih hexp
    exact {
      expression := hexp
      operators := soundOperators ih
      application := soundApplication hexp
      operand := hopd
      signed := soundSigned hopd
      group := soundGroup ih hexp
      predicate := soundPredicate hexp
      existence := soundExistence ih
      accessors := soundAccessors ih
      subscript := hsub
      subscripts := soundSubscripts ih hsub }

end PathExpr.Grammar
