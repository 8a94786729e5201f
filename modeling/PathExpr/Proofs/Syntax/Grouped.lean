import PathExpr.Proofs.Syntax.Exact

/-!
# PathExpr/Proofs/Syntax/Grouped — parentheses round a chain

The reader of accessors puts them at the end of what stands before them, so a chain may be read up
to any of its accessors and then on from there (`appended_of_derives`).  Parentheses round its
beginning make the reader do just that: where accessors follow, an operand is read the same with
them and without (`operand_parentheses`).

The rest of a path depends only on what is read of its first operand (`derives_congr`), and so the
parentheses may be left out.
-/

namespace PathExpr.Grammar

variable [Regex.Engine] {α : Type} {c : Chain} {ts us rest : List TokenKind}

/-! ## Accessors go to the end -/

/-- The chain with the accessors at the front of the tokens, and the tokens that are left. -/
def chained (c : Chain) (ts : List TokenKind) : Except Stop (Chain × List TokenKind) :=
  (accessors ts).map fun r => (c ++ r.value, r.rest)

/-- The reader of accessors takes one from the front of the tokens, and goes on with `rest`. -/
def StepsOver (node : Node) (ts rest : List TokenKind) : Prop :=
  ∃ h : rest.length ≤ ts.length, accessors ts =
    (accessors rest).map fun r => ⟨node :: r.value, r.rest, Nat.le_trans r.noLonger h⟩

theorem stepsOver_member {node : Node} (h : Member ts node) (hr : EndsMember rest) :
    StepsOver node (.dot :: ts ++ rest) rest := by
  obtain ⟨hlt, e⟩ := reads_member h hr
  rw [List.cons_append]
  refine ⟨Nat.le_of_lt (Nat.lt_succ_of_lt hlt), ?_⟩
  rw [accessors, e, ok_bind]
  dsimp only
  cases accessors rest <;> rfl

theorem stepsOver_allElements :
    StepsOver (.constant .anyArray) (.openBracket :: .star :: .closeBracket :: rest) rest := by
  refine ⟨Nat.le_add_right _ 3, ?_⟩
  rw [accessors]
  cases accessors rest <;> rfl

theorem stepsOver_elements {items : List Chain} (h : Derives (.subscripts items) ts) :
    StepsOver (.subscripts items) (.openBracket :: ts ++ .closeBracket :: rest) rest := by
  obtain ⟨hlt, e⟩ := @complete_of_derives _ _ _ h ((ts ++ .closeBracket :: rest).length + 1) rest
  obtain ⟨t, vs, rfl, hstar, -⟩ := starting_of_derives h
  refine ⟨Nat.le_of_lt (Nat.lt_succ_of_lt hlt), ?_⟩
  simp only [List.cons_append] at e ⊢
  rw [accessors, e, ok_bind]
  · dsimp only
    cases accessors rest <;> rfl
  · exact fun _ heq => absurd (List.cons.inj heq).1 hstar

theorem stepsOver_filter {inner : Chain} (h : Derives (.expression .predicate 0 inner) ts) :
    StepsOver (.unary .filter inner) (.question :: .openParen :: ts ++ .closeParen :: rest)
      rest := by
  obtain ⟨hlt, e⟩ := reads_predicate rest h.typed.2 (complete_of_derives h)
  refine ⟨Nat.le_of_lt (Nat.lt_add_right 2 hlt), ?_⟩
  simp only [List.cons_append]
  rw [accessors, token_cons, ok_bind]
  dsimp only [Reading.one]
  rw [e, ok_bind]
  dsimp only
  cases accessors rest <;> rfl

/-- So the node goes to the end of the chain. -/
theorem chained_stepsOver {node : Node} (h : StepsOver node ts rest) :
    chained c ts = chained (c ++ [node]) rest := by
  obtain ⟨hle, e⟩ := h
  rw [chained, chained, e]
  cases accessors rest with
  | error => rfl
  | ok r => simp [Except.map]

/-- The tokens begin with an accessor. -/
def BeginsAccessor (ts : List TokenKind) : Prop := ∃ t, ts.head? = some t ∧ AccessorToken t

omit [Regex.Engine] in
theorem BeginsAccessor.continues (h : BeginsAccessor ts) : Continues ts := by
  obtain ⟨t, ht, ha⟩ := h
  intro u hu
  obtain rfl : t = u := Option.some.inj (ht.symm.trans hu)
  exact .inl ha

theorem BeginsAccessor.append {nodes : List Node} (hr : BeginsAccessor rest)
    (h : Derives (.accessors nodes) us) : BeginsAccessor (us ++ rest) := by
  cases us with
  | nil => exact hr
  | cons t us => exact ⟨t, rfl, head_accessors h t rfl⟩

/-- Accessors are read as part of the chain before them; other phrases do not matter. -/
def Appended : Phrase → List TokenKind → Prop
  | .accessors nodes, ts => ∀ (c : Chain) ⦃rest : List TokenKind⦄, BeginsAccessor rest →
      chained c (ts ++ rest) = chained (c ++ nodes) rest
  | _, _ => True

/-- The step: an accessor in front of others. -/
theorem appended_cons {node : Node} {nodes : List Node} (ih : Appended (.accessors nodes) us)
    (h : ∀ ⦃rest⦄, BeginsAccessor rest → StepsOver node (ts ++ rest) (us ++ rest)) :
    Appended (.accessors (node :: nodes)) ts := by
  intro c rest hr
  rw [chained_stepsOver (h hr), ih (c ++ [node]) hr, List.append_assoc]
  rfl

/-- **Accessors go to the end of the chain**, however many more follow. -/
theorem appended_of_derives {phrase : Phrase} (h : Derives phrase ts) : Appended phrase ts := by
  induction h with
  | noAccessors =>
    intro c rest _
    rw [List.nil_append, List.append_nil]
  | member h ha ih =>
    refine appended_cons ih fun rest hr => ?_
    rw [List.append_assoc]
    exact stepsOver_member h (hr.append ha).continues.endsMember
  | allElements _ ih => exact appended_cons ih fun rest _ => stepsOver_allElements
  | elements h _ _ ih =>
    refine appended_cons ih fun rest _ => ?_
    rw [List.append_assoc]
    exact stepsOver_elements h
  | filter h _ _ ih =>
    refine appended_cons ih fun rest _ => ?_
    rw [List.append_assoc]
    exact stepsOver_filter h
  | _ => trivial

/-! ## Parentheses round a chain -/

/-- A head with any number of accessors, and the tree that they stand for. -/
inductive ChainPhrase : Chain → List TokenKind → Prop
  | headed {t : TokenKind} {head : Node} {nodes : List Node} {us : List TokenKind}
      (ht : HeadToken t head) (ha : Derives (.accessors nodes) us) :
      ChainPhrase (head :: nodes) (t :: us)
  | grouped {role : Role} {c : Chain} {nodes : List Node} {ts us : List TokenKind}
      (h : Derives (.expression role 0 c) ts) (ha : Derives (.accessors nodes) us) :
      ChainPhrase (c ++ nodes) (.openParen :: ts ++ .closeParen :: us)

/-- **A chain is an operand.** -/
theorem ChainPhrase.derives (h : ChainPhrase c ts) : ∃ role, Derives (.operand role c) ts := by
  cases h with
  | headed ht ha => exact ⟨_, .chain ht ha⟩
  | @grouped role c nodes ts us h ha =>
    cases nodes with
    | nil =>
      cases ha with
      | noAccessors => exact ⟨role, by simpa using Derives.group h⟩
    | cons node nodes => exact ⟨_, .groupChain h ha (List.cons_ne_nil _ _)⟩

/-- What is read and what is left. -/
def Reading.outcome (r : Reading ts α) : α × List TokenKind := (r.value, r.rest)

/-- An operand that begins with a head is the chain of it. -/
theorem operand_headed {t : TokenKind} {head : Node} (ht : HeadToken t head) :
    (operand (t :: rest)).map Reading.outcome = chained [head] rest := by
  obtain ⟨hlt, e⟩ : Reads (primary (t :: rest)) head rest := reads_primary ht
  rw [operand.eq_8]
  · simp only [e, ok_bind, chained]
    cases accessors rest with
    | error => rfl
    | ok r =>
      simp only [ok_bind, linked_eq]
      rfl
  all_goals cases ht <;> simp

/-- …and with accessors after it, so is one that begins with a parenthesis. -/
theorem operand_group {role : Role} (h : Derives (.expression role 0 c) ts)
    (hr : BeginsAccessor rest) :
    (operand (.openParen :: ts ++ .closeParen :: rest)).map Reading.outcome = chained c rest := by
  obtain ⟨hlt, e⟩ := reads_closed rest (complete_of_derives h) .closeParen rfl
  have hne := hr.continues.head_ne_is
  rw [List.cons_append, operand, group, e, ok_bind, chained]
  simp only [closing_cons, ok_bind, Reading.one]
  split
  next => simp at hne
  next =>
    cases accessors rest with
    | error => rfl
    | ok r =>
      simp only [ok_bind, linked_eq]
      rfl

/-- **A chain is read up to the accessors that follow it**, and those go to its end. -/
theorem operand_chain (h : ChainPhrase c ts) (hr : BeginsAccessor rest) :
    (operand (ts ++ rest)).map Reading.outcome = chained c rest := by
  cases h with
  | headed ht ha => exact (operand_headed ht).trans (appended_of_derives ha _ hr)
  | grouped h ha =>
    rw [List.append_assoc]
    exact (operand_group h (hr.append ha)).trans (appended_of_derives ha _ hr)

/-- **Parentheses round a chain with more accessors after it say nothing.** -/
theorem operand_parentheses (h : ChainPhrase c ts) (hr : BeginsAccessor rest) :
    (operand (.openParen :: ts ++ .closeParen :: rest)).map Reading.outcome =
      (operand (ts ++ rest)).map Reading.outcome := by
  obtain ⟨role, hd⟩ := h.derives
  rw [operand_group (.alone hd) hr, operand_chain h hr]

/-! ## The first operand of an expression -/

/-- An expression begins with an operand, and with any tokens of that operand in its place the tree
stays; other phrases do not matter. -/
def Leading : Phrase → List TokenKind → Prop
  | .expression role level root, ts => ∃ role' first us rest, ts = us ++ rest ∧ Follows rest ∧
      Derives (.operand role' first) us ∧
      ∀ ⦃us'⦄, Derives (.operand role' first) us' →
        Derives (.expression role level root) (us' ++ rest)
  | _, _ => True

omit [Regex.Engine] in
theorem Follows.append (h : Follows us) (hr : Follows rest) : Follows (us ++ rest) := by
  cases us with
  | nil => exact hr
  | cons => exact fun t ht => h t (by simpa using ht)

/-- The step: a left operand with what follows it. -/
theorem leading_append {role role' : Role} {level level' : Nat} {left root : Chain}
    (ih : Leading (.expression role level left) ts) (hf : Follows rest)
    (h : ∀ ⦃us⦄, Derives (.expression role level left) us →
      Derives (.expression role' level' root) (us ++ rest)) :
    Leading (.expression role' level' root) (ts ++ rest) := by
  obtain ⟨role₁, first, us, more, rfl, hmore, hfirst, hreplace⟩ := ih
  refine ⟨role₁, first, us, more ++ rest, List.append_assoc _ _ _, hmore.append hf, hfirst, ?_⟩
  intro us' hus'
  rw [← List.append_assoc]
  exact h (hreplace hus')

theorem leading_of_derives {phrase : Phrase} (h : Derives phrase ts) : Leading phrase ts := by
  induction h with
  | alone h =>
    refine ⟨_, _, _, [], (List.append_nil _).symm, follows_nil, h, fun us' hus' => ?_⟩
    rw [List.append_nil]
    exact .alone hus'
  | dyadic ht hp _ hr ihl =>
    exact leading_append ihl (follows_cons (.operator (ofToken?_of_dyadic ht)))
      fun _ hl => .dyadic ht hp hl hr
  | startsWith starts withWord ht hp _ ihl =>
    exact leading_append ihl (follows_cons (.operator rfl))
      fun _ hl => .startsWith starts withWord ht hp hl
  | likeRegex spelling test hf hp _ ihl =>
    exact leading_append ihl (follows_cons (.operator rfl))
      fun _ hl => .likeRegex spelling test hf hp hl
  | _ => trivial

/-- What is read as an operand derives it. -/
theorem exists_operand_of_outcome (h : (operand ts).map Reading.outcome = .ok (c, rest)) :
    ∃ us, ts = us ++ rest ∧ Derives (.operand (Role.of c) c) us := by
  cases hr : operand ts with
  | error stop =>
    rw [hr] at h
    cases h
  | ok r =>
    rw [hr] at h
    obtain ⟨rfl, rfl⟩ := Prod.mk.inj (Except.ok.inj h)
    exact (sound ts).operand hr

/-- **Tokens from which the same operand is read, with the same rest, derive the same
expressions.** -/
theorem derives_congr {role : Role} {level : Nat} {root : Chain}
    (h : (operand us).map Reading.outcome = (operand ts).map Reading.outcome)
    (hd : Derives (.expression role level root) ts) : Derives (.expression role level root) us := by
  obtain ⟨role', first, pre, rest, rfl, hf, hfirst, hreplace⟩ := leading_of_derives hd
  obtain ⟨hlt, e⟩ := complete_of_derives hfirst hf
  rw [e] at h
  obtain ⟨pre', rfl, hpre'⟩ := exists_operand_of_outcome h
  rw [hfirst.typed.2] at hpre'
  exact hreplace hpre'

/-! ## Paths -/

/-- The word for the mode, if there is one. -/
inductive ModeClause : Mode → List TokenKind → Prop
  | absent : ModeClause .lax []
  | lax (spelling : String) : ModeClause .lax [.keyword .lax spelling]
  | strict (spelling : String) : ModeClause .strict [.keyword .strict spelling]

/-- After the word for the mode, or without it, comes an expression. -/
theorem whole_clause {m m' : Mode} {words : List TokenKind} {t : TokenKind} {root : Chain}
    (hw : ModeClause m words) (ht : Starts t) :
    whole (words ++ t :: ts) = .ok (m', root) ↔
      m = m' ∧ ∃ role, Derives (.expression role 0 root) (t :: ts) := by
  have hmode : mode (words ++ t :: ts) = (m, t :: ts) := by
    cases hw with
    | absent => exact mode_of_starts ht
    | _ => rfl
  rw [whole_eq_ok, hmode, complete_eq_ok]

/-- **Parentheses round a chain with more accessors after it may be left out.** -/
theorem whole_parentheses {m m' : Mode} {words : List TokenKind} {root : Chain}
    (hw : ModeClause m words) (h : ChainPhrase c ts) (hr : BeginsAccessor rest) :
    whole (words ++ (.openParen :: ts ++ .closeParen :: rest)) = .ok (m', root) ↔
      whole (words ++ (ts ++ rest)) = .ok (m', root) := by
  have hsame := operand_parentheses h hr
  obtain ⟨role, hd⟩ := h.derives
  obtain ⟨t, us, rfl, ht⟩ := starting_of_derives hd
  simp only [List.cons_append] at hsame ⊢
  rw [whole_clause hw ht, whole_clause hw (by simp [Starts])]
  exact and_congr_right fun _ =>
    exists_congr fun _ => ⟨derives_congr hsame.symm, derives_congr hsame⟩

/-- The tree of a chain with more accessors after it: these stand at its end. -/
theorem whole_chain {m : Mode} {words : List TokenKind} {nodes : List Node}
    (hw : ModeClause m words) (h : ChainPhrase c ts) (hr : BeginsAccessor us)
    (ha : Derives (.accessors nodes) us) :
    whole (words ++ (ts ++ us)) = .ok (m, c ++ nodes) := by
  have hread := operand_chain h hr
  have hall : Leaves (accessors (us ++ [])) nodes [] := complete_of_derives ha follows_nil
  rw [List.append_nil] at hall
  obtain ⟨hle, e⟩ := hall
  rw [chained, e] at hread
  obtain ⟨vs, hvs, hoperand⟩ := exists_operand_of_outcome hread
  rw [List.append_nil] at hvs
  rw [hvs]
  obtain ⟨t, vs, rfl, ht⟩ := starting_of_derives hoperand
  exact (whole_clause hw ht).mpr ⟨rfl, _, .alone hoperand⟩

end PathExpr.Grammar
