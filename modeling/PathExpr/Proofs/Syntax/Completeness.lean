import PathExpr.Proofs.Syntax.Soundness

/-!
# PathExpr/Proofs/Syntax/Completeness — what is derivable is read

`complete_of_derives` goes by induction on the derivation and says for every phrase that its reader
reads it back, whatever may follow it (`Complete`).

An expression is read by a loop whose first operand is the leftmost one of its tree.  So it is said
of an expression of level `p` that reading goes on, from its last token, with the whole expression
as the left operand: then the left operand of an operator needs no induction of its own.
-/

namespace PathExpr.Grammar

variable {ts us rest : List TokenKind}

/-! ## What may follow -/

/-- A token that may follow an operand which has no more accessors. -/
inductive Follower : TokenKind → Prop
  | closeParen : Follower .closeParen
  | closeBracket : Follower .closeBracket
  | comma : Follower .comma
  | to (spelling : String) : Follower (.keyword .toWord spelling)
  | operator {t : TokenKind} {operation : Operation} (h : Operation.ofToken? t = some operation) :
      Follower t

/-- No token follows, or one that may follow an operand. -/
def Follows (ts : List TokenKind) : Prop := ∀ t, ts.head? = some t → Follower t

theorem follows_nil : Follows [] := fun _ h => absurd h (by simp)

theorem follows_cons {t : TokenKind} (h : Follower t) : Follows (t :: ts) := by
  rintro u hu
  obtain rfl : t = u := by simpa using hu
  exact h

/-- A token that goes on with a chain. -/
inductive AccessorToken : TokenKind → Prop
  | dot : AccessorToken .dot
  | openBracket : AccessorToken .openBracket
  | question : AccessorToken .question

/-- What follows the head or a part of a chain. -/
def Continues (ts : List TokenKind) : Prop := ∀ t, ts.head? = some t → AccessorToken t ∨ Follower t

theorem Continues.endsMember (h : Continues ts) : EndsMember ts := by
  constructor <;>
  · intro ht
    rcases h _ ht with ha | hf
    · cases ha
    · cases hf with
      | operator ho => cases ho

/-- An unknown test does not follow. -/
theorem Continues.head_ne_is (h : Continues ts) (spelling : String) :
    ts.head? ≠ some (.keyword .is spelling) := by
  intro ht
  rcases h _ ht with ha | hf
  · cases ha
  · cases hf with
    | operator ho => cases ho

/-- What follows a part in parentheses or brackets. -/
theorem stops_of_nextOperation {bound : Nat} (h : nextOperation rest = none) :
    Stops bound rest := by
  intro operation ho
  rw [h] at ho
  exact absurd ho (by simp)

theorem stops_cons {bound : Nat} {t : TokenKind} {operation : Operation}
    (ht : Operation.ofToken? t = some operation) (h : operation.priority < bound) :
    Stops bound (t :: ts) := by
  intro o ho
  obtain rfl : operation = o := Option.some.inj (ht.symm.trans ho)
  exact h

variable [Regex.Engine]

theorem head_accessors {nodes : List Node} (h : Derives (.accessors nodes) ts) (t : TokenKind)
    (ht : ts.head? = some t) : AccessorToken t := by
  cases h with
  | noAccessors => exact absurd ht (by simp)
  | member | allElements | elements | filter =>
    obtain rfl := Option.some.inj ht
    constructor

theorem continues_append {nodes : List Node} (h : Derives (.accessors nodes) ts)
    (hr : Follows rest) : Continues (ts ++ rest) := by
  intro t ht
  cases ts with
  | nil => exact .inr (hr t ht)
  | cons => exact .inl (head_accessors h t (by simpa using ht))

theorem leaves_accessors_of_follows (h : Follows rest) : Leaves (accessors rest) [] rest := by
  have hne : ∀ t us, rest = t :: us → ¬ AccessorToken t := by
    rintro t us rfl ha
    have hf := h t rfl
    cases ha <;> cases hf with
    | operator ho => cases ho
  rw [accessors]
  · exact ⟨_, rfl⟩
  · exact fun us e => hne _ us e .dot
  · exact fun us e => hne _ _ e .openBracket
  · exact fun us e => hne _ us e .openBracket
  · exact fun us e => hne _ us e .question

theorem leaves_operators_of_stops {bound start : Nat} {c : Chain} (h : Stops bound rest) :
    Leaves (operators bound start c rest) c rest := by
  rw [operators.eq_def]
  cases rest with
  | nil => exact ⟨_, rfl⟩
  | cons t rest =>
    cases ho : Operation.ofToken? t with
    | none =>
      simp only [ho]
      exact ⟨_, rfl⟩
    | some operation =>
      have hlt : operation.priority < bound := h operation ho
      simp only [ho, if_pos hlt]
      exact ⟨_, rfl⟩

/-! ## Beginnings -/

/-- A token that begins an expression: no star, and no word for a mode. -/
def Starts (t : TokenKind) : Prop :=
  t ≠ .star ∧ ∀ spelling, t ≠ .keyword .strict spelling ∧ t ≠ .keyword .lax spelling

/-- The phrase begins with a token that begins an expression, unless it may be empty. -/
def Starting : Phrase → List TokenKind → Prop
  | .accessors _, _ => True
  | _, ts => ∃ t us, ts = t :: us ∧ Starts t

theorem starting_append {phrase : Phrase} (h : Starting phrase ts) :
    Starting phrase (ts ++ us) := by
  cases phrase with
  | accessors => trivial
  | _ =>
    obtain ⟨t, vs, rfl, ht⟩ := h
    exact ⟨t, vs ++ us, rfl, ht⟩

/-- **An expression begins with a token of its own.** -/
theorem starting_of_derives {phrase : Phrase} (h : Derives phrase ts) : Starting phrase ts := by
  induction h with
  | alone _ ih => exact ih
  | dyadic _ _ _ _ ih => exact starting_append ih
  | startsWith _ _ _ _ _ ih => exact starting_append ih
  | likeRegex _ _ _ _ _ ih => exact starting_append ih
  | signed ht => exact ⟨_, _, rfl, by cases ht <;> simp [Starts]⟩
  | chain ht => exact ⟨_, _, rfl, by cases ht <;> simp [Starts]⟩
  | index _ ih => exact ih
  | range _ _ _ ih => exact starting_append ih
  | lastItem _ ih => exact ih
  | moreItems _ _ ih => exact starting_append ih
  | noAccessors | member | allElements | elements | filter => trivial
  | _ => exact ⟨_, _, rfl, by simp [Starts]⟩

/-! ## What the readers read

`Complete phrase ts` says that the reader of the phrase reads `ts` whatever follows. -/

/-- The tokens are read as the phrase.  Of an expression it is said that what is read with the
expression as the left operand is read with its tokens in front. -/
def Complete : Phrase → List TokenKind → Prop
  | .expression _ level c, ts => ∀ ⦃bound : Nat⦄ ⦃rest rest' : List TokenKind⦄ ⦃whole : Chain⦄,
      bound ≤ level → Follows rest → Stops (level + 1) rest →
      (∀ start, Leaves (operators bound start c rest) whole rest') →
      Reads (expression bound (ts ++ rest)) whole rest'
  | .operand _ c, ts => ∀ ⦃rest : List TokenKind⦄, Follows rest →
      Reads (operand (ts ++ rest)) c rest
  | .accessors nodes, ts => ∀ ⦃rest : List TokenKind⦄, Follows rest →
      Leaves (accessors (ts ++ rest)) nodes rest
  | .subscript item, ts => ∀ ⦃t : TokenKind⦄ ⦃rest : List TokenKind⦄,
      t = .comma ∨ t = .closeBracket → Reads (subscript (ts ++ t :: rest)) item (t :: rest)
  | .subscripts items, ts => ∀ ⦃opened : Nat⦄ ⦃rest : List TokenKind⦄,
      Reads (subscripts opened (ts ++ .closeBracket :: rest)) items rest

variable {role : Role} {c left right : Chain} {ls rs : List TokenKind}

/-- An expression that no operator follows is read. -/
theorem reads_expression {level bound : Nat} (h : Complete (.expression role level c) ts)
    (hb : bound ≤ level) (hr : Follows rest) (hs : Stops bound rest) :
    Reads (expression bound (ts ++ rest)) c rest :=
  h hb hr (fun o ho => Nat.lt_succ_of_lt (Nat.lt_of_lt_of_le (hs o ho) hb))
    fun _ => leaves_operators_of_stops hs

theorem reads_closed (rest : List TokenKind) {t : TokenKind}
    (h : Complete (.expression role 0 c) ts) (ht : Follower t)
    (hn : Operation.ofToken? t = none) : Reads (expression 0 (ts ++ t :: rest)) c (t :: rest) :=
  reads_expression h (Nat.le_refl 0) (follows_cons ht) (stops_of_nextOperation hn)

theorem completeAlone {level : Nat} (h : Complete (.operand role c) ts) :
    Complete (.expression role level c) ts := by
  intro bound rest rest' whole _ hr _ hw
  obtain ⟨hlt, e⟩ := h hr
  obtain ⟨_, e'⟩ := hw (ts ++ rest).length
  rw [expression, e, ok_bind]
  simp only [e', ok_bind]
  exact ⟨_, rfl⟩

/-- The loop takes up an operator with its right operand. -/
theorem leaves_operators {bound start : Nat} {t : TokenKind} {operation : Operation}
    {whole final : Chain} {rest' : List TokenKind} (ht : Operation.ofToken? t = some operation)
    (hb : bound ≤ operation.priority) (ha : Reads (application operation start left us) whole rest)
    (hw : Leaves (operators bound start whole rest) final rest') :
    Leaves (operators bound start left (t :: us)) final rest' := by
  obtain ⟨hlt, e⟩ := ha
  obtain ⟨hle, e'⟩ := hw
  rw [operators.eq_def]
  simp only [ht, if_neg (Nat.not_lt.mpr hb), e, ok_bind, e']
  exact ⟨_, rfl⟩

omit [Regex.Engine] in
theorem ofToken?_of_dyadic {operand whole : Role} {tier : Nat} {t : TokenKind}
    {operator : BinaryOperator} (h : Dyadic operand whole tier t operator) :
    Operation.ofToken? t = some (if operand = .predicate then .predicates operator
      else .values operator) := by
  cases h <;> rfl

theorem reads_application {operand whole : Role} {tier : Nat} {t : TokenKind}
    {operator : BinaryOperator} (start : Nat) (ht : Dyadic operand whole tier t operator)
    (hl : Role.of left = operand) (hr : Role.of right = operand)
    (h : Reads (expression (tier + 1) us) right rest) :
    ∃ operation, Operation.ofToken? t = some operation ∧ operation.priority = tier ∧
      Reads (application operation start left us) [.binary operator left right] rest := by
  refine ⟨_, ofToken?_of_dyadic ht, ?_⟩
  obtain rfl := ht.priority_eq
  obtain ⟨hlt, e⟩ := h
  cases operand with
  | predicate =>
    refine ⟨rfl, ?_⟩
    rw [if_pos rfl, application, wantPredicate_of_role hl, ok_bind, e]
    simp only [ok_bind, wantPredicate_of_role hr]
    exact ⟨_, rfl⟩
  | value =>
    refine ⟨rfl, ?_⟩
    rw [if_neg (by decide), application, wantValue_of_role hl, ok_bind, e]
    simp only [ok_bind, wantValue_of_role hr]
    exact ⟨_, rfl⟩

theorem completeDyadic {operand whole : Role} {level tier : Nat} {t : TokenKind}
    {operator : BinaryOperator} (ht : Dyadic operand whole tier t operator) (hp : level ≤ tier)
    (hl : Role.of left = operand) (hr : Role.of right = operand)
    (ihl : Complete (.expression operand tier left) ls)
    (ihr : Complete (.expression operand (tier + 1) right) rs) :
    Complete (.expression whole level [.binary operator left right]) (ls ++ t :: rs) := by
  intro bound rest rest' final hb hf hs hw
  have hs' : Stops (tier + 1) rest :=
    fun o ho => Nat.lt_of_lt_of_le (hs o ho) (Nat.succ_le_succ hp)
  rw [List.append_assoc, List.cons_append]
  have hright := reads_expression ihr (Nat.le_refl _) hf hs'
  have hop := fun start => reads_application start ht hl hr hright
  obtain ⟨operation, ho, hpr, -⟩ := hop 0
  refine ihl (Nat.le_trans hb hp) (follows_cons (.operator ho))
    (stops_cons ho (Nat.lt_succ_of_le (Nat.le_of_eq hpr))) fun start => ?_
  obtain ⟨operation', ho', hpr', happ⟩ := hop start
  exact leaves_operators ho' (hpr' ▸ Nat.le_trans hb hp) happ (hw start)

theorem completeStartsWith {level : Nat} {t : TokenKind} {initial : Node} (starts withWord : String)
    (ht : InitialToken t initial) (hp : level ≤ 2)
    (hl : Role.of left = .value) (ihl : Complete (.expression .value 2 left) ls) :
    Complete (.expression .predicate level [.binary .startsWith left [initial]])
      (ls ++ [.keyword .starts starts, .keyword .withWord withWord, t]) := by
  intro bound rest rest' final hb hf hs hw
  rw [List.append_assoc]
  have ho : Operation.ofToken? (.keyword .starts starts) = some .startsWith := rfl
  refine ihl (Nat.le_trans hb hp) (follows_cons (.operator ho))
    (stops_cons ho (Nat.lt_succ_self _)) fun start => ?_
  refine leaves_operators ho (Nat.le_trans hb hp) ?_ (hw start)
  rw [application]
  cases ht <;>
  · simp only [startsWith, wantValue_of_role hl, ok_bind]
    exact ⟨_, rfl⟩

omit [Regex.Engine] in
/-- The flags are read; none are if the word for them does not follow. -/
theorem leaves_flags {fs : List TokenKind} {flags : Regex.Flags} (h : FlagClause fs flags)
    (hf : Follows rest) : Leaves (Grammar.flags (fs ++ rest)) flags rest := by
  cases h with
  | absent =>
    have hne : ∀ spelling us, rest ≠ .keyword .flag spelling :: us := by
      rintro spelling us rfl
      cases hf _ rfl with
      | operator ho => cases ho
    rw [List.nil_append, Grammar.flags]
    · exact ⟨_, rfl⟩
    · exact fun _ _ _ => hne _ _
    · exact fun _ _ => hne _ _
  | present spelling h =>
    simp only [List.cons_append, List.nil_append, Grammar.flags, accepted_eq_ok.mpr h, ok_bind]
    exact ⟨_, rfl⟩

theorem completeLikeRegex {level : Nat} {fs : List TokenKind} (spelling : String)
    (test : Regex.Test) (hf : FlagClause fs test.flags)
    (hp : level ≤ 2) (hl : Role.of left = .value) (ihl : Complete (.expression .value 2 left) ls) :
    Complete (.expression .predicate level [.likeRegex left test])
      (ls ++ .keyword .likeRegex spelling :: .string test.pattern :: fs) := by
  intro bound rest rest' final hb hr hs hw
  obtain ⟨hle, e⟩ := leaves_flags hf hr
  rw [List.append_assoc]
  have ho : Operation.ofToken? (.keyword .likeRegex spelling) = some .likeRegex := rfl
  refine ihl (Nat.le_trans hb hp) (follows_cons (.operator ho))
    (stops_cons ho (Nat.lt_succ_self _)) fun start => ?_
  refine leaves_operators ho (Nat.le_trans hb hp) ?_ (hw start)
  rw [application, List.append_eq, List.cons_append, likeRegex, wantValue_of_role hl, ok_bind, e]
  simp only [ok_bind, accepted_eq_ok.mpr (Regex.Test.ofFlags_eq_ok.mpr ⟨rfl, rfl⟩)]
  exact ⟨_, rfl⟩

/-! ## Operands -/

theorem completeSigned {t : TokenKind} {sign : UnaryOperator} {whole : Chain}
    (ht : SignToken t sign) (hc : Role.of c = .value) (hw : Folded sign c whole)
    (ih : Complete (.operand .value c) ts) : Complete (.operand .value whole) (t :: ts) := by
  intro rest hr
  obtain ⟨hlt, e⟩ := ih hr
  have hs : Reads (signed sign (ts ++ rest)) whole rest := by
    rw [signed, e, ok_bind]
    simp only [wantValue_of_role hc, ok_bind, built_eq_ok.mpr (fold_eq_ok.mpr hw)]
    exact ⟨_, rfl⟩
  obtain ⟨hlt', e'⟩ := hs
  cases ht <;>
  · rw [List.cons_append, operand, e', ok_bind]
    exact ⟨_, rfl⟩

theorem reads_predicate (rest : List TokenKind) (hc : Role.of c = .predicate)
    (ih : Complete (.expression .predicate 0 c) ts) :
    Reads (predicate (ts ++ .closeParen :: rest)) c rest := by
  obtain ⟨hlt, e⟩ := reads_closed rest ih .closeParen rfl
  rw [predicate, e, ok_bind]
  simp only [wantPredicate_of_role hc, ok_bind, closing_cons, Reading.one]
  exact ⟨_, rfl⟩

theorem reads_existence (rest : List TokenKind) (hc : Role.of c = .value)
    (ih : Complete (.expression .value 0 c) ts) :
    Reads (existence (.openParen :: (ts ++ .closeParen :: rest))) [.unary .existence c] rest := by
  obtain ⟨hlt, e⟩ := reads_closed rest ih .closeParen rfl
  rw [existence, token_cons, ok_bind]
  simp only [Reading.one, e, ok_bind, wantValue_of_role hc, closing_cons]
  exact ⟨_, rfl⟩

theorem completeNegation (hc : Role.of c = .predicate)
    (ih : Complete (.expression .predicate 0 c) ts) :
    Complete (.operand .predicate [.unary .negation c])
      (.bang :: .openParen :: ts ++ [.closeParen]) := by
  intro rest hr
  obtain ⟨hlt, e⟩ := reads_predicate rest hc ih
  rw [List.append_assoc]
  simp only [List.cons_append, List.nil_append]
  rw [operand, e, ok_bind]
  exact ⟨_, rfl⟩

theorem completeExistence (spelling : String) (hc : Role.of c = .value)
    (ih : Complete (.expression .value 0 c) ts) :
    Complete (.operand .predicate [.unary .existence c])
      (.keyword .existsWord spelling :: .openParen :: ts ++ [.closeParen]) := by
  intro rest hr
  obtain ⟨hlt, e⟩ := reads_existence rest hc ih
  rw [List.append_assoc]
  simp only [List.cons_append, List.nil_append]
  rw [operand, e, ok_bind]
  exact ⟨_, rfl⟩

theorem completeNoExistence (spelling : String) (hc : Role.of c = .value)
    (ih : Complete (.expression .value 0 c) ts) :
    Complete (.operand .predicate [.unary .negation [.unary .existence c]])
      (.bang :: .keyword .existsWord spelling :: .openParen :: ts ++ [.closeParen]) := by
  intro rest hr
  obtain ⟨hlt, e⟩ := reads_existence rest hc ih
  rw [List.append_assoc]
  simp only [List.cons_append, List.nil_append]
  rw [operand, e, ok_bind]
  exact ⟨_, rfl⟩

theorem completeUnknownTest (is unknown : String) (hc : Role.of c = .predicate)
    (ih : Complete (.expression .predicate 0 c) ts) :
    Complete (.operand .predicate [.unary .isUnknown c])
      (.openParen :: ts ++ [.closeParen, .keyword .is is, .keyword .unknown unknown]) := by
  intro rest hr
  obtain ⟨hlt, e⟩ :=
    reads_closed (.keyword .is is :: .keyword .unknown unknown :: rest) ih .closeParen rfl
  have hp := Role.of_eq_predicate.mp hc
  rw [List.append_assoc]
  simp only [List.cons_append, List.nil_append]
  rw [operand, group, e, ok_bind]
  simp only [closing_cons, ok_bind, Reading.one, unknownTest, if_pos hp]
  exact ⟨_, rfl⟩

/-- Without accessors the group may be of either role; `role'` is the one claimed. -/
theorem completeGroup {role' : Role} {nodes : List Node} (ih : Complete (.expression role 0 c) ts)
    (ha : Derives (.accessors nodes) us) (iha : Complete (.accessors nodes) us) :
    Complete (.operand role' (c ++ nodes)) (.openParen :: ts ++ .closeParen :: us) := by
  intro rest hr
  obtain ⟨hlt, e⟩ := reads_closed (us ++ rest) ih .closeParen rfl
  obtain ⟨hle, e'⟩ := iha hr
  have hne := (continues_append ha hr).head_ne_is
  rw [List.append_assoc]
  simp only [List.cons_append]
  rw [operand, group, e, ok_bind]
  simp only [closing_cons, ok_bind, Reading.one]
  split
  next heq _ => simp [heq] at hne
  next =>
    simp only [e', ok_bind, linked_eq]
    exact ⟨_, rfl⟩

theorem completeChain {t : TokenKind} {head : Node} {nodes : List Node} (ht : HeadToken t head)
    (ha : Complete (.accessors nodes) us) :
    Complete (.operand .value (head :: nodes)) (t :: us) := by
  intro rest hr
  have hhead : Reads (primary (t :: (us ++ rest))) head (us ++ rest) := reads_primary ht
  obtain ⟨hlt, e⟩ := hhead
  obtain ⟨hle, e'⟩ := ha hr
  rw [List.cons_append, operand.eq_8]
  · simp only [e, ok_bind, e', linked_eq]
    exact ⟨_, rfl⟩
  all_goals cases ht <;> simp

/-! ## Accessors -/

theorem completeMember {node : Node} {nodes : List Node} (h : Member ts node)
    (hd : Derives (.accessors nodes) us) (ha : Complete (.accessors nodes) us) :
    Complete (.accessors (node :: nodes)) (.dot :: ts ++ us) := by
  intro rest hr
  obtain ⟨hlt, e⟩ := reads_member h (continues_append hd hr).endsMember
  obtain ⟨hle, e'⟩ := ha hr
  rw [List.append_assoc, List.cons_append, accessors, e, ok_bind]
  simp only [e', ok_bind]
  exact ⟨_, rfl⟩

theorem completeAllElements {nodes : List Node} (ha : Complete (.accessors nodes) us) :
    Complete (.accessors (.constant .anyArray :: nodes))
      (.openBracket :: .star :: .closeBracket :: us) := by
  intro rest hr
  obtain ⟨hle, e⟩ := ha hr
  simp only [List.cons_append]
  rw [accessors, e, ok_bind]
  exact ⟨_, rfl⟩

theorem completeElements {items : List Chain} {nodes : List Node}
    (h : Derives (.subscripts items) ts) (ih : Complete (.subscripts items) ts)
    (ha : Complete (.accessors nodes) us) :
    Complete (.accessors (.subscripts items :: nodes))
      (.openBracket :: ts ++ .closeBracket :: us) := by
  intro rest hr
  obtain ⟨hle, e⟩ := ha hr
  obtain ⟨hlt, e'⟩ := @ih ((ts ++ .closeBracket :: (us ++ rest)).length + 1) (us ++ rest)
  obtain ⟨t, vs, rfl, hstar, -⟩ := starting_of_derives h
  rw [List.append_assoc]
  simp only [List.cons_append] at e' ⊢
  rw [accessors, e', ok_bind]
  · simp only [e, ok_bind]
    exact ⟨_, rfl⟩
  · exact fun _ heq => absurd (List.cons.inj heq).1 hstar

theorem completeFilter {nodes : List Node} (hc : Role.of c = .predicate)
    (ih : Complete (.expression .predicate 0 c) ts) (ha : Complete (.accessors nodes) us) :
    Complete (.accessors (.unary .filter c :: nodes))
      (.question :: .openParen :: ts ++ .closeParen :: us) := by
  intro rest hr
  obtain ⟨hle, e⟩ := ha hr
  obtain ⟨hlt, e'⟩ := reads_predicate (us ++ rest) hc ih
  rw [List.append_assoc]
  simp only [List.cons_append]
  rw [accessors, token_cons, ok_bind]
  simp only [Reading.one, e', ok_bind, e]
  exact ⟨_, rfl⟩

theorem completeIndex (hc : Role.of c = .value) (ih : Complete (.expression .value 0 c) ts) :
    Complete (.subscript [.subscript c []]) ts := by
  intro t rest ht
  have hf : Follower t := by rcases ht with rfl | rfl <;> constructor
  have hn : Operation.ofToken? t = none := by rcases ht with rfl | rfl <;> rfl
  obtain ⟨hlt, e⟩ := reads_closed rest ih hf hn
  rw [subscript, e, ok_bind]
  simp only [wantValue_of_role hc, ok_bind]
  split
  next heq _ => rcases ht with rfl | rfl <;> exact absurd (List.cons.inj heq).1 (by simp)
  next => exact ⟨_, rfl⟩

theorem completeRange {first last : Chain} (spelling : String) (hf : Role.of first = .value)
    (hl : Role.of last = .value) (ihf : Complete (.expression .value 0 first) ts)
    (ihl : Complete (.expression .value 0 last) us) :
    Complete (.subscript [.subscript first last]) (ts ++ .keyword .toWord spelling :: us) := by
  intro t rest ht
  have hft : Follower t := by rcases ht with rfl | rfl <;> constructor
  have hn : Operation.ofToken? t = none := by rcases ht with rfl | rfl <;> rfl
  obtain ⟨hlt, e⟩ := reads_closed (us ++ t :: rest) ihf (.to spelling) rfl
  obtain ⟨hlt', e'⟩ := reads_closed rest ihl hft hn
  rw [List.append_assoc, List.cons_append, subscript, e, ok_bind]
  simp only [wantValue_of_role hf, ok_bind, e', wantValue_of_role hl]
  exact ⟨_, rfl⟩

theorem completeLastItem {item : Chain} (ih : Complete (.subscript item) ts) :
    Complete (.subscripts [item]) ts := by
  intro opened rest
  obtain ⟨hlt, e⟩ := @ih .closeBracket rest (.inr rfl)
  rw [subscripts, e, ok_bind]
  exact ⟨_, rfl⟩

theorem completeMoreItems {item : Chain} {items : List Chain} (ih : Complete (.subscript item) ts)
    (ihs : Complete (.subscripts items) us) :
    Complete (.subscripts (item :: items)) (ts ++ .comma :: us) := by
  intro opened rest
  rw [List.append_assoc, List.cons_append]
  obtain ⟨hlt, e⟩ := @ih .comma (us ++ .closeBracket :: rest) (.inl rfl)
  obtain ⟨hlt', e'⟩ := @ihs opened rest
  rw [subscripts, e, ok_bind]
  simp only [e', ok_bind]
  exact ⟨_, rfl⟩

/-- **Every phrase of the grammar is read**, by induction on its derivation. -/
theorem complete_of_derives {phrase : Phrase} (h : Derives phrase ts) : Complete phrase ts := by
  induction h with
  | alone _ ih => exact completeAlone ih
  | dyadic ht hp hl hr ihl ihr => exact completeDyadic ht hp hl.typed.2 hr.typed.2 ihl ihr
  | startsWith starts withWord ht hp hl ih =>
    exact completeStartsWith starts withWord ht hp hl.typed.2 ih
  | likeRegex spelling test hf hp hl ih => exact completeLikeRegex spelling test hf hp hl.typed.2 ih
  | signed ht h hc ih => exact completeSigned ht h.typed.2 hc ih
  | negation h ih => exact completeNegation h.typed.2 ih
  | existence spelling h ih => exact completeExistence spelling h.typed.2 ih
  | noExistence spelling h ih => exact completeNoExistence spelling h.typed.2 ih
  | unknownTest is unknown h ih => exact completeUnknownTest is unknown h.typed.2 ih
  | @group role c ts h ih =>
    have hg : Complete (.operand role (c ++ [])) (.openParen :: ts ++ [.closeParen]) :=
      completeGroup ih .noAccessors (fun _ hr => leaves_accessors_of_follows hr)
    rwa [List.append_nil] at hg
  | groupChain _ ha _ ih iha => exact completeGroup ih ha iha
  | chain ht _ iha => exact completeChain ht iha
  | noAccessors => exact fun _ hr => leaves_accessors_of_follows hr
  | member h ha iha => exact completeMember h ha iha
  | allElements _ iha => exact completeAllElements iha
  | elements h _ ih iha => exact completeElements h ih iha
  | filter h _ ih iha => exact completeFilter h.typed.2 ih iha
  | index h ih => exact completeIndex h.typed.2 ih
  | range spelling h h' ih ih' => exact completeRange spelling h.typed.2 h'.typed.2 ih ih'
  | lastItem _ ih => exact completeLastItem ih
  | moreItems _ _ ih ih' => exact completeMoreItems ih ih'

end PathExpr.Grammar
