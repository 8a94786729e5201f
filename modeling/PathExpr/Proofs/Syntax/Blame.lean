import PathExpr.Proofs.Syntax.Exact

/-!
# PathExpr/Proofs/Syntax/Blame — faults are found where they are told

A reader that fails tells how many tokens are left from the one at fault on.  `FoundAt fault ts`
says without any reader that the fault is there to be found at the front of the tokens `ts`: the
token that the message names, an expression of the wrong role, a pattern that is refused.  Every
reader blames such a place, on or before the tokens that it is given (`blames_whole`).

The operators of an expression are checked when its left operand has been read, so the place of a
fault may lie behind the reader; `Left` keeps hold of it.
-/

namespace PathExpr.Grammar

variable {α β : Type} {all ts rest : List TokenKind} {fault : GrammarFault}

/-! ## Tokens that are left -/

theorem suffix_of_eq {pre : List TokenKind} (h : ts <:+ all) (e : ts = pre ++ rest) :
    rest <:+ all :=
  (e ▸ List.suffix_append pre rest).trans h

theorem suffix_of_cons {t : TokenKind} (h : t :: ts <:+ all) : ts <:+ all :=
  (List.suffix_cons t ts).trans h

theorem suffix_of_token {kind : TokenKind} {r : Reading ts Unit} (h : ts <:+ all)
    (ht : token kind ts = .ok r) : r.rest <:+ all :=
  suffix_of_cons (token_sound ht ▸ h)

theorem suffix_of_closing {r : Reading ts Unit} (h : ts <:+ all) (hc : closing ts = .ok r) :
    r.rest <:+ all :=
  suffix_of_cons (closing_sound hc ▸ h)

theorem suffix_of_level {r : Reading ts Level} (h : ts <:+ all) (hl : level ts = .ok r) :
    r.rest <:+ all := by
  obtain ⟨_, e, -⟩ := level_sound hl
  exact suffix_of_cons (e ▸ h)

theorem suffix_mode (ts : List TokenKind) : (mode ts).2 <:+ ts := by
  rw [mode.eq_def]
  split
  · exact List.suffix_cons _ _
  · exact List.suffix_cons _ _
  · exact List.suffix_refl _

/-! ## Places of faults -/

variable [Regex.Engine]

/-- The fault is found at the front of the tokens, the end of the path included. -/
inductive FoundAt : GrammarFault → List TokenKind → Prop
  | unexpected (found : TokenKind) (wanted : Wanted) (rest : List TokenKind) :
      FoundAt (.unexpected found wanted) (found :: rest)
  | value {level : Nat} {c : Chain} {ts : List TokenKind} (rest : List TokenKind)
      (h : Derives (.expression .value level c) ts) : FoundAt .valueFound (ts ++ rest)
  | predicate {level : Nat} {c : Chain} {ts : List TokenKind} (rest : List TokenKind)
      (h : Derives (.expression .predicate level c) ts) : FoundAt .predicateFound (ts ++ rest)
  | unknownValue (spelling : String) (rest : List TokenKind) :
      FoundAt .unknownValue (.keyword .is spelling :: rest)
  | decimalArguments (rest : List TokenKind) : FoundAt .decimalArguments (.comma :: rest)
  | level {literal : String} (rest : List TokenKind)
      (h : (readInteger? literal.toList).bind Level.ofInt? = none) :
      FoundAt (.levelOutOfRange literal) (.integer literal :: rest)
  | unclosedSubscript (rest : List TokenKind) : FoundAt .unclosedSubscript (.openBracket :: rest)
  | unbalancedParentheses : FoundAt .unbalancedParentheses [.finish]
  | flags {text : String} {fault : PatternFault} (rest : List TokenKind)
      (h : Regex.Flags.read text = .error fault) : FoundAt (.pattern fault) (.string text :: rest)
  | pattern {text : String} {fs : Regex.Flags} {fault : PatternFault} (rest : List TokenKind)
      (h : Regex.Test.ofFlags text fs = .error fault) :
      FoundAt (.pattern fault) (.string text :: rest)

/-- If the reader finds fault, then with a place among the tokens `all`. -/
def Blames (all : List TokenKind) (x : Except Stop α) : Prop :=
  ∀ fault left, x = .error (.fault fault left) →
    ∃ us, us <:+ all ∧ us.length = left ∧ FoundAt fault (us ++ [.finish])

theorem blames_ok (a : α) : Blames all (.ok a) := by
  intro fault left e
  cases e

theorem blames_error (h : ts <:+ all) (hf : FoundAt fault (ts ++ [.finish])) :
    Blames all (.error (.fault fault ts.length) : Except Stop α) := by
  intro fault' left e
  obtain ⟨rfl, rfl⟩ := Stop.fault.inj (Except.error.inj e)
  exact ⟨ts, h, rfl, hf⟩

/-- **Steps one after another blame what each of them does.** -/
theorem Blames.bind {x : Except Stop α} {f : α → Except Stop β} (hx : Blames all x)
    (hf : ∀ a, x = .ok a → Blames all (f a)) : Blames all (x >>= f) := by
  match x with
  | .ok a => exact hf a rfl
  | .error stop =>
    intro fault left e
    exact hx fault left (congrArg Except.error (Except.error.inj e))

/-! ## Checks and requests -/

theorem blames_built (x : Except Misuse α) : Blames all (built x) := by
  intro fault left e
  cases x <;> simp [built] at e

theorem blames_unexpected (wanted : Wanted) (h : ts <:+ all) :
    Blames all (unexpected wanted ts : Except Stop α) := by
  refine blames_error h ?_
  cases ts with
  | nil => exact .unexpected _ _ []
  | cons t ts => exact .unexpected _ _ _

theorem blames_accepted {text : String} {x : Except PatternFault α}
    (h : .string text :: ts <:+ all)
    (hx : ∀ fault, x = .error fault →
      FoundAt (.pattern fault) (.string text :: (ts ++ [.finish]))) :
    Blames all (accepted (ts.length + 1) x) := by
  match x with
  | .ok a => exact blames_ok a
  | .error fault => exact blames_error h (hx fault rfl)

/-- An expression that has been read, with the number of tokens that were left before it and the
tokens that follow it. -/
structure Left (all : List TokenKind) (grade : Nat) (c : Chain) (start : Nat)
    (pre rest : List TokenKind) : Prop where
  derives : Derives (.expression (Role.of c) grade c) pre
  start_eq : start = (pre ++ rest).length
  suffix : pre ++ rest <:+ all

section Left

variable {grade start bound : Nat} {c left : Chain} {pre : List TokenKind}

theorem Left.rest_suffix (h : Left all grade c start pre rest) : rest <:+ all :=
  suffix_of_eq h.suffix rfl

theorem blames_wantPredicate (h : Left all grade c start pre rest) :
    Blames all (wantPredicate c start) := by
  unfold wantPredicate
  split
  · exact blames_ok ()
  next hc =>
    have hd := h.derives
    rw [Role.of_eq_value.mpr (by simpa using hc)] at hd
    rw [h.start_eq]
    exact blames_error h.suffix (by simpa using FoundAt.value (rest ++ [.finish]) hd)

theorem blames_wantValue (h : Left all grade c start pre rest) :
    Blames all (wantValue c start) := by
  unfold wantValue
  split
  next hc =>
    have hd := h.derives
    rw [Role.of_eq_predicate.mpr hc] at hd
    rw [h.start_eq]
    exact blames_error h.suffix (by simpa using FoundAt.predicate (rest ++ [.finish]) hd)
  · exact blames_ok ()

/-- What a reader of expressions has read is an expression. -/
theorem left_of_expression {r : Reading ts Chain} (h : ts <:+ all)
    (hb : bound ≤ UnaryOperator.plus.priority) (he : expression bound ts = .ok r) :
    ∃ pre, Left all bound r.value ts.length pre r.rest := by
  obtain ⟨pre, e, hd, -⟩ := (sound ts).expression hb he
  exact ⟨pre, hd, congrArg List.length e, e ▸ h⟩

/-! ## Single tokens -/

theorem blames_token (kind : TokenKind) (h : ts <:+ all) : Blames all (token kind ts) := by
  unfold token
  split
  · split
    · exact blames_ok _
    · exact blames_unexpected _ h
  · exact blames_unexpected _ h

theorem blames_closing (h : ts <:+ all) : Blames all (closing ts) := by
  unfold closing
  split
  · exact blames_ok _
  · exact blames_error h .unbalancedParentheses
  · exact blames_unexpected _ h

theorem blames_primary (h : ts <:+ all) : Blames all (primary ts) := by
  unfold primary
  split
  case h_9 | h_10 => exact (blames_built _).bind fun _ _ => blames_ok _
  case h_11 => exact blames_unexpected _ h
  all_goals exact blames_ok _

/-! ## Members -/

theorem blames_signedInteger (h : ts <:+ all) : Blames all (signedInteger ts) := by
  unfold signedInteger
  split
  case h_1 | h_2 =>
    exact (blames_built _).bind fun _ _ => (blames_built _).bind fun _ _ => blames_ok _
  case h_3 => exact (blames_built _).bind fun _ _ => blames_ok _
  case h_4 | h_5 => exact blames_unexpected _ (suffix_of_cons h)
  case h_6 => exact blames_unexpected _ h

theorem blames_decimalArguments (h : ts <:+ all) : Blames all (decimalArguments ts) := by
  unfold decimalArguments
  split
  · exact blames_ok _
  · refine (blames_signedInteger h).bind fun ⟨precision, us, hus⟩ hp => ?_
    obtain ⟨_, e, -⟩ := signedInteger_sound hp
    have hrest : us <:+ all := suffix_of_eq h e
    dsimp only
    split
    · have hmore := suffix_of_cons hrest
      refine (blames_signedInteger hmore).bind fun ⟨scale, vs, hvs⟩ hs => ?_
      obtain ⟨_, e', -⟩ := signedInteger_sound hs
      dsimp only at e' ⊢
      split
      · exact blames_error (suffix_of_eq hmore e') (.decimalArguments _)
      · exact blames_ok _
    · exact blames_ok _

theorem blames_arguments (call : Call) (h : ts <:+ all) : Blames all (call.arguments ts) := by
  cases call with
  | plain method => exact blames_ok _
  | decimal =>
    exact (blames_decimalArguments h).bind fun _ _ => (blames_built _).bind fun _ _ => blames_ok _
  | template =>
    have hs : Blames all (optionalString ts) := by
      unfold optionalString
      split <;> exact blames_ok _
    exact hs.bind fun _ _ => blames_ok _
  | precision operator =>
    have hi : Blames all (optionalInteger ts) := by
      unfold optionalInteger
      split
      · exact (blames_built _).bind fun _ _ => blames_ok _
      · exact blames_ok _
    exact hi.bind fun _ _ => blames_ok _

theorem blames_read {word : Keyword} {call : Call} (hw : Call.ofKeyword? word = some call)
    (h : ts <:+ all) : Blames all (call.read ts) := by
  refine (blames_arguments call h).bind fun r hr => ?_
  obtain ⟨_, e, -⟩ := arguments_sound hw hr
  exact (blames_token _ (suffix_of_eq h e)).bind fun _ _ => blames_ok _

theorem blames_level (h : ts <:+ all) : Blames all (level ts) := by
  unfold level
  split
  · exact blames_ok _
  · split
    · exact blames_ok _
    next hlevel => exact blames_error h (.level _ hlevel)
  · exact blames_unexpected _ h

theorem blames_levels (h : ts <:+ all) : Blames all (levels ts) := by
  refine (blames_level h).bind fun ⟨first, us, hus⟩ hf => ?_
  have hrest : us <:+ all := suffix_of_level h hf
  dsimp only
  split
  · have hmore := suffix_of_cons hrest
    exact (blames_level hmore).bind fun _ hl =>
      (blames_token _ (suffix_of_level hmore hl)).bind fun _ _ => blames_ok _
  · exact (blames_token _ hrest).bind fun _ _ => blames_ok _

theorem blames_member (h : ts <:+ all) : Blames all (member ts) := by
  unfold member
  split
  case h_2 =>
    exact (blames_levels (suffix_of_cons (suffix_of_cons h))).bind fun _ _ => blames_ok _
  case h_4 =>
    split
    next call hw =>
      exact (blames_read hw (suffix_of_cons (suffix_of_cons h))).bind fun _ _ => blames_ok _
    · exact blames_ok _
  case h_11 => exact blames_unexpected _ h
  all_goals exact blames_ok _

/-! ## Pattern tests and the like -/

theorem blames_startsWith {t : TokenKind} (h : Left all grade left start pre (t :: ts)) :
    Blames all (startsWith start left ts) := by
  have hts := suffix_of_cons h.rest_suffix
  unfold startsWith
  split
  case h_1 | h_2 => exact (blames_wantValue h).bind fun _ _ => blames_ok _
  case h_3 =>
    exact (blames_wantValue h).bind fun _ _ => blames_unexpected _ (suffix_of_cons hts)
  case h_4 => exact blames_unexpected _ hts

theorem blames_flags (h : ts <:+ all) : Blames all (flags ts) := by
  unfold flags
  split
  · refine (blames_accepted (suffix_of_cons h) fun _ hf => ?_).bind fun _ _ => blames_ok _
    exact .flags _ hf
  · exact blames_unexpected _ (suffix_of_cons h)
  · exact blames_ok _

/-- A pattern is refused where it stands, however many tokens its flags take. -/
theorem blames_likeRegex {t : TokenKind} (h : Left all grade left start pre (t :: ts)) :
    Blames all (likeRegex start left ts) := by
  have hts := suffix_of_cons h.rest_suffix
  unfold likeRegex
  split
  · refine (blames_wantValue h).bind fun _ _ => ?_
    refine (blames_flags (suffix_of_cons hts)).bind fun _ _ => ?_
    exact (blames_accepted hts fun _ hf => .pattern _ hf).bind fun _ _ => blames_ok _
  · exact (blames_wantValue h).bind fun _ _ => blames_unexpected _ hts

theorem blames_unknownTest {spelling : String} (inner : Chain)
    (h : .keyword .is spelling :: ts <:+ all) :
    Blames all (unknownTest (ts.length + 1) inner ts) := by
  unfold unknownTest
  split
  · split
    · exact blames_ok _
    · exact blames_unexpected _ (suffix_of_cons h)
  · exact blames_error h (.unknownValue _ _)

end Left

/-! ## Expressions -/

/-- An operand is an expression, whatever the level. -/
theorem left_of_operand {r : Reading ts Chain} (h : ts <:+ all) (he : operand ts = .ok r)
    (grade : Nat) : ∃ pre, Left all grade r.value ts.length pre r.rest := by
  obtain ⟨pre, e, hd⟩ := (sound ts).operand he
  exact ⟨pre, .alone hd, congrArg List.length e, e ▸ h⟩

mutual

theorem blames_expression (bound : Nat) (ts : List TokenKind) (h : ts <:+ all) :
    Blames all (expression bound ts) := by
  rw [expression]
  refine (blames_operand ts h).bind fun ⟨left, us, hus⟩ he => ?_
  obtain ⟨pre, hl⟩ := left_of_operand h he UnaryOperator.plus.priority
  refine (blames_operators bound us hl fun operation ho _ => ?_).bind fun _ _ => blames_ok _
  obtain ⟨t, ht⟩ := exists_of_nextOperation ho
  exact Nat.le_of_lt (priority_lt_sign ht)
termination_by 4 * ts.length + 1

/-- The invariant is that of `SoundOperators`. -/
theorem blames_operators {grade start : Nat} {left : Chain} {pre : List TokenKind} (bound : Nat)
    (ts : List TokenKind) (h : Left all grade left start pre ts)
    (hm : ∀ o, nextOperation ts = some o → o.operandRole = Role.of left → o.priority ≤ grade) :
    Blames all (operators bound start left ts) := by
  rw [operators.eq_def]
  split
  · exact blames_ok _
  next t us =>
    split
    · exact blames_ok _
    next operation ho =>
      split
      · exact blames_ok _
      · refine (blames_application us ho h).bind fun ⟨whole, vs, hvs⟩ ha => ?_
        have hd := derives_lower h.derives (hm operation ho (role_of_application ha).symm)
        obtain ⟨mid, e, hmid, hnext⟩ := (sound us).application ho hd ha
        dsimp only at e hmid hnext
        have hwhole : Left all operation.priority whole start (pre ++ t :: mid) vs :=
          ⟨hmid, by simp [h.start_eq, e], by simpa [e] using h.suffix⟩
        exact (blames_operators bound vs hwhole hnext).bind fun _ _ => blames_ok _
termination_by 4 * ts.length
decreasing_by
  all_goals subst_vars
  all_goals simp only [List.length_cons] at *
  all_goals omega

theorem blames_application {grade start : Nat} {left : Chain} {operation : Operation}
    {t : TokenKind} {pre : List TokenKind} (ts : List TokenKind)
    (ho : Operation.ofToken? t = some operation) (h : Left all grade left start pre (t :: ts)) :
    Blames all (application operation start left ts) := by
  have hts := suffix_of_cons h.rest_suffix
  cases operation with
  | predicates operator =>
    rw [application]
    refine (blames_wantPredicate h).bind fun _ _ => ?_
    refine (blames_expression _ ts hts).bind fun _ he => ?_
    obtain ⟨_, hr⟩ := left_of_expression hts (priority_lt_sign ho) he
    exact (blames_wantPredicate hr).bind fun _ _ => blames_ok _
  | values operator =>
    rw [application]
    refine (blames_wantValue h).bind fun _ _ => ?_
    refine (blames_expression _ ts hts).bind fun _ he => ?_
    obtain ⟨_, hr⟩ := left_of_expression hts (priority_lt_sign ho) he
    exact (blames_wantValue hr).bind fun _ _ => blames_ok _
  | startsWith =>
    rw [application]
    exact blames_startsWith h
  | likeRegex =>
    rw [application]
    exact blames_likeRegex h
termination_by 4 * ts.length + 2

theorem blames_operand (ts : List TokenKind) (h : ts <:+ all) : Blames all (operand ts) := by
  rw [operand.eq_def]
  split
  case h_1 us => exact (blames_signed .plus us (suffix_of_cons h)).bind fun _ _ => blames_ok _
  case h_2 us => exact (blames_signed .minus us (suffix_of_cons h)).bind fun _ _ => blames_ok _
  case h_3 us =>
    exact (blames_predicate us (suffix_of_cons (suffix_of_cons h))).bind fun _ _ => blames_ok _
  case h_4 us =>
    exact (blames_existence us (suffix_of_cons (suffix_of_cons h))).bind fun _ _ => blames_ok _
  case h_5 => exact blames_unexpected _ (suffix_of_cons h)
  case h_6 us => exact (blames_group us (suffix_of_cons h)).bind fun _ _ => blames_ok _
  case h_7 us => exact (blames_existence us (suffix_of_cons h)).bind fun _ _ => blames_ok _
  case h_8 =>
    refine (blames_primary h).bind fun ⟨head, us, hus⟩ hp => ?_
    obtain ⟨t, e, -⟩ := primary_sound hp
    have hrest : us <:+ all := suffix_of_cons (e ▸ h)
    refine (blames_accessors us hrest).bind fun _ _ => ?_
    simp only [linked_eq]
    exact blames_ok _
termination_by 4 * ts.length

theorem blames_signed (sign : UnaryOperator) (ts : List TokenKind) (h : ts <:+ all) :
    Blames all (signed sign ts) := by
  rw [signed]
  refine (blames_operand ts h).bind fun _ he => ?_
  obtain ⟨_, hl⟩ := left_of_operand h he 0
  exact (blames_wantValue hl).bind fun _ _ => (blames_built _).bind fun _ _ => blames_ok _
termination_by 4 * ts.length + 1

theorem blames_group (ts : List TokenKind) (h : ts <:+ all) : Blames all (group ts) := by
  rw [group]
  refine (blames_expression 0 ts h).bind fun ⟨inner, us, hus⟩ he => ?_
  obtain ⟨_, hl⟩ := left_of_expression h (Nat.zero_le _) he
  refine (blames_closing hl.rest_suffix).bind fun ⟨_, vs, hvs⟩ hc => ?_
  have hrest : vs <:+ all := suffix_of_closing hl.rest_suffix hc
  dsimp only at hus hvs ⊢
  split
  · exact (blames_unknownTest inner hrest).bind fun _ _ => blames_ok _
  · refine (blames_accessors vs hrest).bind fun _ _ => ?_
    simp only [linked_eq]
    exact blames_ok _
termination_by 4 * ts.length + 2

theorem blames_predicate (ts : List TokenKind) (h : ts <:+ all) : Blames all (predicate ts) := by
  rw [predicate]
  refine (blames_expression 0 ts h).bind fun _ he => ?_
  obtain ⟨_, hl⟩ := left_of_expression h (Nat.zero_le _) he
  exact (blames_wantPredicate hl).bind fun _ _ =>
    (blames_closing hl.rest_suffix).bind fun _ _ => blames_ok _
termination_by 4 * ts.length + 2

theorem blames_existence (ts : List TokenKind) (h : ts <:+ all) : Blames all (existence ts) := by
  rw [existence]
  refine (blames_token .openParen h).bind fun ⟨_, us, hus⟩ ho => ?_
  have hrest : us <:+ all := suffix_of_token h ho
  refine (blames_expression 0 us hrest).bind fun _ he => ?_
  obtain ⟨_, hl⟩ := left_of_expression hrest (Nat.zero_le _) he
  exact (blames_wantValue hl).bind fun _ _ =>
    (blames_closing hl.rest_suffix).bind fun _ _ => blames_ok _
termination_by 4 * ts.length

theorem blames_accessors (ts : List TokenKind) (h : ts <:+ all) :
    Blames all (accessors ts) := by
  rw [accessors.eq_def]
  split
  case h_1 =>
    refine (blames_member (suffix_of_cons h)).bind fun ⟨node, us, hus⟩ hm => ?_
    obtain ⟨_, e, -⟩ := member_sound hm
    have hrest : us <:+ all := suffix_of_eq (suffix_of_cons h) e
    exact (blames_accessors us hrest).bind fun _ _ => blames_ok _
  case h_2 us =>
    have hrest := suffix_of_cons (suffix_of_cons (suffix_of_cons h))
    exact (blames_accessors us hrest).bind fun _ _ => blames_ok _
  case h_3 us _ =>
    refine (blames_subscripts us h (suffix_of_cons h)).bind fun ⟨items, vs, hvs⟩ hi => ?_
    obtain ⟨ws, e, -⟩ := (sound us).subscripts hi
    have hrest := suffix_of_cons (suffix_of_eq (suffix_of_cons h) e)
    exact (blames_accessors vs hrest).bind fun _ _ => blames_ok _
  case h_4 =>
    refine (blames_token .openParen (suffix_of_cons h)).bind fun ⟨_, us, hus⟩ ho => ?_
    have hopen : us <:+ all := suffix_of_token (suffix_of_cons h) ho
    refine (blames_predicate us hopen).bind fun ⟨inner, vs, hvs⟩ hp => ?_
    obtain ⟨ws, e, -⟩ := (sound us).predicate hp
    have hrest := suffix_of_cons (suffix_of_eq hopen e)
    exact (blames_accessors vs hrest).bind fun _ _ => blames_ok _
  case h_5 => exact blames_ok _
termination_by 4 * ts.length
decreasing_by
  all_goals subst_vars
  all_goals simp only [List.length_cons] at *
  all_goals omega

/-- `opened` are the tokens from the open bracket on. -/
theorem blames_subscripts {opened : List TokenKind} (ts : List TokenKind)
    (ho : .openBracket :: opened <:+ all) (h : ts <:+ all) :
    Blames all (subscripts (opened.length + 1) ts) := by
  rw [subscripts]
  refine (blames_subscript ts h).bind fun ⟨item, us, hus⟩ hi => ?_
  obtain ⟨_, e, -⟩ := (sound ts).subscript hi
  have hrest : us <:+ all := suffix_of_eq h e
  dsimp only at hus ⊢
  split
  next vs hvs =>
    have hlt : vs.length < ts.length := Nat.lt_trans (Nat.lt_succ_self _) hvs
    exact (blames_subscripts vs ho (suffix_of_cons hrest)).bind fun _ _ => blames_ok _
  · exact blames_ok _
  · exact blames_error ho (.unclosedSubscript _)
  · exact blames_unexpected _ hrest
termination_by 4 * ts.length + 3

theorem blames_subscript (ts : List TokenKind) (h : ts <:+ all) : Blames all (subscript ts) := by
  rw [subscript]
  refine (blames_expression 0 ts h).bind fun ⟨first, us, hus⟩ hf => ?_
  obtain ⟨_, hl⟩ := left_of_expression h (Nat.zero_le _) hf
  refine (blames_wantValue hl).bind fun _ _ => ?_
  have hrest : us <:+ all := hl.rest_suffix
  dsimp only at hus ⊢
  split
  next spelling vs hvs _ =>
    have hlt : vs.length < ts.length := Nat.lt_trans (Nat.lt_succ_self _) hvs
    refine (blames_expression 0 vs (suffix_of_cons hrest)).bind fun _ he => ?_
    obtain ⟨_, hr⟩ := left_of_expression (suffix_of_cons hrest) (Nat.zero_le _) he
    exact (blames_wantValue hr).bind fun _ _ => blames_ok _
  · exact blames_ok _
termination_by 4 * ts.length + 2

end

/-! ## Paths -/

/-- **A fault in a path is found where it is told.** -/
theorem blames_whole (ts : List TokenKind) : Blames ts (whole ts) := by
  have hcomplete : Blames ts (complete (mode ts).2) := by
    have h := suffix_mode ts
    refine (blames_expression 0 _ h).bind fun ⟨root, us, hus⟩ he => ?_
    obtain ⟨_, hl⟩ := left_of_expression h (Nat.zero_le _) he
    have hrest : us <:+ ts := hl.rest_suffix
    dsimp only
    split
    · exact blames_ok _
    · exact blames_unexpected _ hrest
  intro fault left e
  unfold whole at e
  cases hx : complete (mode ts).2 with
  | ok root => rw [hx] at e; cases e
  | error stop =>
    rw [hx] at e
    exact hcomplete fault left (hx.trans (congrArg Except.error (Except.error.inj e)))

end PathExpr.Grammar
