import PathExpr.Proofs.Syntax.Reads

/-!
# PathExpr/Proofs/Syntax/Members — reading what follows a dot

`member_sound` and `reads_member`: the reader of members succeeds exactly on the phrases of
`Member`.  A word may be a name or name a method, and `**` may have levels; which of the two it is
shows only in the token after it, so a member is read back when neither an open parenthesis nor an
open brace follows.
-/

namespace PathExpr.Grammar

variable {ts rest : List TokenKind}

/-! ## Arguments -/

/-- A word with the name of a method names that method. -/
theorem ofKeyword?_of_name {word : Keyword} {method : Method} (h : word.word = method.name) :
    Call.ofKeyword? word = some (.plain method) := by
  cases method <;> cases word <;> first | rfl | exact absurd h (by decide)

theorem ofKeyword?_of_takesPrecision {word : Keyword} {operator : UnaryOperator}
    (hp : TakesPrecision operator) (h : "." ++ word.word = operator.text) :
    Call.ofKeyword? word = some (.precision operator) := by
  cases hp <;> cases word <;> first | rfl | exact absurd h (by decide)

variable [Regex.Engine]

theorem signedInteger_sound {r : Reading ts Chain} (h : signedInteger ts = .ok r) :
    ∃ pre, ts = pre ++ r.rest ∧ SignedInteger pre r.value := by
  unfold signedInteger at h
  split at h
  case h_1 | h_2 =>
    obtain ⟨node, hn, h⟩ := bind_eq_ok.mp h
    obtain ⟨i, rfl, rfl⟩ := Node.ofInteger_eq_ok.mp (built_eq_ok.mp hn)
    obtain ⟨c, hc, h⟩ := bind_eq_ok.mp h
    obtain rfl := Except.ok.inj h
    exact ⟨_, rfl, .signed i (by constructor) (fold_eq_ok.mp (built_eq_ok.mp hc))⟩
  case h_3 =>
    obtain ⟨node, hn, h⟩ := bind_eq_ok.mp h
    obtain ⟨i, rfl, rfl⟩ := Node.ofInteger_eq_ok.mp (built_eq_ok.mp hn)
    obtain rfl := Except.ok.inj h
    exact ⟨_, rfl, .plain i⟩
  all_goals exact absurd h unexpected_ne_ok

theorem reads_signedInteger (rest : List TokenKind) {pre : List TokenKind} {c : Chain}
    (h : SignedInteger pre c) :
    Reads (signedInteger (pre ++ rest)) c rest := by
  cases h with
  | plain i =>
    simp only [List.cons_append, List.nil_append, signedInteger]
    rw [built_eq_ok.mpr (Node.ofInteger_eq_ok.mpr ⟨i, rfl, rfl⟩)]
    exact ⟨_, rfl⟩
  | signed i hs hc =>
    cases hs <;>
    · simp only [List.cons_append, List.nil_append, signedInteger]
      rw [built_eq_ok.mpr (Node.ofInteger_eq_ok.mpr ⟨i, rfl, rfl⟩), ok_bind,
        built_eq_ok.mpr (fold_eq_ok.mpr hc), ok_bind]
      exact ⟨_, rfl⟩

/-- A signed integer begins with a sign or a digit. -/
theorem head_signedInteger_ne_closeParen {pre : List TokenKind} {c : Chain}
    (h : SignedInteger pre c) : (pre ++ rest).head? ≠ some .closeParen := by
  cases h with
  | plain i => simp
  | signed i hs hc => cases hs <;> simp

/-- The arguments of the method with a precision and a scale. -/
inductive DecimalArguments : List TokenKind → List Chain → Prop
  | none : DecimalArguments [] []
  | one {ts : List TokenKind} {c : Chain} (h : SignedInteger ts c) : DecimalArguments ts [c]
  | two {ts us : List TokenKind} {c d : Chain} (h : SignedInteger ts c)
      (h' : SignedInteger us d) : DecimalArguments (ts ++ .comma :: us) [c, d]

theorem decimalArguments_sound {r : Remainder ts (List Chain)} (h : decimalArguments ts = .ok r) :
    ∃ pre, ts = pre ++ r.rest ∧ DecimalArguments pre r.value := by
  unfold decimalArguments at h
  split at h
  · obtain rfl := Except.ok.inj h
    exact ⟨[], rfl, .none⟩
  · obtain ⟨⟨c, us, hus⟩, hc, h⟩ := bind_eq_ok.mp h
    obtain ⟨pre, e, hpre⟩ := signedInteger_sound hc
    simp only at h e
    split at h
    · obtain ⟨⟨d, vs, hvs⟩, hd, h⟩ := bind_eq_ok.mp h
      obtain ⟨mid, e', hmid⟩ := signedInteger_sound hd
      simp only at h e'
      split at h
      · exact absurd h (by simp)
      · obtain rfl := Except.ok.inj h
        exact ⟨pre ++ .comma :: mid, by simp [e, e'], .two hpre hmid⟩
    · obtain rfl := Except.ok.inj h
      exact ⟨pre, e, .one hpre⟩

theorem leaves_decimalArguments (rest : List TokenKind) {pre : List TokenKind} {cs : List Chain}
    (h : DecimalArguments pre cs) :
    Leaves (decimalArguments (pre ++ .closeParen :: rest)) cs (.closeParen :: rest) := by
  cases h with
  | none => exact ⟨_, rfl⟩
  | one hc =>
    obtain ⟨h, e⟩ := reads_signedInteger (.closeParen :: rest) hc
    rw [decimalArguments, e]
    · exact ⟨_, rfl⟩
    · exact fun us heq => head_signedInteger_ne_closeParen hc (congrArg List.head? heq)
  | @two us vs c d hc hd =>
    rw [List.append_assoc, List.cons_append]
    obtain ⟨h, e⟩ := reads_signedInteger (.comma :: (vs ++ .closeParen :: rest)) hc
    obtain ⟨h', e'⟩ := reads_signedInteger (.closeParen :: rest) hd
    rw [decimalArguments, e]
    · simp only [ok_bind, e']
      exact ⟨_, rfl⟩
    · exact fun us heq => head_signedInteger_ne_closeParen hc (congrArg List.head? heq)

/-- **What is read between the parentheses of a method are its arguments.** -/
theorem arguments_sound {word : Keyword} {call : Call} {r : Remainder ts Node}
    (hw : Call.ofKeyword? word = some call) (h : call.arguments ts = .ok r) :
    ∃ pre, ts = pre ++ r.rest ∧ Arguments word pre r.value := by
  cases call with
  | plain method =>
    obtain rfl := Except.ok.inj h
    refine ⟨[], rfl, .none ?_⟩
    cases word <;> cases hw <;> rfl
  | decimal =>
    obtain rfl : word = .decimal := by cases word <;> first | rfl | cases hw
    obtain ⟨⟨cs, us, hus⟩, hcs, h⟩ := bind_eq_ok.mp h
    obtain ⟨pre, e, hpre⟩ := decimalArguments_sound hcs
    obtain ⟨node, hn, h⟩ := bind_eq_ok.mp h
    obtain rfl := Except.ok.inj h
    refine ⟨pre, e, ?_⟩
    rw [built_eq_ok] at hn
    cases hpre <;> obtain rfl := Except.ok.inj hn <;> constructor <;> assumption
  | template =>
    obtain rfl : word = .datetime := by cases word <;> first | rfl | cases hw
    obtain ⟨⟨c, us, hus⟩, hc, h⟩ := bind_eq_ok.mp h
    obtain rfl := Except.ok.inj h
    unfold optionalString at hc
    split at hc
    · cases Except.ok.inj hc
      exact ⟨[_], rfl, .template _⟩
    · cases Except.ok.inj hc
      exact ⟨[], rfl, .noTemplate⟩
  | precision operator =>
    have hp : TakesPrecision operator ∧ "." ++ word.word = operator.text := by
      cases word <;> cases hw <;> exact ⟨by constructor, by decide⟩
    obtain ⟨⟨c, us, hus⟩, hc, h⟩ := bind_eq_ok.mp h
    obtain rfl := Except.ok.inj h
    unfold optionalInteger at hc
    split at hc
    · obtain ⟨node, hn, hc⟩ := bind_eq_ok.mp hc
      obtain ⟨i, rfl, rfl⟩ := Node.ofInteger_eq_ok.mp (built_eq_ok.mp hn)
      cases Except.ok.inj hc
      exact ⟨[_], rfl, .timePrecision i hp.1 hp.2⟩
    · cases Except.ok.inj hc
      exact ⟨[], rfl, .noPrecision hp.1 hp.2⟩

theorem leaves_arguments (rest : List TokenKind) {word : Keyword} {pre : List TokenKind}
    {node : Node} (h : Arguments word pre node) :
    ∃ call, Call.ofKeyword? word = some call ∧
      Leaves (call.arguments (pre ++ .closeParen :: rest)) node (.closeParen :: rest) := by
  have decimal : ∀ {pre cs node}, DecimalArguments pre cs → Node.decimal cs = .ok node →
      Leaves (Call.decimal.arguments (pre ++ .closeParen :: rest)) node (.closeParen :: rest) := by
    intro pre cs node h hn
    obtain ⟨h', e⟩ := leaves_decimalArguments rest h
    simp only [Call.arguments, e, ok_bind, built_eq_ok.mpr hn]
    exact ⟨_, rfl⟩
  cases h with
  | none h => exact ⟨_, ofKeyword?_of_name h, _, rfl⟩
  | noDecimal => exact ⟨_, rfl, decimal .none rfl⟩
  | precision h => exact ⟨_, rfl, decimal (.one h) rfl⟩
  | precisionAndScale h h' => exact ⟨_, rfl, decimal (.two h h') rfl⟩
  | noTemplate => exact ⟨_, rfl, _, rfl⟩
  | template value => exact ⟨_, rfl, _, rfl⟩
  | noPrecision hp h => exact ⟨_, ofKeyword?_of_takesPrecision hp h, _, rfl⟩
  | timePrecision i hp h =>
    refine ⟨_, ofKeyword?_of_takesPrecision hp h, ?_⟩
    simp only [Call.arguments, List.cons_append, List.nil_append, optionalInteger,
      built_eq_ok.mpr (Node.ofInteger_eq_ok.mpr ⟨i, rfl, rfl⟩), ok_bind]
    exact ⟨_, rfl⟩

/-! ## Levels -/

omit [Regex.Engine] in
theorem level_sound {r : Reading ts Level} (h : level ts = .ok r) :
    ∃ t, ts = t :: r.rest ∧ LevelToken t r.value := by
  unfold level at h
  split at h
  · obtain rfl := Except.ok.inj h
    exact ⟨_, rfl, .last _⟩
  · split at h
    next level hl =>
      obtain rfl := Except.ok.inj h
      obtain ⟨n, hn, hl⟩ := Option.bind_eq_some_iff.mp hl
      obtain ⟨k, rfl, rfl⟩ := Level.ofInt?_eq_some.mp hl
      exact ⟨_, rfl, LevelToken.depth (n := k) hn⟩
    · exact absurd h (by simp)
  · exact absurd h unexpected_ne_ok

omit [Regex.Engine] in
theorem reads_level (rest : List TokenKind) {t : TokenKind} {l : Level} (h : LevelToken t l) :
    Reads (level (t :: rest)) l rest := by
  cases h with
  | last => exact ⟨_, rfl⟩
  | @depth literal n h =>
    have hl : (readInteger? literal.toList).bind Level.ofInt? = some (.depth n) := by
      rw [h]
      exact (Option.bind_some ..).trans (Level.ofInt?_eq_some.mpr ⟨n, rfl, rfl⟩)
    rw [level, hl]
    exact ⟨_, rfl⟩

/-- The levels of `**` in braces, from after the open brace on. -/
inductive LevelClause : List TokenKind → Node → Prop
  | at {t : TokenKind} {l : Level} (h : LevelToken t l) : LevelClause [t, .closeBrace] (.any l l)
  | between {t u : TokenKind} {first last : Level} (spelling : String) (h : LevelToken t first)
      (h' : LevelToken u last) :
      LevelClause [t, .keyword .toWord spelling, u, .closeBrace] (.any first last)

theorem levels_sound {r : Reading ts Node} (h : levels ts = .ok r) :
    ∃ pre, ts = pre ++ r.rest ∧ LevelClause pre r.value := by
  obtain ⟨⟨first, us, hus⟩, hf, h⟩ := bind_eq_ok.mp h
  obtain ⟨t, e, ht⟩ := level_sound hf
  simp only at h e
  split at h
  next spelling us hus =>
    obtain ⟨⟨last, vs, hvs⟩, hl, h⟩ := bind_eq_ok.mp h
    obtain ⟨u, e', hu⟩ := level_sound hl
    obtain ⟨⟨_, ws, hws⟩, hb, h⟩ := bind_eq_ok.mp h
    have e'' := token_sound hb
    obtain rfl := Except.ok.inj h
    simp only at e' e''
    exact ⟨[t, .keyword .toWord spelling, u, .closeBrace], by simp [e, e', e''],
      .between spelling ht hu⟩
  · obtain ⟨⟨_, ws, hws⟩, hb, h⟩ := bind_eq_ok.mp h
    have e'' := token_sound hb
    obtain rfl := Except.ok.inj h
    exact ⟨[t, .closeBrace], by simp [e, e''], .at ht⟩

theorem reads_levels (rest : List TokenKind) {pre : List TokenKind} {node : Node}
    (h : LevelClause pre node) :
    Reads (levels (pre ++ rest)) node rest := by
  cases h with
  | @«at» t l h =>
    obtain ⟨h', e⟩ := reads_level (.closeBrace :: rest) h
    simp only [levels, List.cons_append, List.nil_append, e, ok_bind, token_cons, Reading.one]
    exact ⟨_, rfl⟩
  | @between t u first last spelling h h' =>
    obtain ⟨hf, e⟩ := reads_level (.keyword .toWord spelling :: u :: .closeBrace :: rest) h
    obtain ⟨hl, e'⟩ := reads_level (.closeBrace :: rest) h'
    simp only [levels, List.cons_append, List.nil_append, e, ok_bind, e', token_cons, Reading.one]
    exact ⟨_, rfl⟩

/-! ## Members -/

/-- **What is read after a dot is a member.** -/
theorem member_sound {r : Reading ts Node} (h : member ts = .ok r) :
    ∃ pre, ts = pre ++ r.rest ∧ Member pre r.value := by
  unfold member at h
  split at h
  case h_2 =>
    obtain ⟨⟨node, us, hus⟩, hr, h⟩ := bind_eq_ok.mp h
    obtain ⟨pre, e, hpre⟩ := levels_sound hr
    obtain rfl := Except.ok.inj h
    refine ⟨.doubleStar :: .openBrace :: pre, by simp [e], ?_⟩
    cases hpre with
    | «at» hl => exact .anyAt hl
    | between spelling hf hl => exact .anyBetween spelling hf hl
  case h_4 word spelling us =>
    split at h
    next call hc =>
      obtain ⟨r', hr, h⟩ := bind_eq_ok.mp h
      obtain ⟨⟨node, us, hus⟩, ha, hr⟩ := bind_eq_ok.mp hr
      obtain ⟨pre, e, hpre⟩ := arguments_sound hc ha
      obtain ⟨⟨_, vs, hvs⟩, hb, hr⟩ := bind_eq_ok.mp hr
      have e' := token_sound hb
      obtain rfl := Except.ok.inj hr
      obtain rfl := Except.ok.inj h
      exact ⟨.keyword word spelling :: .openParen :: pre ++ [.closeParen], by simp [e, e'],
        .method spelling hpre⟩
    · obtain rfl := Except.ok.inj h
      exact ⟨[_], rfl, .key (.keyword _ _)⟩
  case h_11 => exact absurd h unexpected_ne_ok
  case h_1 => obtain rfl := Except.ok.inj h; exact ⟨[_], rfl, .anyKey⟩
  case h_3 => obtain rfl := Except.ok.inj h; exact ⟨[_], rfl, .any⟩
  all_goals
    obtain rfl := Except.ok.inj h
    exact ⟨[_], rfl, .key (by constructor)⟩

/-- Neither parenthesis nor brace follows, so a member that could go on with one is at its end. -/
def EndsMember (ts : List TokenKind) : Prop :=
  ts.head? ≠ some .openParen ∧ ts.head? ≠ some .openBrace

theorem reads_member {pre : List TokenKind} {node : Node} (h : Member pre node)
    (hr : EndsMember rest) : Reads (member (pre ++ rest)) node rest := by
  cases h with
  | @key t name h =>
    cases h with
    | keyword word spelling =>
      rw [List.cons_append, List.nil_append, member]
      · exact ⟨_, rfl⟩
      · rintro us rfl
        exact hr.1 rfl
    | _ => exact ⟨_, rfl⟩
  | anyKey => exact ⟨_, rfl⟩
  | any =>
    rw [List.cons_append, List.nil_append, member]
    · exact ⟨_, rfl⟩
    · rintro us rfl
      exact hr.2 rfl
  | anyAt h =>
    obtain ⟨h', e⟩ := reads_levels rest (.at h)
    simp only [member, List.cons_append, List.nil_append] at e ⊢
    rw [e]
    exact ⟨_, rfl⟩
  | anyBetween spelling h h' =>
    obtain ⟨h'', e⟩ := reads_levels rest (.between spelling h h')
    simp only [member, List.cons_append, List.nil_append] at e ⊢
    rw [e]
    exact ⟨_, rfl⟩
  | @method word ts node spelling h =>
    obtain ⟨call, hc, h', e⟩ := leaves_arguments rest h
    rw [List.append_assoc]
    simp only [List.cons_append, List.nil_append, member, hc, Call.read, e, ok_bind, token_cons,
      Reading.one]
    exact ⟨_, rfl⟩

end PathExpr.Grammar
