import PathExpr.Proofs.Parse

/-!
# PathExpr/Proofs/Syntax/Graceful — nothing is asked for in vain

A reader may ask for nodes that do not exist: the number of a text that writes none, a method with
three arguments, a sign that is none.  On the tokens of a text it never does (`graceful_whole`).

`Graceful` is what every reader keeps up: whatever is asked for is answered, and the tokens that are
left are again such as texts have.  The proofs follow the recursion of the readers.
-/

namespace PathExpr.Grammar

variable {α β : Type} {ts rest : List TokenKind}

/-! ## Steps -/

/-- No request is in vain, and the answer satisfies `q`. -/
def Ensures (q : α → Prop) : Except Stop α → Prop
  | .ok a => q a
  | .error (.fault _ _) => True
  | .error (.misuse _) => False

theorem Ensures.bind {p : α → Prop} {q : β → Prop} {x : Except Stop α} {f : α → Except Stop β}
    (hx : Ensures p x) (hf : ∀ a, p a → Ensures q (f a)) : Ensures q (x >>= f) := by
  match x with
  | .ok a => exact hf a hx
  | .error (.fault _ _) => trivial

theorem Ensures.ne_misuse {q : α → Prop} {x : Except Stop α} (hx : Ensures q x) (m : Misuse) :
    x ≠ .error (.misuse m) := by
  rintro rfl
  exact hx

theorem ensures_of_eq_ok {q : α → Prop} {x : Except Misuse α} {a : α} (h : x = .ok a) (hq : q a) :
    Ensures q (built x) := by
  rw [h]
  exact hq

theorem ensures_accepted {left : Nat} (x : Except PatternFault α) :
    Ensures (fun _ => True) (accepted left x) := by
  cases x <;> trivial

/-! ## Readers of single tokens -/

/-- The reader asks for nothing in vain and leaves tokens that texts have. -/
def Graceful (x : Except Stop (Reading ts α)) : Prop := Ensures (fun r => AllGenuine r.rest) x

/-- …also if it may take no token. -/
def GracefulRemainder (x : Except Stop (Remainder ts α)) : Prop :=
  Ensures (fun r => AllGenuine r.rest) x

theorem graceful_token (kind : TokenKind) (h : AllGenuine ts) : Graceful (token kind ts) := by
  unfold token
  split
  · split
    · exact h.tail
    · trivial
  · trivial

theorem graceful_closing (h : AllGenuine ts) : Graceful (closing ts) := by
  unfold closing
  split
  · exact h.tail
  · trivial
  · trivial

theorem graceful_level (h : AllGenuine ts) : Graceful (level ts) := by
  unfold level
  split
  · exact h.tail
  · split
    · exact h.tail
    · trivial
  · trivial

variable [Regex.Engine]

theorem ensures_wantPredicate (c : Chain) (left : Nat) :
    Ensures (fun _ => True) (wantPredicate c left) := by
  unfold wantPredicate
  split <;> trivial

theorem ensures_wantValue (c : Chain) (left : Nat) :
    Ensures (fun _ => True) (wantValue c left) := by
  unfold wantValue
  split <;> trivial

/-- **An integer token of a text is an integer.** -/
theorem ensures_ofInteger {literal : String} (h : (TokenKind.integer literal).Genuine) :
    Ensures (fun node => ∃ i, node = .integer i) (built (Node.ofInteger literal)) := by
  obtain ⟨i, hi, -⟩ := h
  exact ensures_of_eq_ok (Node.ofInteger_eq_ok.mpr ⟨i, hi, rfl⟩) ⟨i, rfl⟩

/-- **A decimal token of a text is a decimal number.** -/
theorem ensures_ofNumeric {literal : String} (h : (TokenKind.decimal literal).Genuine) :
    Ensures (fun node => ∃ n, node = .numeric n) (built (Node.ofNumeric literal)) := by
  obtain ⟨n, hn, -⟩ := h
  exact ensures_of_eq_ok (Node.ofNumeric_eq_ok.mpr ⟨n, hn, rfl⟩) ⟨n, rfl⟩

/-- **A plus or a minus may stand before any value**, as every number has an opposite or stays as it
is. -/
theorem ensures_fold {t : TokenKind} {sign : UnaryOperator} (ht : SignToken t sign) (c : Chain) :
    Ensures (fun _ => True) (built (c.fold sign)) := by
  obtain ⟨whole, hw⟩ := exists_folded ht c
  exact ensures_of_eq_ok (fold_eq_ok.mpr hw) trivial

theorem graceful_primary (h : AllGenuine ts) : Graceful (primary ts) := by
  unfold primary
  split
  case h_9 => exact (ensures_ofInteger h.head).bind fun _ _ => h.tail
  case h_10 => exact (ensures_ofNumeric h.head).bind fun _ _ => h.tail
  case h_11 => trivial
  all_goals exact h.tail

/-! ## Members -/

theorem graceful_signedInteger (h : AllGenuine ts) : Graceful (signedInteger ts) := by
  unfold signedInteger
  split
  case h_1 =>
    exact (ensures_ofInteger h.tail.head).bind fun _ _ =>
      (ensures_fold .plus _).bind fun _ _ => h.tail.tail
  case h_2 =>
    exact (ensures_ofInteger h.tail.head).bind fun _ _ =>
      (ensures_fold .minus _).bind fun _ _ => h.tail.tail
  case h_3 => exact (ensures_ofInteger h.head).bind fun _ _ => h.tail
  all_goals trivial

/-- **No method gets more than two arguments.** -/
theorem ensures_decimalArguments (h : AllGenuine ts) :
    Ensures (fun r => r.value.length ≤ 2 ∧ AllGenuine r.rest) (decimalArguments ts) := by
  unfold decimalArguments
  split
  · exact ⟨Nat.zero_le _, h⟩
  · refine (graceful_signedInteger h).bind fun ⟨precision, us, hus⟩ hp => ?_
    dsimp only at hp ⊢
    split
    · refine (graceful_signedInteger hp.tail).bind fun ⟨scale, vs, hvs⟩ hs => ?_
      dsimp only at hs ⊢
      split
      · trivial
      · exact ⟨Nat.le_refl _, hs⟩
    · exact ⟨by simp, hp⟩

theorem exists_decimal {arguments : List Chain} (h : arguments.length ≤ 2) :
    ∃ node, Node.decimal arguments = .ok node := by
  match arguments with
  | [] => exact ⟨_, rfl⟩
  | [_] => exact ⟨_, rfl⟩
  | [_, _] => exact ⟨_, rfl⟩
  | _ :: _ :: _ :: _ => simp at h

theorem graceful_arguments (call : Call) (h : AllGenuine ts) :
    GracefulRemainder (call.arguments ts) := by
  cases call with
  | plain method => exact h
  | decimal =>
    refine (ensures_decimalArguments h).bind fun ⟨arguments, us, hus⟩ ⟨hlen, hr⟩ => ?_
    obtain ⟨node, hn⟩ := exists_decimal hlen
    exact (ensures_of_eq_ok (q := fun _ => True) hn trivial).bind fun _ _ => hr
  | template =>
    have hs : GracefulRemainder (optionalString ts) := by
      unfold optionalString
      split
      · exact h.tail
      · exact h
    exact hs.bind fun _ hr => hr
  | precision operator =>
    have hi : GracefulRemainder (optionalInteger ts) := by
      unfold optionalInteger
      split
      · exact (ensures_ofInteger h.head).bind fun _ _ => h.tail
      · exact h
    exact hi.bind fun _ hr => hr

theorem graceful_levels (h : AllGenuine ts) : Graceful (levels ts) := by
  refine (graceful_level h).bind fun ⟨first, us, hus⟩ hf => ?_
  dsimp only at hf ⊢
  split
  · exact (graceful_level hf.tail).bind fun _ hl =>
      (graceful_token .closeBrace hl).bind fun _ hr => hr
  · exact (graceful_token .closeBrace hf).bind fun _ hr => hr

theorem graceful_member (h : AllGenuine ts) : Graceful (member ts) := by
  unfold member
  split
  case h_2 => exact (graceful_levels h.tail.tail).bind fun _ hr => hr
  case h_4 =>
    split
    next call _ =>
      have hread : Graceful (call.read _) := (graceful_arguments call h.tail.tail).bind fun _ ha =>
        (graceful_token .closeParen ha).bind fun _ hr => hr
      exact hread.bind fun _ hr => hr
    · exact h.tail
  case h_11 => trivial
  all_goals exact h.tail

/-! ## Pattern tests and the like -/

theorem graceful_startsWith (start : Nat) (left : Chain) (h : AllGenuine ts) :
    Graceful (startsWith start left ts) := by
  unfold startsWith
  split
  case h_1 | h_2 => exact (ensures_wantValue _ _).bind fun _ _ => h.tail.tail
  case h_3 => exact (ensures_wantValue _ _).bind fun _ _ => trivial
  case h_4 => trivial

theorem graceful_likeRegex (start : Nat) (left : Chain) (h : AllGenuine ts) :
    Graceful (likeRegex start left ts) := by
  have hflags : ∀ {us}, AllGenuine us → GracefulRemainder (flags us) := by
    intro us h
    unfold flags
    split
    · exact (ensures_accepted _).bind fun _ _ => h.tail.tail
    · trivial
    · exact h
  unfold likeRegex
  split
  · exact (ensures_wantValue _ _).bind fun _ _ => (hflags h.tail).bind fun _ hr =>
      (ensures_accepted _).bind fun _ _ => hr
  · exact (ensures_wantValue _ _).bind fun _ _ => trivial

theorem graceful_unknownTest (start : Nat) (inner : Chain) (h : AllGenuine ts) :
    Graceful (unknownTest start inner ts) := by
  unfold unknownTest
  split
  · split
    · exact h.tail
    · trivial
  · trivial

/-! ## Expressions -/

mutual

theorem graceful_expression (bound : Nat) (ts : List TokenKind) (h : AllGenuine ts) :
    Graceful (expression bound ts) := by
  rw [expression]
  refine (graceful_operand ts h).bind fun ⟨left, us, hus⟩ hl => ?_
  exact (graceful_operators bound ts.length left us hl).bind fun _ hr => hr
termination_by 4 * ts.length + 1

theorem graceful_operators (bound start : Nat) (left : Chain) (ts : List TokenKind)
    (h : AllGenuine ts) : GracefulRemainder (operators bound start left ts) := by
  rw [operators.eq_def]
  split
  · exact h
  · split
    · exact h
    · split
      · exact h
      next us _ operation _ _ =>
        refine (graceful_application operation start left us h.tail).bind
          fun ⟨whole, vs, hvs⟩ ha => ?_
        exact (graceful_operators bound start whole vs ha).bind fun _ hr => hr
termination_by 4 * ts.length
decreasing_by
  all_goals subst_vars
  all_goals simp only [List.length_cons] at *
  all_goals omega

theorem graceful_application (operation : Operation) (start : Nat) (left : Chain)
    (ts : List TokenKind) (h : AllGenuine ts) :
    Graceful (application operation start left ts) := by
  cases operation with
  | predicates operator =>
    rw [application]
    exact (ensures_wantPredicate _ _).bind fun _ _ =>
      (graceful_expression _ ts h).bind fun _ hr =>
        (ensures_wantPredicate _ _).bind fun _ _ => hr
  | values operator =>
    rw [application]
    exact (ensures_wantValue _ _).bind fun _ _ =>
      (graceful_expression _ ts h).bind fun _ hr =>
        (ensures_wantValue _ _).bind fun _ _ => hr
  | startsWith =>
    rw [application]
    exact graceful_startsWith start left h
  | likeRegex =>
    rw [application]
    exact graceful_likeRegex start left h
termination_by 4 * ts.length + 2

theorem graceful_operand (ts : List TokenKind) (h : AllGenuine ts) : Graceful (operand ts) := by
  rw [operand.eq_def]
  split
  case h_1 us => exact (graceful_signed .plus us h.tail).bind fun _ hr => hr
  case h_2 us => exact (graceful_signed .minus us h.tail).bind fun _ hr => hr
  case h_3 us => exact (graceful_predicate us h.tail.tail).bind fun _ hr => hr
  case h_4 us => exact (graceful_existence us h.tail.tail).bind fun _ hr => hr
  case h_5 => trivial
  case h_6 us => exact (graceful_group us h.tail).bind fun _ hr => hr
  case h_7 us => exact (graceful_existence us h.tail).bind fun _ hr => hr
  case h_8 =>
    refine (graceful_primary h).bind fun ⟨head, us, hus⟩ hp => ?_
    refine (graceful_accessors us hp).bind fun ⟨more, vs, hvs⟩ ha => ?_
    simp only [linked_eq]
    exact ha
termination_by 4 * ts.length

/-- Only a plus and a minus are folded into values. -/
theorem graceful_signed {t : TokenKind} {sign : UnaryOperator} (ht : SignToken t sign)
    (ts : List TokenKind) (h : AllGenuine ts) : Graceful (signed sign ts) := by
  rw [signed]
  exact (graceful_operand ts h).bind fun _ hr => (ensures_wantValue _ _).bind fun _ _ =>
    (ensures_fold ht _).bind fun _ _ => hr
termination_by 4 * ts.length + 1

/-- A chain is linked to a head, and so never from nothing. -/
theorem graceful_group (ts : List TokenKind) (h : AllGenuine ts) : Graceful (group ts) := by
  rw [group]
  refine (graceful_expression 0 ts h).bind fun ⟨inner, us, hus⟩ he => ?_
  refine (graceful_closing he).bind fun ⟨_, vs, hvs⟩ hc => ?_
  dsimp only at hvs hc ⊢
  split
  · exact (graceful_unknownTest _ _ hc.tail).bind fun _ hr => hr
  · refine (graceful_accessors vs hc).bind fun ⟨more, ws, hws⟩ ha => ?_
    simp only [linked_eq]
    exact ha
termination_by 4 * ts.length + 2

theorem graceful_predicate (ts : List TokenKind) (h : AllGenuine ts) :
    Graceful (predicate ts) := by
  rw [predicate]
  exact (graceful_expression 0 ts h).bind fun _ he => (ensures_wantPredicate _ _).bind fun _ _ =>
    (graceful_closing he).bind fun _ hr => hr
termination_by 4 * ts.length + 2

theorem graceful_existence (ts : List TokenKind) (h : AllGenuine ts) :
    Graceful (existence ts) := by
  rw [existence]
  refine (graceful_token .openParen h).bind fun ⟨_, us, hus⟩ ho => ?_
  exact (graceful_expression 0 us ho).bind fun _ he => (ensures_wantValue _ _).bind fun _ _ =>
    (graceful_closing he).bind fun _ hr => hr
termination_by 4 * ts.length

theorem graceful_accessors (ts : List TokenKind) (h : AllGenuine ts) :
    GracefulRemainder (accessors ts) := by
  rw [accessors.eq_def]
  split
  case h_1 =>
    refine (graceful_member h.tail).bind fun ⟨node, us, hus⟩ hm => ?_
    exact (graceful_accessors us hm).bind fun _ hr => hr
  case h_2 us =>
    exact (graceful_accessors us h.tail.tail.tail).bind fun _ hr => hr
  case h_3 us _ =>
    refine (graceful_subscripts (us.length + 1) us h.tail).bind fun ⟨items, vs, hvs⟩ hi => ?_
    exact (graceful_accessors vs hi).bind fun _ hr => hr
  case h_4 =>
    refine (graceful_token .openParen h.tail).bind fun ⟨_, us, hus⟩ ho => ?_
    refine (graceful_predicate us ho).bind fun ⟨inner, vs, hvs⟩ hp => ?_
    exact (graceful_accessors vs hp).bind fun _ hr => hr
  case h_5 => exact h
termination_by 4 * ts.length
decreasing_by
  all_goals subst_vars
  all_goals simp only [List.length_cons] at *
  all_goals omega

theorem graceful_subscripts (opened : Nat) (ts : List TokenKind) (h : AllGenuine ts) :
    Graceful (subscripts opened ts) := by
  rw [subscripts]
  refine (graceful_subscript ts h).bind fun ⟨item, us, hus⟩ hi => ?_
  dsimp only at hus hi ⊢
  split
  next vs hvs =>
    have hlt : vs.length < ts.length := Nat.lt_trans (Nat.lt_succ_self _) hvs
    exact (graceful_subscripts opened vs hi.tail).bind fun _ hr => hr
  · exact hi.tail
  · trivial
  · trivial
termination_by 4 * ts.length + 3

theorem graceful_subscript (ts : List TokenKind) (h : AllGenuine ts) :
    Graceful (subscript ts) := by
  rw [subscript]
  refine (graceful_expression 0 ts h).bind fun ⟨first, us, hus⟩ hf => ?_
  refine (ensures_wantValue _ _).bind fun _ _ => ?_
  dsimp only at hus hf ⊢
  split
  next spelling vs hvs =>
    have hlt : vs.length < ts.length := Nat.lt_trans (Nat.lt_succ_self _) hvs
    exact (graceful_expression 0 vs hf.tail).bind fun _ hl =>
      (ensures_wantValue _ _).bind fun _ _ => hl
  · exact hf
termination_by 4 * ts.length + 2

end

/-! ## Paths -/

/-- **On tokens that texts have, nothing is asked for in vain.** -/
theorem graceful_whole (h : AllGenuine ts) : Ensures (fun _ => True) (whole ts) := by
  have hmode : AllGenuine (mode ts).2 := by
    rw [mode.eq_def]
    split
    · exact h.tail
    · exact h.tail
    · exact h
  have hcomplete : Ensures (fun _ => True) (complete (mode ts).2) := by
    refine (graceful_expression 0 _ hmode).bind fun reading _ => ?_
    obtain ⟨root, us, hus⟩ := reading
    dsimp only
    split <;> trivial
  unfold whole
  cases hx : complete (mode ts).2 with
  | ok root => trivial
  | error stop =>
    cases stop with
    | fault => trivial
    | misuse m => exact absurd hx (hcomplete.ne_misuse m)

end PathExpr.Grammar
