import PathExpr.Proofs.Printing.Pieces
import PathExpr.Proofs.Reports
import PathExpr.Proofs.Syntax.Parts
import PathExpr.Regex.Test

/-!
# PathExpr/Proofs/Syntax/Progress — readers get on, and stop

The readers of a path call one another.  Each call is on fewer tokens or has a lower rank, as their
definitions say, so every call comes to an end; and what it leaves is an end of what it was given.
In terms of places among the tokens: a reader that succeeds goes on to a later place, no later than
the end of the path (`readers_get_on`), and `expression bound` goes on as long as the operator at
the place binds more tightly than `bound`.

For the reader of expressions this does not follow from what it reads, since it is called for any
bound and any left operand, so the recursion is taken up once more (`rest_of_expression`).
-/

namespace PathExpr

/-! ## Places -/

namespace Stream

/-- The kinds of the tokens from the place `i` on. -/
def kindsFrom (s : Stream) (i : Nat) : List TokenKind := (s.tokens.drop i).map Token.kind

/-- The token at the place `i`; that for the end, from there on. -/
def tokenAt (s : Stream) (i : Nat) : Token := s.tokens.getD i s.finish

/-- What is left begins at a later place than `i`, and no later than the end. -/
def Beyond (s : Stream) (i : Nat) (rest : List TokenKind) : Prop :=
  ∃ j, i < j ∧ j ≤ s.tokens.length ∧ rest = s.kindsFrom j

/-- …or still at the place `i`. -/
def NotBefore (s : Stream) (i : Nat) (rest : List TokenKind) : Prop :=
  rest = s.kindsFrom i ∨ s.Beyond i rest

variable {s : Stream} {i j : Nat} {rest : List TokenKind}

@[simp] theorem length_kindsFrom (s : Stream) (i : Nat) :
    (s.kindsFrom i).length = s.tokens.length - i := by
  simp [kindsFrom]

theorem kindsFrom_eq_drop (s : Stream) (i : Nat) :
    s.kindsFrom i = (s.tokens.map Token.kind).drop i :=
  List.map_drop

theorem suffix_kindsFrom (s : Stream) (i : Nat) : s.kindsFrom i <:+ s.tokens.map Token.kind := by
  rw [kindsFrom_eq_drop]
  exact List.drop_suffix _ _

theorem eq_tokenStream {text : String} (h : tokens? text = .ok s) : s = tokenStream text := by
  rcases tokens?_cases text with ⟨-, ht⟩ | ⟨f, more, -, ht⟩
  · exact Except.ok.inj (h.symm.trans ht)
  · cases h.symm.trans ht

/-- The token at a place is the first of those from there on, if any is left. -/
theorem kind_tokenAt (hk : s.finish.kind = .finish) (j : Nat) :
    (s.tokenAt j).kind = (s.kindsFrom j).head?.getD .finish := by
  rw [tokenAt, kindsFrom, List.head?_map, List.head?_drop, List.getD_eq_getElem?_getD]
  cases s.tokens[j]? with
  | none => exact hk
  | some t => rfl

/-- **An end of the tokens is what is left from some place on.** -/
theorem beyond_of_suffix (h : rest <:+ s.kindsFrom i) (hlt : rest.length < (s.kindsFrom i).length) :
    s.Beyond i rest := by
  have hrest := List.suffix_iff_eq_drop.mp (h.trans (s.suffix_kindsFrom i))
  rw [List.length_map, ← kindsFrom_eq_drop] at hrest
  rw [length_kindsFrom] at hlt
  exact ⟨s.tokens.length - rest.length, by omega, Nat.sub_le _ _, hrest⟩

theorem notBefore_of_suffix (h : rest <:+ s.kindsFrom i) : s.NotBefore i rest := by
  rcases Nat.lt_or_ge rest.length (s.kindsFrom i).length with hlt | hge
  · exact .inr (beyond_of_suffix h hlt)
  · exact .inl (h.eq_of_length_le hge)

end Stream

namespace Grammar

variable {α : Type} {ts rest : List TokenKind} {s : Stream} {i : Nat}

/-- How tightly a token binds as an operator between two operands; 0 if it is none. -/
def precedence (t : TokenKind) : Nat :=
  match Operation.ofToken? t with
  | none => 0
  | some operation => operation.priority + 1

theorem stops_iff {bound : Nat} :
    Stops bound ts ↔ precedence (ts.head?.getD .finish) ≤ bound := by
  cases ts with
  | nil => simp [Stops, precedence, Operation.ofToken?]
  | cons t ts =>
    simp only [Stops, nextOperation_cons, List.head?_cons, Option.getD_some, precedence]
    cases Operation.ofToken? t with
    | none => simp
    | some operation => exact ⟨fun h => h _ rfl, fun h _ ho => Option.some.inj ho ▸ h⟩

/-! ## Readers that ask for nothing in vain

On tokens that texts have, a reader stops at a fault or leaves an end of what it was given. -/

theorem Ensures.of_eq_ok {p q : α → Prop} {x : Except Stop α} (hx : Ensures p x)
    (hq : ∀ a, x = .ok a → q a) : Ensures q x := by
  match x with
  | .ok a => exact hq a rfl
  | .error (.fault _ _) => trivial

theorem Ensures.apply {p : α → Prop} {x : Except Stop α} {a : α} (hx : Ensures p x)
    (e : x = .ok a) : p a := by
  subst e
  exact hx

theorem Ensures.mono {p q : α → Prop} {x : Except Stop α} (hx : Ensures p x)
    (hq : ∀ a, p a → q a) : Ensures q x := by
  match x with
  | .ok a => exact hq a hx
  | .error (.fault _ _) => trivial

/-- The reader asks for nothing in vain and leaves an end of the tokens. -/
def Trims (x : Except Stop (Reading ts α)) : Prop := Ensures (fun r => r.rest <:+ ts) x

/-- …also if it may take no token. -/
def TrimsRemainder (x : Except Stop (Remainder ts α)) : Prop := Ensures (fun r => r.rest <:+ ts) x

/-- What has been read stands before what is left, whatever else is known of it. -/
theorem Graceful.trims {x : Except Stop (Reading ts α)} {P : List TokenKind → Reading ts α → Prop}
    (hx : Graceful x) (hs : ∀ r, x = .ok r → ∃ pre, ts = pre ++ r.rest ∧ P pre r) : Trims x := by
  refine hx.of_eq_ok fun r e => ?_
  obtain ⟨pre, e, -⟩ := hs r e
  exact ⟨pre, e.symm⟩

theorem Ensures.trims {q : Remainder ts α → Prop} {x : Except Stop (Remainder ts α)}
    {P : List TokenKind → Remainder ts α → Prop} (hx : Ensures q x)
    (hs : ∀ r, x = .ok r → ∃ pre, ts = pre ++ r.rest ∧ P pre r) : TrimsRemainder x := by
  refine hx.of_eq_ok fun r e => ?_
  obtain ⟨pre, e, -⟩ := hs r e
  exact ⟨pre, e.symm⟩

theorem genuine_of_suffix (h : AllGenuine ts) (hs : rest <:+ ts) : AllGenuine rest :=
  fun t ht => h t (hs.subset ht)

theorem suffix_cons_of {t : TokenKind} (h : rest <:+ ts) : rest <:+ t :: ts :=
  h.trans (List.suffix_cons t ts)

theorem trims_token (kind : TokenKind) (h : AllGenuine ts) : Trims (token kind ts) :=
  (graceful_token kind h).of_eq_ok fun _ e => ⟨[_], (token_sound e).symm⟩

theorem trims_closing (h : AllGenuine ts) : Trims (closing ts) :=
  (graceful_closing h).of_eq_ok fun _ e => ⟨[_], (closing_sound e).symm⟩

theorem trims_level (h : AllGenuine ts) : Trims (level ts) :=
  (graceful_level h).of_eq_ok fun _ e =>
    have ⟨t, e, _⟩ := level_sound e
    ⟨[t], e.symm⟩

theorem trims_flags (ts : List TokenKind) : TrimsRemainder (flags ts) := by
  unfold flags
  split
  · exact (ensures_accepted _).bind fun _ _ => ⟨[_, _], rfl⟩
  · trivial
  · exact List.suffix_refl _

/-! ## Places after readers -/

/-- The reader, begun at the place `i`, tells a fault or goes on to a later place, the end at
most. -/
def Advances (s : Stream) (i : Nat) (x : Except Stop (Reading (s.kindsFrom i) α)) : Prop :=
  Ensures (fun r => s.Beyond i r.rest) x

/-- …or stays at the place. -/
def Keeps (s : Stream) (i : Nat) (x : Except Stop (Remainder (s.kindsFrom i) α)) : Prop :=
  Ensures (fun r => s.NotBefore i r.rest) x

theorem Trims.advances {x : Except Stop (Reading (s.kindsFrom i) α)} (h : Trims x) :
    Advances s i x :=
  h.mono fun r hr => Stream.beyond_of_suffix hr r.shorter

theorem TrimsRemainder.keeps {x : Except Stop (Remainder (s.kindsFrom i) α)}
    (h : TrimsRemainder x) : Keeps s i x :=
  h.mono fun _ hr => Stream.notBefore_of_suffix hr

/-- **At the end of the path** there is nothing to go on to, and so a fault is told. -/
theorem Advances.exists_fault {x : Except Stop (Reading (s.kindsFrom i) α)} (h : Advances s i x)
    (hi : s.tokens.length ≤ i) : ∃ fault left, x = .error (.fault fault left) := by
  match x with
  | .ok r =>
    obtain ⟨j, hij, hj, -⟩ := h
    omega
  | .error (.fault fault left) => exact ⟨fault, left, rfl⟩

section

variable [Regex.Engine]

/-! ## What is left is an end of what was given -/

theorem rest_of_startsWith {start : Nat} {left : Chain} {r : Reading ts Chain}
    (h : startsWith start left ts = .ok r) : r.rest <:+ ts := by
  unfold startsWith at h
  split at h
  case h_1 | h_2 =>
    obtain ⟨_, -, h⟩ := bind_eq_ok.mp h
    obtain rfl := Except.ok.inj h
    exact ⟨[_, _], rfl⟩
  case h_3 =>
    obtain ⟨_, -, h⟩ := bind_eq_ok.mp h
    exact absurd h unexpected_ne_ok
  case h_4 => exact absurd h unexpected_ne_ok

theorem rest_of_likeRegex {start : Nat} {left : Chain} {r : Reading ts Chain}
    (h : likeRegex start left ts = .ok r) : r.rest <:+ ts := by
  unfold likeRegex at h
  split at h
  next pattern rest =>
    obtain ⟨_, -, h⟩ := bind_eq_ok.mp h
    obtain ⟨fs, hf, h⟩ := bind_eq_ok.mp h
    obtain ⟨test, -, h⟩ := bind_eq_ok.mp h
    obtain rfl := Except.ok.inj h
    obtain ⟨pre, e, -⟩ := flags_sound hf
    exact (suffix_of_eq (List.suffix_refl _) e).trans (List.suffix_cons _ _)
  · obtain ⟨_, -, h⟩ := bind_eq_ok.mp h
    exact absurd h unexpected_ne_ok

mutual

/-- **An expression of any bound stops before an operator that does not bind more tightly.** -/
theorem rest_of_expression (bound : Nat) (ts : List TokenKind) {r : Reading ts Chain}
    (h : expression bound ts = .ok r) : r.rest <:+ ts ∧ Stops bound r.rest := by
  rw [expression] at h
  obtain ⟨⟨left, us, hus⟩, hl, h⟩ := bind_eq_ok.mp h
  obtain ⟨pre, e, -⟩ := (sound ts).operand hl
  obtain ⟨whole, hw, h⟩ := bind_eq_ok.mp h
  obtain rfl := Except.ok.inj h
  obtain ⟨hrest, hstop⟩ := rest_of_operators bound ts.length left us hw
  exact ⟨hrest.trans (suffix_of_eq (List.suffix_refl _) e), hstop⟩
termination_by 4 * ts.length + 1

theorem rest_of_operators (bound start : Nat) (left : Chain) (ts : List TokenKind)
    {r : Remainder ts Chain} (h : operators bound start left ts = .ok r) :
    r.rest <:+ ts ∧ Stops bound r.rest := by
  rw [operators.eq_def] at h
  split at h
  · obtain rfl := Except.ok.inj h
    exact ⟨List.suffix_refl _, fun o ho => nomatch ho⟩
  next t us =>
  split at h
  next ho =>
    obtain rfl := Except.ok.inj h
    exact ⟨List.suffix_refl _, fun o ho' => nomatch ho.symm.trans ho'⟩
  next operation ho =>
  split at h
  next hlt =>
    obtain rfl := Except.ok.inj h
    refine ⟨List.suffix_refl _, fun o ho' => ?_⟩
    obtain rfl := Option.some.inj (ho.symm.trans ho')
    exact hlt
  next =>
    obtain ⟨⟨whole, vs, hvs⟩, ha, h⟩ := bind_eq_ok.mp h
    obtain ⟨more, hm, h⟩ := bind_eq_ok.mp h
    obtain rfl := Except.ok.inj h
    obtain ⟨hrest, hstop⟩ := rest_of_operators bound start whole vs hm
    exact ⟨(hrest.trans (rest_of_application operation start left us ha)).trans
      (List.suffix_cons t us), hstop⟩
termination_by 4 * ts.length
decreasing_by
  all_goals subst_vars
  all_goals simp only [List.length_cons] at *
  all_goals omega

theorem rest_of_application (operation : Operation) (start : Nat) (left : Chain)
    (ts : List TokenKind) {r : Reading ts Chain} (h : application operation start left ts = .ok r) :
    r.rest <:+ ts := by
  cases operation with
  | predicates operator | values operator =>
    rw [application] at h
    obtain ⟨_, -, h⟩ := bind_eq_ok.mp h
    obtain ⟨right, hr, h⟩ := bind_eq_ok.mp h
    obtain ⟨_, -, h⟩ := bind_eq_ok.mp h
    obtain rfl := Except.ok.inj h
    exact (rest_of_expression _ ts hr).1
  | startsWith =>
    rw [application] at h
    exact rest_of_startsWith h
  | likeRegex =>
    rw [application] at h
    exact rest_of_likeRegex h
termination_by 4 * ts.length + 2

end

/-! ## Heads and members -/

theorem trims_primary (h : AllGenuine ts) : Trims (primary ts) :=
  (graceful_primary h).of_eq_ok fun _ e =>
    have ⟨t, e, _⟩ := primary_sound e
    ⟨[t], e.symm⟩

theorem trims_signedInteger (h : AllGenuine ts) : Trims (signedInteger ts) :=
  (graceful_signedInteger h).trims fun _ => signedInteger_sound

theorem trims_decimalArguments (h : AllGenuine ts) : TrimsRemainder (decimalArguments ts) :=
  (ensures_decimalArguments h).trims fun _ => decimalArguments_sound

theorem trims_optionalString (ts : List TokenKind) : TrimsRemainder (optionalString ts) := by
  unfold optionalString
  split
  · exact List.suffix_cons _ _
  · exact List.suffix_refl _

theorem trims_optionalInteger (h : AllGenuine ts) : TrimsRemainder (optionalInteger ts) := by
  unfold optionalInteger
  split
  · exact (ensures_ofInteger h.head).bind fun _ _ => List.suffix_cons _ _
  · exact List.suffix_refl _

theorem trims_arguments (call : Call) (h : AllGenuine ts) :
    TrimsRemainder (call.arguments ts) := by
  refine (graceful_arguments call h).of_eq_ok fun r e => ?_
  cases call with
  | plain method =>
    obtain rfl := Except.ok.inj e
    exact List.suffix_refl _
  | decimal =>
    obtain ⟨_, ha, e⟩ := bind_eq_ok.mp e
    obtain ⟨_, -, e⟩ := bind_eq_ok.mp e
    obtain rfl := Except.ok.inj e
    exact (trims_decimalArguments h).apply ha
  | template =>
    obtain ⟨_, ha, e⟩ := bind_eq_ok.mp e
    obtain rfl := Except.ok.inj e
    exact (trims_optionalString ts).apply ha
  | precision operator =>
    obtain ⟨_, ha, e⟩ := bind_eq_ok.mp e
    obtain rfl := Except.ok.inj e
    exact (trims_optionalInteger h).apply ha

theorem trims_read (call : Call) (h : AllGenuine ts) : Trims (call.read ts) :=
  (trims_arguments call h).bind fun _ hr =>
    (trims_token .closeParen (genuine_of_suffix h hr)).bind fun _ hr' => hr'.trans hr

/-- Nothing is taken, if no method is answered with. -/
theorem ensures_method? (word : Keyword) (h : AllGenuine ts) :
    Ensures (fun r => r.value = none ∧ r.rest = ts ∨ r.rest <:+ ts ∧ r.rest.length < ts.length)
      (method? word ts) := by
  unfold method?
  split
  · split
    · exact (trims_read _ h.tail).bind fun r hr =>
        .inr ⟨suffix_cons_of hr, Nat.lt_succ_of_lt r.shorter⟩
    · exact .inl ⟨rfl, rfl⟩
  · exact .inl ⟨rfl, rfl⟩

theorem trims_levels (h : AllGenuine ts) : Trims (levels ts) :=
  (graceful_levels h).trims fun _ => levels_sound

theorem trims_anyLevels (h : AllGenuine ts) : TrimsRemainder (anyLevels ts) := by
  unfold anyLevels
  split
  · exact (trims_levels h.tail).bind fun _ hr => suffix_cons_of hr
  · exact List.suffix_refl _

theorem trims_member (h : AllGenuine ts) : Trims (member ts) :=
  (graceful_member h).trims fun _ => member_sound

/-! ## Pattern tests and the like -/

theorem trims_startsWith (start : Nat) (left : Chain) (h : AllGenuine ts) :
    Trims (startsWith start left ts) :=
  (graceful_startsWith start left h).of_eq_ok fun _ => rest_of_startsWith

theorem trims_likeRegex (start : Nat) (left : Chain) (h : AllGenuine ts) :
    Trims (likeRegex start left ts) :=
  (graceful_likeRegex start left h).of_eq_ok fun _ => rest_of_likeRegex

theorem trims_unknownTest (start : Nat) (inner : Chain) (h : AllGenuine ts) :
    Trims (unknownTest start inner ts) := by
  refine (graceful_unknownTest start inner h).of_eq_ok fun r e => ?_
  obtain ⟨spelling, e, -⟩ := unknownTest_sound e
  exact ⟨[_], e.symm⟩

/-! ## Expressions -/

theorem trims_expression (bound : Nat) (h : AllGenuine ts) : Trims (expression bound ts) :=
  (graceful_expression bound ts h).of_eq_ok fun _ e => (rest_of_expression bound ts e).1

theorem trims_operators (bound start : Nat) (left : Chain) (h : AllGenuine ts) :
    TrimsRemainder (operators bound start left ts) :=
  (graceful_operators bound start left ts h).of_eq_ok fun _ e =>
    (rest_of_operators bound start left ts e).1

theorem trims_application (operation : Operation) (start : Nat) (left : Chain)
    (h : AllGenuine ts) : Trims (application operation start left ts) :=
  (graceful_application operation start left ts h).of_eq_ok fun _ =>
    rest_of_application operation start left ts

theorem trims_operand (h : AllGenuine ts) : Trims (operand ts) :=
  (graceful_operand ts h).trims fun _ e => (sound ts).operand e

theorem trims_signed {t : TokenKind} {sign : UnaryOperator} (ht : SignToken t sign)
    (h : AllGenuine ts) : Trims (signed sign ts) := by
  refine (graceful_signed ht ts h).of_eq_ok fun r e => ?_
  obtain ⟨pre, _, e, -⟩ := (sound ts).signed e
  exact ⟨pre, e.symm⟩

theorem trims_group (h : AllGenuine ts) : Trims (group ts) :=
  (graceful_group ts h).trims fun _ e => (sound ts).group e

theorem trims_predicate (h : AllGenuine ts) : Trims (predicate ts) := by
  refine (graceful_predicate ts h).of_eq_ok fun r e => ?_
  obtain ⟨pre, e, -⟩ := (sound ts).predicate e
  exact suffix_of_cons ⟨pre, e.symm⟩

theorem trims_existence (h : AllGenuine ts) : Trims (existence ts) := by
  refine (graceful_existence ts h).of_eq_ok fun r e => ?_
  obtain ⟨pre, _, e, -⟩ := (sound ts).existence e
  exact suffix_of_cons ⟨.openParen :: pre, e.symm⟩

theorem trims_accessors (h : AllGenuine ts) : TrimsRemainder (accessors ts) :=
  (graceful_accessors ts h).trims fun _ e => (sound ts).accessors e

theorem trims_headedChain (h : AllGenuine ts) : Trims (headedChain ts) := by
  refine (trims_primary h).bind fun _ hp => ?_
  refine (trims_accessors (genuine_of_suffix h hp)).bind fun _ ha => ?_
  simp only [linked_eq]
  exact ha.trans hp

theorem trims_negated (h : AllGenuine ts) : Trims (negated ts) := by
  unfold negated
  split
  · exact (trims_predicate h.tail).bind fun _ hr => suffix_cons_of hr
  · exact (trims_existence h.tail).bind fun _ hr => suffix_cons_of hr
  · trivial

/-! ## Accessors -/

theorem trims_subscripts (opened : Nat) (h : AllGenuine ts) : Trims (subscripts opened ts) := by
  refine (graceful_subscripts opened ts h).of_eq_ok fun r e => ?_
  obtain ⟨pre, e, -⟩ := (sound ts).subscripts e
  exact suffix_of_cons ⟨pre, e.symm⟩

theorem trims_subscript (h : AllGenuine ts) : Trims (subscript ts) :=
  (graceful_subscript ts h).trims fun _ e => (sound ts).subscript e

theorem trims_brackets (h : AllGenuine ts) : Trims (brackets ts) := by
  unfold brackets
  split
  · exact ⟨[_, _], rfl⟩
  · exact (trims_subscripts _ h).bind fun _ hr => hr

theorem trims_condition (h : AllGenuine ts) : Trims (condition ts) :=
  (trims_token .openParen h).bind fun _ ho =>
    (trims_predicate (genuine_of_suffix h ho)).bind fun _ hr => hr.trans ho

/-! ## All of the readers -/

/-- What the readers do at the place `i`, and the parts from which they are put together. -/
structure ReadersGetOn (s : Stream) (i : Nat) : Prop where
  mode : s.NotBefore i (mode (s.kindsFrom i)).2
  expression (bound : Nat) : Advances s i (expression bound (s.kindsFrom i))
  /-- An expression of the bound ends before a token that binds no more tightly. -/
  stops (bound : Nat) : ∀ r, Grammar.expression bound (s.kindsFrom i) = .ok r →
    ∀ j, r.rest = s.kindsFrom j → precedence (s.tokenAt j).kind ≤ bound
  operators (bound start : Nat) (left : Chain) :
    Keeps s i (operators bound start left (s.kindsFrom i))
  application (operation : Operation) (start : Nat) (left : Chain) :
    Advances s i (application operation start left (s.kindsFrom i))
  startsWith (start : Nat) (left : Chain) :
    Advances s i (startsWith start left (s.kindsFrom i))
  likeRegex (start : Nat) (left : Chain) : Advances s i (likeRegex start left (s.kindsFrom i))
  flags : Keeps s i (flags (s.kindsFrom i))
  operand : Advances s i (operand (s.kindsFrom i))
  signed {t : TokenKind} {sign : UnaryOperator} (ht : SignToken t sign) :
    Advances s i (signed sign (s.kindsFrom i))
  headedChain : Advances s i (headedChain (s.kindsFrom i))
  negated : Advances s i (negated (s.kindsFrom i))
  group : Advances s i (group (s.kindsFrom i))
  unknownTest (start : Nat) (inner : Chain) :
    Advances s i (unknownTest start inner (s.kindsFrom i))
  predicate : Advances s i (predicate (s.kindsFrom i))
  existence : Advances s i (existence (s.kindsFrom i))
  primary : Advances s i (primary (s.kindsFrom i))
  accessors : Keeps s i (accessors (s.kindsFrom i))
  brackets : Advances s i (brackets (s.kindsFrom i))
  subscripts (opened : Nat) : Advances s i (subscripts opened (s.kindsFrom i))
  subscript : Advances s i (subscript (s.kindsFrom i))
  condition : Advances s i (condition (s.kindsFrom i))
  member : Advances s i (member (s.kindsFrom i))
  anyLevels : Keeps s i (anyLevels (s.kindsFrom i))
  levels : Advances s i (levels (s.kindsFrom i))
  level : Advances s i (level (s.kindsFrom i))
  /-- What is no method takes nothing. -/
  method? (word : Keyword) :
    Ensures (fun r => r.value = none ∧ r.rest = s.kindsFrom i ∨ s.Beyond i r.rest)
      (method? word (s.kindsFrom i))
  read (call : Call) : Advances s i (call.read (s.kindsFrom i))
  decimalArguments : Keeps s i (decimalArguments (s.kindsFrom i))
  optionalString : Keeps s i (optionalString (s.kindsFrom i))
  optionalInteger : Keeps s i (optionalInteger (s.kindsFrom i))
  signedInteger : Advances s i (signedInteger (s.kindsFrom i))
  token (kind : TokenKind) : Advances s i (token kind (s.kindsFrom i))
  closing : Advances s i (closing (s.kindsFrom i))

end

/-- **Readers get on, and stop**, on the tokens of any text, from any place on. -/
theorem readers_get_on [Regex.Engine] {text : String} {s : Stream} (h : tokens? text = .ok s)
    (i : Nat) : ReadersGetOn s i := by
  have hg : AllGenuine (s.kindsFrom i) :=
    genuine_of_suffix (tokens?_eq_ok.mp ⟨s, h, rfl⟩).genuine (s.suffix_kindsFrom i)
  have hk : s.finish.kind = .finish := by
    rw [Stream.eq_tokenStream h]
    exact kind_finish text
  exact {
    mode := Stream.notBefore_of_suffix (suffix_mode _)
    expression := fun bound => (trims_expression bound hg).advances
    stops := fun bound r hr j hj => by
      rw [Stream.kind_tokenAt hk, ← hj, ← stops_iff]
      exact (rest_of_expression bound _ hr).2
    operators := fun bound start left => (trims_operators bound start left hg).keeps
    application := fun operation start left => (trims_application operation start left hg).advances
    startsWith := fun start left => (trims_startsWith start left hg).advances
    likeRegex := fun start left => (trims_likeRegex start left hg).advances
    flags := (trims_flags _).keeps
    operand := (trims_operand hg).advances
    signed := fun ht => (trims_signed ht hg).advances
    headedChain := (trims_headedChain hg).advances
    negated := (trims_negated hg).advances
    group := (trims_group hg).advances
    unknownTest := fun start inner => (trims_unknownTest start inner hg).advances
    predicate := (trims_predicate hg).advances
    existence := (trims_existence hg).advances
    primary := (trims_primary hg).advances
    accessors := (trims_accessors hg).keeps
    brackets := (trims_brackets hg).advances
    subscripts := fun opened => (trims_subscripts opened hg).advances
    subscript := (trims_subscript hg).advances
    condition := (trims_condition hg).advances
    member := (trims_member hg).advances
    anyLevels := (trims_anyLevels hg).keeps
    levels := (trims_levels hg).advances
    level := (trims_level hg).advances
    method? := fun word => (ensures_method? word hg).mono fun r hr =>
      hr.imp_right fun ⟨hs, hlt⟩ => Stream.beyond_of_suffix hs hlt
    read := fun call => (trims_read call hg).advances
    decimalArguments := (trims_decimalArguments hg).keeps
    optionalString := (trims_optionalString _).keeps
    optionalInteger := (trims_optionalInteger hg).keeps
    signedInteger := (trims_signedInteger hg).advances
    token := fun kind => (trims_token kind hg).advances
    closing := (trims_closing hg).advances }

/-- In the text `$.*` the member after the dot is read, and what is left begins beyond it. -/
theorem readers_get_on_member : ∃ s, tokens? "$.*" = .ok s ∧ s.kindsFrom 2 = [.star] ∧
    ReadersGetOn s 2 ∧ s.Beyond 2 [] := by
  have hdot : ∀ rest, Linked ('.' :: rest) := fun _ _ hc =>
    .inr (.inl (Option.some.inj hc).symm)
  have hstar : Spells Linked ['.', '*'] [.dot, .star] := spells_star.dotted fun _ => rfl
  have hspells := spells_dollar.append hstar fun _ _ => hdot _
  have hlexes : Lexes "$.*".toList [.dollar, .dot, .star] := hspells.lexes delimited_nil.linked
  obtain ⟨s, hs, hkinds⟩ := tokens?_eq_ok.mpr hlexes
  have hrest : s.kindsFrom 2 = [.star] := by
    rw [Stream.kindsFrom_eq_drop, hkinds]
    rfl
  have hreaders := readers_get_on hs 2
  have hmember : Ensures (fun r => s.Beyond 2 r.rest) (member (s.kindsFrom 2)) := hreaders.member
  rw [hrest] at hmember
  exact ⟨s, hs, hrest, hreaders, hmember⟩

end Grammar

end PathExpr
