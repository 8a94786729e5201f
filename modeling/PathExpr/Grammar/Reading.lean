import PathExpr.Grammar.Fault

/-!
# PathExpr/Grammar/Reading — results of reading tokens

A reader takes tokens from the front of a list.  Its result, a `Reading`, holds what was read and
the tokens that are left, with a proof that they are fewer, or, for a `Remainder`, that they are no
more.  By these proofs readers that call one another come to an end.  `Reading.after` and
`Reading.within` carry a result over to a longer list.
-/

namespace PathExpr.Grammar

/-- A value read from the front of `ts`, one token at least, and the tokens that are left. -/
structure Reading (ts : List TokenKind) (α : Type) where
  value : α
  rest : List TokenKind
  shorter : rest.length < ts.length

/-- A value read from the front of `ts`, perhaps from no token at all, and the tokens that are
left. -/
structure Remainder (ts : List TokenKind) (α : Type) where
  value : α
  rest : List TokenKind
  noLonger : rest.length ≤ ts.length

namespace Reading

variable {α : Type} {t : TokenKind} {ts rest : List TokenKind}

/-- The value of a single token. -/
def one (value : α) : Reading (t :: ts) α := ⟨value, ts, Nat.lt_succ_self _⟩

/-- What is read after one more token. -/
def after (r : Reading ts α) : Reading (t :: ts) α := ⟨r.value, r.rest, Nat.lt_succ_of_lt r.shorter⟩

/-- What is read from the rest of a list. -/
def within (r : Reading rest α) (h : rest.length < ts.length) : Reading ts α :=
  ⟨r.value, r.rest, Nat.lt_trans r.shorter h⟩

/-- A reading, where reading nothing would do. -/
def weaken (r : Reading ts α) : Remainder ts α := ⟨r.value, r.rest, Nat.le_of_lt r.shorter⟩

@[simp] theorem value_one (a : α) : (one a : Reading (t :: ts) α).value = a := rfl

@[simp] theorem rest_one (a : α) : (one a : Reading (t :: ts) α).rest = ts := rfl

@[simp] theorem value_after (r : Reading ts α) : (r.after : Reading (t :: ts) α).value = r.value :=
  rfl

@[simp] theorem rest_after (r : Reading ts α) : (r.after : Reading (t :: ts) α).rest = r.rest := rfl

@[simp] theorem value_within (r : Reading rest α) (h : rest.length < ts.length) :
    (r.within h).value = r.value := rfl

@[simp] theorem rest_within (r : Reading rest α) (h : rest.length < ts.length) :
    (r.within h).rest = r.rest := rfl

@[simp] theorem value_weaken (r : Reading ts α) : r.weaken.value = r.value := rfl

@[simp] theorem rest_weaken (r : Reading ts α) : r.weaken.rest = r.rest := rfl

end Reading

namespace Remainder

variable {α : Type} {t : TokenKind} {ts rest : List TokenKind}

/-- A value that takes no token. -/
def nothing (value : α) : Remainder ts α := ⟨value, ts, Nat.le_refl _⟩

/-- What is read after one more token. -/
def after (r : Remainder ts α) : Reading (t :: ts) α :=
  ⟨r.value, r.rest, Nat.lt_succ_of_le r.noLonger⟩

/-- What is read from the rest of a list. -/
def within (r : Remainder rest α) (h : rest.length < ts.length) : Reading ts α :=
  ⟨r.value, r.rest, Nat.lt_of_le_of_lt r.noLonger h⟩

@[simp] theorem value_nothing (a : α) : (nothing a : Remainder ts α).value = a := rfl

@[simp] theorem rest_nothing (a : α) : (nothing a : Remainder ts α).rest = ts := rfl

@[simp] theorem value_after (r : Remainder ts α) :
    (r.after : Reading (t :: ts) α).value = r.value := rfl

@[simp] theorem rest_after (r : Remainder ts α) : (r.after : Reading (t :: ts) α).rest = r.rest :=
  rfl

@[simp] theorem value_within (r : Remainder rest α) (h : rest.length < ts.length) :
    (r.within h).value = r.value := rfl

@[simp] theorem rest_within (r : Remainder rest α) (h : rest.length < ts.length) :
    (r.within h).rest = r.rest := rfl

end Remainder

/-! ## Readers of single tokens -/

variable [Regex.Engine]

/-- The fault that the tokens begin with something else than what is wanted. -/
def unexpected {α : Type} (wanted : Wanted) (ts : List TokenKind) : Except Stop α :=
  .error (.fault (.unexpected (ts.head?.getD .finish) wanted) ts.length)

/-- A request for a node, which stops reading if it is a misuse. -/
def built {α : Type} : Except Misuse α → Except Stop α
  | .ok value => .ok value
  | .error m => .error (.misuse m)

/-- A chain with the accessors that follow it. -/
def linked (head : Chain) (accessors : List Node) : Except Stop Chain :=
  built (Chain.link (head :: accessors.map fun node => [node]))

/-- There is always a chain to link, the head. -/
@[simp] theorem linked_eq (head : Chain) (accessors : List Node) :
    linked head accessors = .ok (head ++ accessors) := by
  rw [linked, Chain.link_cons, ← List.flatMap_def, List.flatMap_singleton']
  rfl

/-- Stops if the chain, read with `left` tokens left before it, is no predicate. -/
def wantPredicate (c : Chain) (left : Nat) : Except Stop Unit :=
  if c.isPredicate then .ok () else .error (.fault .valueFound left)

/-- Stops if the chain, read with `left` tokens left before it, is no value. -/
def wantValue (c : Chain) (left : Nat) : Except Stop Unit :=
  if c.isPredicate then .error (.fault .predicateFound left) else .ok ()

/-- The one token `kind`. -/
def token (kind : TokenKind) (ts : List TokenKind) : Except Stop (Reading ts Unit) :=
  match ts with
  | t :: rest => if t = kind then .ok (.one ()) else unexpected (.token kind) (t :: rest)
  | [] => unexpected (.token kind) []

/-- The parenthesis that closes an open one. -/
def closing (ts : List TokenKind) : Except Stop (Reading ts Unit) :=
  match ts with
  | .closeParen :: _ => .ok (.one ())
  | [] => .error (.fault .unbalancedParentheses 0)
  | t :: rest => unexpected (.token .closeParen) (t :: rest)

/-- The node at the head of a chain that does not begin with a parenthesis. -/
def primary (ts : List TokenKind) : Except Stop (Reading ts Node) :=
  match ts with
  | .dollar :: _ => .ok (.one (.constant .root))
  | .atSign :: _ => .ok (.one (.constant .current))
  | .keyword .last _ :: _ => .ok (.one (.constant .last))
  | .trueWord :: _ => .ok (.one (.constant .trueWord))
  | .falseWord :: _ => .ok (.one (.constant .falseWord))
  | .nullWord :: _ => .ok (.one (.constant .nullWord))
  | .string value :: _ => .ok (.one (.string value))
  | .variable name :: _ => .ok (.one (.variable name))
  | .integer literal :: _ => do .ok (.one (← built (Node.ofInteger literal)))
  | .decimal literal :: _ => do .ok (.one (← built (Node.ofNumeric literal)))
  | other => unexpected .head other

end PathExpr.Grammar
