import PathExpr.Grammar.Member

/-!
# PathExpr/Grammar/Expression — expressions

An expression is an operand and the operators that follow it.  Operators of one priority group from
the left, and `expression bound` reads only those whose priority is `bound` at least.  Logical
operators, negations, unknown tests and filters want predicates; all others want values.  What an
operand is shows only when it has been read, so each reader checks its operands afterwards, and the
fault is then at the first token of the operand.

Every reader calls others on fewer tokens, or on the same ones with a lower rank, which stands in
its measure beside the number of tokens.
-/

namespace PathExpr.Grammar

variable [Regex.Engine]

/-- An operator between two operands, by what the operands must be. -/
inductive Operation
  /-- Between two predicates. -/
  | predicates (operator : BinaryOperator)
  /-- Between two values. -/
  | values (operator : BinaryOperator)
  /-- Between a value and a string or variable. -/
  | startsWith
  /-- Between a value and a pattern. -/
  | likeRegex

namespace Operation

/-- The operator that a token stands for. -/
def ofToken? : TokenKind → Option Operation
  | .or => some (.predicates .or)
  | .and => some (.predicates .and)
  | .equal => some (.values .equal)
  | .notEqual => some (.values .notEqual)
  | .less => some (.values .less)
  | .lessEqual => some (.values .lessEqual)
  | .greater => some (.values .greater)
  | .greaterEqual => some (.values .greaterEqual)
  | .plus => some (.values .add)
  | .minus => some (.values .sub)
  | .star => some (.values .mul)
  | .slash => some (.values .div)
  | .percent => some (.values .mod)
  | .keyword .starts _ => some .startsWith
  | .keyword .likeRegex _ => some .likeRegex
  | _ => none

/-- How tightly the operator binds; a pattern test does as other comparisons do. -/
def priority : Operation → Nat
  | predicates operator => operator.priority
  | values operator => operator.priority
  | startsWith => BinaryOperator.startsWith.priority
  | likeRegex => BinaryOperator.startsWith.priority

end Operation

/-- The rest of a prefix test after its first word; `start` tokens were left at the beginning of the
left operand. -/
def startsWith (start : Nat) (left : Chain) (ts : List TokenKind) :
    Except Stop (Reading ts Chain) :=
  match ts with
  | .keyword .withWord _ :: .string value :: _ => do
    wantValue left start
    .ok (Reading.one [.binary .startsWith left [.string value]]).after
  | .keyword .withWord _ :: .variable name :: _ => do
    wantValue left start
    .ok (Reading.one [.binary .startsWith left [.variable name]]).after
  | .keyword .withWord _ :: other => do
    wantValue left start
    unexpected .initial other
  | other => unexpected .withWord other

/-- What a pattern test is built from, or the fault at the place with `left` tokens left. -/
def accepted {α : Type} (left : Nat) : Except PatternFault α → Except Stop α
  | .ok value => .ok value
  | .error fault => .error (.fault (.pattern fault) left)

/-- The flags after a pattern; none if the word for them does not follow. -/
def flags (ts : List TokenKind) : Except Stop (Remainder ts Regex.Flags) :=
  match ts with
  | .keyword .flag _ :: .string text :: rest => do
    let fs ← accepted (rest.length + 1) (Regex.Flags.read text)
    .ok (Reading.one fs).after.weaken
  | .keyword .flag _ :: other => unexpected .string other
  | _ => .ok (.nothing .empty)

/-- The rest of a pattern test after its first word. -/
def likeRegex (start : Nat) (left : Chain) (ts : List TokenKind) :
    Except Stop (Reading ts Chain) :=
  match ts with
  | .string pattern :: rest => do
    wantValue left start
    let ⟨fs, rest', h⟩ ← flags rest
    let test ← accepted (rest.length + 1) (Regex.Test.ofFlags pattern fs)
    .ok (Remainder.mk [.likeRegex left test] rest' h).after
  | other => do
    wantValue left start
    unexpected .string other

/-- The rest of an unknown test of `inner` after its first word, before which `start` tokens were
left. -/
def unknownTest (start : Nat) (inner : Chain) (ts : List TokenKind) :
    Except Stop (Reading ts Chain) :=
  if inner.isPredicate then
    match ts with
    | .keyword .unknown _ :: _ => .ok (.one [.unary .isUnknown inner])
    | other => unexpected .unknownWord other
  else .error (.fault .unknownValue start)

mutual

/-- An expression with operators of priority `bound` at least. -/
def expression (bound : Nat) (ts : List TokenKind) : Except Stop (Reading ts Chain) := do
  let ⟨left, rest, h⟩ ← operand ts
  let whole ← operators bound ts.length left rest
  .ok (whole.within h)
termination_by 4 * ts.length + 1

/-- The operators of priority `bound` at least that follow `left`, at whose beginning `start` tokens
were left, with their right operands. -/
def operators (bound start : Nat) (left : Chain) (ts : List TokenKind) :
    Except Stop (Remainder ts Chain) :=
  match ts with
  | [] => .ok (.nothing left)
  | t :: rest =>
    match Operation.ofToken? t with
    | none => .ok (.nothing left)
    | some operation =>
      if operation.priority < bound then .ok (.nothing left)
      else do
        let ⟨whole, rest, h⟩ ← application operation start left rest
        let whole ← operators bound start whole rest
        .ok (whole.within h).after.weaken
termination_by 4 * ts.length

/-- The rest of an operation after its operator. -/
def application (operation : Operation) (start : Nat) (left : Chain) (ts : List TokenKind) :
    Except Stop (Reading ts Chain) :=
  match operation with
  | .predicates operator => do
    wantPredicate left start
    let ⟨right, rest, h⟩ ← expression (operator.priority + 1) ts
    wantPredicate right ts.length
    .ok ⟨[.binary operator left right], rest, h⟩
  | .values operator => do
    wantValue left start
    let ⟨right, rest, h⟩ ← expression (operator.priority + 1) ts
    wantValue right ts.length
    .ok ⟨[.binary operator left right], rest, h⟩
  | .startsWith => startsWith start left ts
  | .likeRegex => likeRegex start left ts
termination_by 4 * ts.length + 2

/-- An operand: a signed value, a negation, an existence test, or a chain. -/
def operand (ts : List TokenKind) : Except Stop (Reading ts Chain) :=
  match ts with
  | .plus :: rest => do .ok (← signed .plus rest).after
  | .minus :: rest => do .ok (← signed .minus rest).after
  | .bang :: .openParen :: rest => do
    let ⟨inner, rest, h⟩ ← predicate rest
    .ok (Reading.mk [.unary .negation inner] rest h).after.after
  | .bang :: .keyword .existsWord _ :: rest => do
    let ⟨inner, rest, h⟩ ← existence rest
    .ok (Reading.mk [.unary .negation inner] rest h).after.after
  | .bang :: other => unexpected .negated other
  | .openParen :: rest => do .ok (← group rest).after
  | .keyword .existsWord _ :: rest => do .ok (← existence rest).after
  | ts => do
    let ⟨head, rest, h⟩ ← primary ts
    let ⟨more, rest, h'⟩ ← accessors rest
    .ok ((Remainder.mk (← linked [head] more) rest h').within h)
termination_by 4 * ts.length

/-- A value after its sign. -/
def signed (sign : UnaryOperator) (ts : List TokenKind) : Except Stop (Reading ts Chain) := do
  let ⟨value, rest, h⟩ ← operand ts
  wantValue value ts.length
  .ok ⟨← built (value.fold sign), rest, h⟩
termination_by 4 * ts.length + 1

/-- What follows an open parenthesis: an expression, the closing parenthesis, and an unknown test or
accessors. -/
def group (ts : List TokenKind) : Except Stop (Reading ts Chain) := do
  let ⟨inner, rest, h⟩ ← expression 0 ts
  let ⟨_, rest, h'⟩ ← closing rest
  match rest, h' with
  | .keyword .is _ :: rest, h' => do
    let whole ← unknownTest (rest.length + 1) inner rest
    .ok ((whole.after.within h').within h)
  | rest, h' => do
    let ⟨more, rest, h''⟩ ← accessors rest
    .ok (((Remainder.mk (← linked inner more) rest h'').within h').within h)
termination_by 4 * ts.length + 2

/-- A predicate and the parenthesis that closes it. -/
def predicate (ts : List TokenKind) : Except Stop (Reading ts Chain) := do
  let ⟨inner, rest, h⟩ ← expression 0 ts
  wantPredicate inner ts.length
  let ⟨_, rest, h'⟩ ← closing rest
  .ok ((Reading.mk inner rest h').within h)
termination_by 4 * ts.length + 2

/-- An existence test after its word. -/
def existence (ts : List TokenKind) : Except Stop (Reading ts Chain) := do
  let ⟨_, rest, h⟩ ← token .openParen ts
  let ⟨inner, rest', h'⟩ ← expression 0 rest
  wantValue inner rest.length
  let ⟨_, rest'', h''⟩ ← closing rest'
  .ok (((Reading.mk [.unary .existence inner] rest'' h'').within h').within h)
termination_by 4 * ts.length

/-- The accessors at the front of the tokens. -/
def accessors (ts : List TokenKind) : Except Stop (Remainder ts (List Node)) :=
  match ts with
  | .dot :: rest => do
    let ⟨node, rest, h⟩ ← member rest
    let ⟨more, rest, h'⟩ ← accessors rest
    .ok ((Remainder.mk (node :: more) rest h').within h).after.weaken
  | .openBracket :: .star :: .closeBracket :: rest => do
    let ⟨more, rest, h⟩ ← accessors rest
    .ok (Remainder.mk (.constant .anyArray :: more) rest h).after.after.after.weaken
  | .openBracket :: rest => do
    let ⟨items, rest, h⟩ ← subscripts (rest.length + 1) rest
    let ⟨more, rest, h'⟩ ← accessors rest
    .ok ((Remainder.mk (.subscripts items :: more) rest h').within h).after.weaken
  | .question :: rest => do
    let ⟨_, rest, h⟩ ← token .openParen rest
    let ⟨inner, rest, h'⟩ ← predicate rest
    let ⟨more, rest, h''⟩ ← accessors rest
    .ok (((Remainder.mk (.unary .filter inner :: more) rest h'').within h').within h).after.weaken
  | _ => .ok (.nothing [])
termination_by 4 * ts.length

/-- Subscripts and the bracket that closes them; `opened` tokens were left from the open bracket
on. -/
def subscripts (opened : Nat) (ts : List TokenKind) : Except Stop (Reading ts (List Chain)) := do
  let ⟨item, rest, h⟩ ← subscript ts
  match rest, h with
  | .comma :: rest, h => do
    let ⟨items, rest, h'⟩ ← subscripts opened rest
    .ok ((Reading.mk (item :: items) rest h').after.within h)
  | .closeBracket :: _, h => .ok ((Reading.one [item]).within h)
  | [], _ => .error (.fault .unclosedSubscript opened)
  | t :: rest, _ => unexpected .subscriptEnd (t :: rest)
termination_by 4 * ts.length + 3
decreasing_by
  · omega
  · simp only [List.length_cons] at h
    omega

/-- One subscript: an index, or the first and the last of a range. -/
def subscript (ts : List TokenKind) : Except Stop (Reading ts Chain) := do
  let ⟨first, rest, h⟩ ← expression 0 ts
  wantValue first ts.length
  match rest, h with
  | .keyword .toWord _ :: rest, h => do
    let ⟨last, rest', h'⟩ ← expression 0 rest
    wantValue last rest.length
    .ok ((Reading.mk [.subscript first last] rest' h').after.within h)
  | rest, h => .ok ⟨[.subscript first []], rest, h⟩
termination_by 4 * ts.length + 2
decreasing_by
  · omega
  · simp only [List.length_cons] at h
    omega

end

end PathExpr.Grammar
