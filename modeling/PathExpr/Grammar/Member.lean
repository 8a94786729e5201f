import PathExpr.Grammar.Reading

/-!
# PathExpr/Grammar/Member — what follows the dot of an accessor

After a dot stands the name of a member, which may be any word; `*` for all members; `**`, perhaps
with levels in braces; or a method.  A word names a method only if an open parenthesis follows it.
-/

namespace PathExpr.Grammar

variable [Regex.Engine]

/-- A method, by what it takes in its parentheses. -/
inductive Call
  /-- Nothing. -/
  | plain (method : Method)
  /-- Up to two integers. -/
  | decimal
  /-- Perhaps a template, which is a string. -/
  | template
  /-- Perhaps a precision, which is an integer. -/
  | precision (operator : UnaryOperator)

/-- The method that a word names. -/
def Call.ofKeyword? : Keyword → Option Call
  | .abs => some (.plain .abs)
  | .size => some (.plain .size)
  | .type => some (.plain .type)
  | .floor => some (.plain .floor)
  | .ceiling => some (.plain .ceiling)
  | .double => some (.plain .double)
  | .keyvalue => some (.plain .keyvalue)
  | .bigint => some (.plain .bigint)
  | .boolean => some (.plain .boolean)
  | .date => some (.plain .date)
  | .integer => some (.plain .integer)
  | .number => some (.plain .number)
  | .string => some (.plain .string)
  | .decimal => some .decimal
  | .datetime => some .template
  | .time => some (.precision .time)
  | .timeTz => some (.precision .timeTz)
  | .timestamp => some (.precision .timestamp)
  | .timestampTz => some (.precision .timestampTz)
  | _ => none

/-- An integer, perhaps with a sign. -/
def signedInteger (ts : List TokenKind) : Except Stop (Reading ts Chain) :=
  match ts with
  | .plus :: .integer literal :: _ => do
    let node ← built (Node.ofInteger literal)
    .ok (Reading.one (← built (Chain.fold .plus [node]))).after
  | .minus :: .integer literal :: _ => do
    let node ← built (Node.ofInteger literal)
    .ok (Reading.one (← built (Chain.fold .minus [node]))).after
  | .integer literal :: _ => do .ok (.one [← built (Node.ofInteger literal)])
  | .plus :: other => unexpected .integer other
  | .minus :: other => unexpected .integer other
  | other => unexpected .integer other

/-- Up to two integers with a comma between. -/
def decimalArguments (ts : List TokenKind) : Except Stop (Remainder ts (List Chain)) :=
  match ts with
  | .closeParen :: _ => .ok (.nothing [])
  | ts => do
    let ⟨precision, rest, h⟩ ← signedInteger ts
    match rest, h with
    | .comma :: rest, h => do
      let ⟨scale, rest, h'⟩ ← signedInteger rest
      match rest with
      | .comma :: _ => .error (.fault .decimalArguments rest.length)
      | _ => .ok ((Reading.mk [precision, scale] rest h').after.within h).weaken
    | rest, h => .ok (Reading.mk [precision] rest h).weaken

/-- A string, if the tokens begin with one. -/
def optionalString (ts : List TokenKind) : Except Stop (Remainder ts Chain) :=
  match ts with
  | .string value :: _ => .ok (Reading.one [.string value]).weaken
  | _ => .ok (.nothing [])

/-- An integer without sign, if the tokens begin with one. -/
def optionalInteger (ts : List TokenKind) : Except Stop (Remainder ts Chain) :=
  match ts with
  | .integer literal :: _ => do .ok (Reading.one [← built (Node.ofInteger literal)]).weaken
  | _ => .ok (.nothing [])

/-- What stands in the parentheses of a method: the finished node. -/
def Call.arguments (call : Call) (ts : List TokenKind) : Except Stop (Remainder ts Node) :=
  match call with
  | .plain method => .ok (.nothing (.method method))
  | .decimal => do
    let ⟨arguments, rest, h⟩ ← decimalArguments ts
    .ok ⟨← built (Node.decimal arguments), rest, h⟩
  | .template => do
    let ⟨operand, rest, h⟩ ← optionalString ts
    .ok ⟨.unary .datetime operand, rest, h⟩
  | .precision operator => do
    let ⟨operand, rest, h⟩ ← optionalInteger ts
    .ok ⟨.unary operator operand, rest, h⟩

/-- A method from after its open parenthesis on. -/
def Call.read (call : Call) (ts : List TokenKind) : Except Stop (Reading ts Node) := do
  let ⟨node, rest, h⟩ ← call.arguments ts
  let ⟨_, rest, h'⟩ ← token .closeParen rest
  .ok ⟨node, rest, Nat.lt_of_lt_of_le h' h⟩

/-- A level of the accessor `**`. -/
def level (ts : List TokenKind) : Except Stop (Reading ts Level) :=
  match ts with
  | .keyword .last _ :: _ => .ok (.one .deepest)
  | .integer literal :: rest =>
    match (readInteger? literal.toList).bind Level.ofInt? with
    | some level => .ok (.one level)
    | none => .error (.fault (.levelOutOfRange literal) (rest.length + 1))
  | other => unexpected .level other

/-- The levels of the accessor `**`, from after the open brace on. -/
def levels (ts : List TokenKind) : Except Stop (Reading ts Node) := do
  let ⟨first, rest, h⟩ ← level ts
  match rest, h with
  | .keyword .toWord _ :: rest, h => do
    let ⟨last, rest, h'⟩ ← level rest
    let ⟨_, rest, h''⟩ ← token .closeBrace rest
    .ok (((Reading.mk (.any first last) rest h'').within h').after.within h)
  | rest, h => do
    let ⟨_, rest, h'⟩ ← token .closeBrace rest
    .ok ((Reading.mk (.any first first) rest h').within h)

/-- What follows the dot of an accessor. -/
def member (ts : List TokenKind) : Except Stop (Reading ts Node) :=
  match ts with
  | .star :: _ => .ok (.one (.constant .anyKey))
  | .doubleStar :: .openBrace :: rest => do .ok (← levels rest).after.after
  | .doubleStar :: _ => .ok (.one (.any .top .deepest))
  | .keyword word spelling :: .openParen :: rest =>
    match Call.ofKeyword? word with
    | some call => do .ok (← call.read rest).after.after
    | none => .ok (.one (.key spelling))
  | .keyword _ spelling :: _ => .ok (.one (.key spelling))
  | .name value :: _ => .ok (.one (.key value))
  | .string value :: _ => .ok (.one (.key value))
  | .trueWord :: _ => .ok (.one (.key "true"))
  | .falseWord :: _ => .ok (.one (.key "false"))
  | .nullWord :: _ => .ok (.one (.key "null"))
  | other => unexpected .member other

end PathExpr.Grammar
