import PathExpr.Proofs.Syntax.Grouped

/-!
# PathExpr/Proofs/Syntax/Parts — the parts of readers that have phrases of their own

Some readers take several phrases apart in one: a negation and a chain within an operand, a method
and levels within a member, brackets and a filter within accessors.  Here each such phrase has a
reader of its own, and the readers are put together from them (`operand_negation`,
`operand_headedChain`; `member_anyLevels`, `member_method`; `accessors_member`,
`accessors_brackets`, `accessors_condition`).
-/

namespace PathExpr.Grammar

variable [Regex.Engine] {ts : List TokenKind}

/-! ## Operands -/

/-- What a negation applies to, after its sign. -/
def negated (ts : List TokenKind) : Except Stop (Reading ts Chain) :=
  match ts with
  | .openParen :: rest => do .ok (← predicate rest).after
  | .keyword .existsWord _ :: rest => do .ok (← existence rest).after
  | other => unexpected .negated other

theorem operand_negation (ts : List TokenKind) :
    operand (.bang :: ts) = negated ts >>= fun r =>
      .ok (Reading.mk [.unary .negation r.value] r.rest r.shorter).after := by
  unfold negated
  split
  next rest =>
    rw [operand]
    simp only [bind_assoc, ok_bind]
    rfl
  next rest =>
    rw [operand]
    simp only [bind_assoc, ok_bind]
    rfl
  next hparen hexists =>
    rw [operand]
    · rfl
    · exact hparen
    · exact hexists

/-- A head that is no expression in parentheses, and the accessors after it. -/
def headedChain (ts : List TokenKind) : Except Stop (Reading ts Chain) := do
  let ⟨head, rest, h⟩ ← primary ts
  let ⟨more, rest, h'⟩ ← accessors rest
  .ok ((Remainder.mk (← linked [head] more) rest h').within h)

/-- An operand is such a chain unless its first token says otherwise. -/
theorem operand_headedChain (h : ∀ t ∈ ts.head?, t ∉ [.plus, .minus, .bang, .openParen] ∧
    ∀ spelling, t ≠ .keyword .existsWord spelling) : operand ts = headedChain ts := by
  rw [operand.eq_def]
  split
  case h_7 spelling rest => exact absurd rfl ((h _ rfl).2 spelling)
  case h_8 => rfl
  all_goals exact absurd (by simp) (h _ rfl).1

/-! ## Members -/

/-- The levels of the accessor `**`, which are all if no brace follows it. -/
def anyLevels (ts : List TokenKind) : Except Stop (Remainder ts Node) :=
  match ts with
  | .openBrace :: rest => do .ok (← levels rest).after.weaken
  | _ => .ok (.nothing (.any .top .deepest))

theorem member_anyLevels (ts : List TokenKind) :
    member (.doubleStar :: ts) = anyLevels ts >>= fun r => .ok r.after := by
  unfold anyLevels
  split
  next rest =>
    rw [member]
    simp only [bind_assoc, ok_bind]
    rfl
  next hbrace =>
    rw [member]
    · rfl
    · exact hbrace

/-- The method that a word names, if it names one and a parenthesis follows. -/
def method? (word : Keyword) (ts : List TokenKind) : Except Stop (Remainder ts (Option Node)) :=
  match ts with
  | .openParen :: rest =>
    match Call.ofKeyword? word with
    | some call => do
      let ⟨node, rest, h⟩ ← call.read rest
      .ok (Reading.mk (some node) rest h).after.weaken
    | none => .ok (.nothing none)
  | _ => .ok (.nothing none)

theorem member_method (word : Keyword) (spelling : String) (ts : List TokenKind) :
    member (.keyword word spelling :: ts) = method? word ts >>= fun r =>
      .ok (Remainder.mk (r.value.getD (.key spelling)) r.rest r.noLonger).after := by
  unfold method?
  split
  next rest =>
    rw [member]
    cases Call.ofKeyword? word with
    | none => rfl
    | some call =>
      simp only [bind_assoc, ok_bind]
      rfl
  next hparen =>
    rw [member]
    · rfl
    · exact hparen

/-! ## Accessors -/

/-- What follows the open bracket of an accessor. -/
def brackets (ts : List TokenKind) : Except Stop (Reading ts Node) :=
  match ts with
  | .star :: .closeBracket :: _ => .ok (Reading.one (.constant .anyArray)).after
  | ts => do
    let ⟨items, rest, h⟩ ← subscripts (ts.length + 1) ts
    .ok ⟨.subscripts items, rest, h⟩

/-- What follows the question mark of a filter. -/
def condition (ts : List TokenKind) : Except Stop (Reading ts Node) := do
  let ⟨_, rest, h⟩ ← token .openParen ts
  let ⟨inner, rest, h'⟩ ← predicate rest
  .ok ((Reading.mk (.unary .filter inner) rest h').within h)

/-- A node that has been read, and the accessors after it. -/
def andMore (r : Reading ts Node) : Except Stop (Reading ts (List Node)) := do
  let ⟨more, rest, h⟩ ← accessors r.rest
  .ok ((Remainder.mk (r.value :: more) rest h).within r.shorter)

theorem accessors_member (ts : List TokenKind) :
    accessors (.dot :: ts) =
      member ts >>= fun r => andMore r >>= fun all => .ok all.after.weaken := by
  rw [accessors]
  simp only [andMore, bind_assoc, ok_bind]

theorem accessors_brackets (ts : List TokenKind) :
    accessors (.openBracket :: ts) =
      brackets ts >>= fun r => andMore r >>= fun all => .ok all.after.weaken := by
  unfold brackets
  split
  next rest =>
    rw [accessors]
    simp only [andMore, bind_assoc, ok_bind]
    rfl
  next hstar =>
    rw [accessors]
    · simp only [andMore, bind_assoc, ok_bind]
    · exact hstar

theorem accessors_condition (ts : List TokenKind) :
    accessors (.question :: ts) =
      condition ts >>= fun r => andMore r >>= fun all => .ok all.after.weaken := by
  rw [accessors]
  simp only [condition, andMore, bind_assoc, ok_bind]
  rfl

/-- Where no accessor begins, there are none. -/
theorem accessors_nothing (h : ¬ BeginsAccessor ts) : accessors ts = .ok (.nothing []) := by
  unfold accessors
  split
  case h_5 => rfl
  all_goals exact absurd ⟨_, rfl, by constructor⟩ h

end PathExpr.Grammar
