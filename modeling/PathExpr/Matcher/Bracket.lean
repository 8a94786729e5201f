import PathExpr.Matcher.Escape

/-!
# PathExpr/Matcher/Bracket — classes between brackets

A class lists characters, ranges, named classes and further classes; `&&`, `--` and `~~` combine
what stands on their two sides, from left to right.  `bracketClass` reads a class from its opening
bracket on.
-/

namespace PathExpr.Matcher

/-- A class whose closing bracket is still to come: its parts since the last operator, the last
first, and what stands before that operator. -/
structure OpenClass where
  negated : Bool
  items : List ClassItem
  left : Option (SetOp × ClassItem)

namespace OpenClass

/-- The class with one more part. -/
def push (o : OpenClass) (item : ClassItem) : OpenClass := { o with items := item :: o.items }

/-- What the class says so far. -/
def body (o : OpenClass) : ClassItem :=
  let item := ClassItem.ofList o.items.reverse
  match o.left with
  | some (op, left) => .combined op left item
  | none => item

/-- The class after an operator. -/
def pushOp (o : OpenClass) (op : SetOp) : OpenClass := ⟨o.negated, [], some (op, o.body)⟩

/-- The closed class as a part of another one. -/
def close (o : OpenClass) : ClassItem := .bracketed o.negated o.body

end OpenClass

/-- The class that a name between colons stands for. -/
def namedClass? (name : List Char) : Option NamedClass :=
  match String.ofList name with
  | "alnum" => some .alnum
  | "alpha" => some .alpha
  | "ascii" => some .ascii
  | "blank" => some .blank
  | "cntrl" => some .cntrl
  | "digit" => some .digit
  | "graph" => some .graph
  | "lower" => some .lower
  | "print" => some .print
  | "punct" => some .punct
  | "space" => some .space
  | "upper" => some .upper
  | "word" => some .word
  | "xdigit" => some .xdigit
  | _ => none

/-- The named class that follows an opening bracket, and the number of characters up to and with its
closing bracket. -/
def colonClass? (text : List Char) : Option (ClassItem × Nat) :=
  match text with
  | ':' :: more =>
    let negated := more.head? = some '^'
    let body := if negated then more.drop 1 else more
    let name := body.takeWhile (· ≠ ':')
    match body.drop name.length with
    | ':' :: ']' :: _ =>
      (namedClass? name).map fun c =>
        (.named c negated, name.length + 3 + if negated then 1 else 0)
    | _ => none
  | _ => none

/-- Reads hyphens at the front of a class, which stand for themselves. -/
def leadingHyphens (b : Bool) (o : OpenClass) (text : List Char) :
    Except Refusal (OpenClass × Rest text) :=
  match text with
  | '-' :: rest =>
    match dropBlanks b rest with
    | ⟨[], _⟩ => .error .classUnclosed
    | ⟨c :: next, h⟩ =>
      match leadingHyphens b (o.push (.literal ⟨'-', false⟩)) (c :: next) with
      | .error r => .error r
      | .ok (o', ⟨rest', h'⟩) => .ok (o', ⟨rest', Nat.le_succ_of_le (Nat.le_trans h' h)⟩)
  | text => .ok (o, .whole text)
termination_by text.length
decreasing_by exact Nat.lt_succ_of_le h

/-- Reads the front of a class after its opening bracket: the sign of negation, hyphens, and a
closing bracket that comes first and so stands for itself. -/
def openBracket (b : Bool) : Reading OpenClass := do
  Reading.blanks b
  match ← Reading.ahead with
  | [] => .refuse .classUnclosed
  | c :: _ =>
    let negated := c = '^'
    if negated then
      let _ ← Reading.advanceOr b .classUnclosed
    let o ← (leadingHyphens b ⟨negated, [], none⟩ : Reading OpenClass)
    match o.items, ← Reading.ahead with
    | [], ']' :: _ =>
      let _ ← Reading.advanceOr b .classUnclosed
      pure (o.push (.literal ⟨']', false⟩))
    | _, _ => pure o

/-- The next character but one, blanks left out where they do not count. -/
def secondAhead (b : Bool) (text : List Char) : Option Char :=
  let rest := text.drop 1
  if b then
    match rest.dropWhile isBlankSpace with
    | '#' :: more => (more.dropWhile isBlankSpace).head?
    | more => more.head?
  else rest.head?

/-- Reads one element of a class after its first character `c`. -/
def classElement (b : Bool) (c : Char) : Reading Element :=
  if c = '\\' then escaped b else pure (.char c)

/-- Reads a character, a range or a class without brackets, after its first character `c`. -/
def classRange (b : Bool) (c : Char) : Reading ClassItem := do
  let first ← classElement b c
  Reading.blanks b
  match ← Reading.ahead with
  | [] => .refuse .classUnclosed
  | sign :: rest =>
    let second := secondAhead b (sign :: rest)
    if sign ≠ '-' ∨ second = some ']' ∨ second = some '-' then first.toItem
    else
      let c' ← Reading.advanceOr b .classUnclosed
      Reading.skip 1
      let last ← classElement b c'
      let lo ← first.toLiteral
      let hi ← last.toLiteral
      if hi.char < lo.char then .refuse .classRangeInvalid else return .range lo hi

/-- What one part of a class leads to: more of the class, or its end. -/
inductive ClassStep
  | more (current : OpenClass) (outer : List OpenClass)
  | done (negated : Bool) (body : ClassItem)

/-- Reads one part of a class after its first character `c`. -/
def classStep (b : Bool) (current : OpenClass) (outer : List OpenClass) (c : Char) :
    Reading ClassStep := do
  match c, ← Reading.ahead with
  | '[', rest =>
    match colonClass? rest with
    | some (item, used) =>
      Reading.skip used
      return .more (current.push item) outer
    | none => return .more (← openBracket b) (current :: outer)
  | ']', _ =>
    match outer with
    | [] => return .done current.negated current.body
    | o :: os => return .more (o.push current.close) os
  | '&', '&' :: _ =>
    Reading.skip 1
    return .more (current.pushOp .intersection) outer
  | '-', '-' :: _ =>
    Reading.skip 1
    return .more (current.pushOp .difference) outer
  | '~', '~' :: _ =>
    Reading.skip 1
    return .more (current.pushOp .symmetricDifference) outer
  | _, _ => return .more (current.push (← classRange b c)) outer

/-- Reads the rest of a class: whether it is negated, and what it says. -/
def classRest (b : Bool) (current : OpenClass) (outer : List OpenClass) (text : List Char) :
    Except Refusal ((Bool × ClassItem) × Rest text) :=
  match dropBlanks b text with
  | ⟨[], _⟩ => .error .classUnclosed
  | ⟨c :: rest, h⟩ =>
    match classStep b current outer c rest with
    | .error r => .error r
    | .ok (.done negated body, ⟨rest', h'⟩) =>
      .ok ((negated, body), ⟨rest', Nat.le_trans (Nat.le_succ_of_le h') h⟩)
    | .ok (.more current' outer', ⟨rest', h'⟩) =>
      match classRest b current' outer' rest' with
      | .error r => .error r
      | .ok (found, ⟨left, h''⟩) =>
        .ok (found, ⟨left, Nat.le_trans h'' (Nat.le_trans (Nat.le_succ_of_le h') h)⟩)
termination_by text.length
decreasing_by exact Nat.lt_of_lt_of_le (Nat.lt_succ_of_le h') h

/-- Reads a class after its opening bracket. -/
def bracketClass (b : Bool) : Reading (Bool × ClassItem) := do
  classRest b (← openBracket b) []

end PathExpr.Matcher
