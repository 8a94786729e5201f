import PathExpr.Matcher.Bracket

/-!
# PathExpr/Matcher/Group — whole patterns

A pattern is read from left to right with a stack of the groups that are open.  `Pattern.read`
gives the structure of a text, or the first reason to refuse it.
-/

namespace PathExpr.Matcher

/-- A sequence in progress: its parts since the last bar, the last first, and the branches before
that bar, the last first. -/
structure OpenBranch where
  parts : List Pattern
  branches : List Pattern

namespace OpenBranch

def empty : OpenBranch := ⟨[], []⟩

/-- The sequence with one more part. -/
def push (o : OpenBranch) (p : Pattern) : OpenBranch := { o with parts := p :: o.parts }

/-- What the branch in progress says. -/
def branch (o : OpenBranch) : Pattern := .sequence o.parts.reverse

/-- The sequence after a bar. -/
def bar (o : OpenBranch) : OpenBranch := ⟨[], o.branch :: o.branches⟩

/-- All branches as one pattern. -/
def close (o : OpenBranch) : Pattern := .choice (o.branch :: o.branches).reverse

end OpenBranch

/-- A group that is open: what stands before it, the modes that it switches, and whether blanks
count outside it. -/
structure OpenGroup where
  before : OpenBranch
  change : ModeChange
  blanks : Bool

/-- The state of reading: the sequence in progress, the open groups, the innermost first, the names
of groups so far, and whether blanks do not count. -/
structure Progress where
  current : OpenBranch
  outer : List OpenGroup
  names : List (List Char)
  blanks : Bool

namespace Progress

/-- Before the first character. -/
def start : Progress := ⟨.empty, [], [], false⟩

/-- After one more part. -/
def push (s : Progress) (p : Pattern) : Progress := { s with current := s.current.push p }

/-- The state inside a new group. -/
def openGroup (s : Progress) (change : ModeChange) : Progress :=
  { s with
    current := .empty
    outer := ⟨s.current, change, s.blanks⟩ :: s.outer
    blanks := (change.lookup .blanks).getD s.blanks }

/-- The state after a flag group. -/
def setModes (s : Progress) (change : ModeChange) : Progress :=
  { s.push (.modes change) with blanks := (change.lookup .blanks).getD s.blanks }

end Progress

/-- Whether `c` can be part of the name of a group. -/
def isGroupNameChar (c : Char) : Bool :=
  c = '_' || c = '.' || c = '[' || c = ']' || isAlphanumeric c

/-- Whether a text can be the name of a group. -/
def isGroupName : List Char → Bool
  | [] => true
  | c :: rest => (c = '_' || isLetter c) && rest.all isGroupNameChar

/-- Reads the name of a group and the mark at its end. -/
def groupName (names : List (List Char)) : Reading (List Char) := do
  let name ← Reading.takeWhile (· ≠ '>')
  if !isGroupName name then .refuse .groupNameInvalid
  else
    match ← Reading.ahead with
    | [] => .refuse .groupNameUnfinished
    | _ =>
      Reading.skip 1
      if name = [] then .refuse .groupNameEmpty
      else if names.contains name then .refuse .groupNameDuplicate
      else pure name

/-- The mode that a letter stands for. -/
def modeOfLetter? : Char → Option Mode
  | 'i' => some .ignoreCase
  | 'm' => some .multiLine
  | 's' => some .dotAll
  | 'U' => some .lazy
  | 'u' => some .unicode
  | 'R' => some .crlf
  | 'x' => some .blanks
  | _ => none

/-- The modes written at the front of a text, up to a colon or a closing parenthesis: whether that
is a parenthesis, and the number of characters read with it.  `negated` says whether the sign of
negation came before, `dangling` whether it came right before, and `seen` holds the modes so far,
the last first. -/
def modeLetters (negated dangling : Bool) (seen : ModeChange) :
    List Char → Except Refusal (ModeChange × Bool × Nat)
  | [] => .error .flagUnfinished
  | c :: rest =>
    if c = ':' ∨ c = ')' then
      if dangling then .error .flagDanglingNegation else .ok (seen.reverse, c = ')', 1)
    else if c = '-' then
      if negated then .error .flagRepeatedNegation
      else (modeLetters true true seen rest).map fun r => (r.1, r.2.1, r.2.2 + 1)
    else
      match modeOfLetter? c with
      | none => .error .flagUnrecognized
      | some mode =>
        if (seen.lookup mode).isSome then .error .flagDuplicate
        else
          (modeLetters negated false ((mode, !negated) :: seen) rest).map fun r =>
            (r.1, r.2.1, r.2.2 + 1)

/-- Reads what follows the opening parenthesis of a group. -/
def groupFront (s : Progress) : Reading Progress := do
  Reading.blanks s.blanks
  match ← Reading.ahead with
  | '?' :: '=' :: _ => .refuse .lookAround
  | '?' :: '!' :: _ => .refuse .lookAround
  | '?' :: '<' :: '=' :: _ => .refuse .lookAround
  | '?' :: '<' :: '!' :: _ => .refuse .lookAround
  | '?' :: 'P' :: '<' :: _ =>
    Reading.skip 3
    let name ← groupName s.names
    return { s.openGroup [] with names := name :: s.names }
  | '?' :: '<' :: _ =>
    Reading.skip 2
    let name ← groupName s.names
    return { s.openGroup [] with names := name :: s.names }
  | ['?'] => .refuse .groupUnclosed
  | '?' :: rest =>
    match modeLetters false false [] rest with
    | .error r => .refuse r
    | .ok (change, closed, used) =>
      Reading.skip (used + 1)
      if !closed then return s.openGroup change
      else if change = [] then .refuse .repetitionMissing
      else return s.setModes change
  | _ => return s.openGroup []

/-- Closes the innermost group. -/
def closeGroup (s : Progress) : Reading Progress :=
  match s.outer with
  | [] => .refuse .groupUnopened
  | g :: outer =>
    pure { s with
      current := g.before.push (.group g.change s.current.close)
      outer := outer
      blanks := g.blanks }

/-- The last part, if a repetition can apply to it, and the state without it. -/
def popRepeatable (s : Progress) : Reading (Pattern × Progress) :=
  match s.current.parts with
  | [] => .refuse .repetitionMissing
  | p :: parts =>
    if p.isRepeatable then pure (p, { s with current := { s.current with parts := parts } })
    else .refuse .repetitionMissing

/-- Reads the mark that makes a repetition prefer few rounds, if it follows. -/
def lazyMark : Reading Unit := do
  match ← Reading.ahead with
  | '?' :: _ => Reading.skip 1
  | _ => pure ()

/-- Reads a decimal number with blanks around it: a refusal if it is too big or has no digits. -/
def decimalNumber (b : Bool) : Reading (Except Refusal Nat) := do
  let _ ← Reading.takeWhile isBlankSpace
  let digits ← Reading.spacedWhile b isDecimalDigit
  let _ ← Reading.spacedWhile b isBlankSpace
  let n := natOfDigits 10 digits
  return if digits = [] then .error .repetitionCountEmpty
    else if n < 0x100000000 then .ok n
    else .error .decimalInvalid

/-- A count that has to be there. -/
def needCount (count : Except Refusal Nat) : Reading Nat :=
  match count with
  | .ok n => pure n
  | .error r => .refuse r

/-- Reads a counted repetition after its opening brace: the least and the greatest number of rounds.
The closing brace comes before the count in the order of faults. -/
def countRange (b : Bool) : Reading (Nat × Option Nat) := do
  Reading.blanks b
  match ← Reading.ahead with
  | [] => .refuse .repetitionCountUnclosed
  | _ =>
    let least ← decimalNumber b
    match ← Reading.ahead with
    | [] => .refuse .repetitionCountUnclosed
    | ',' :: _ =>
      match ← Reading.advanceOr b .repetitionCountUnclosed with
      | '\x7d' =>
        let least ← needCount least
        return (least, none)
      | _ =>
        let least ← needCount least
        let most ← needCount (← decimalNumber b)
        return (least, some most)
    | _ =>
      let least ← needCount least
      return (least, some least)

/-- Reads a counted repetition of the last part. -/
def countedRepetition (s : Progress) : Reading Progress := do
  let (p, before) ← popRepeatable s
  let (least, most) ← countRange s.blanks
  match ← Reading.ahead with
  | '\x7d' :: _ =>
    Reading.advance s.blanks
    lazyMark
    if most.any (· < least) then .refuse .repetitionCountInvalid
    else return before.push (.repeated least most p)
  | _ => .refuse .repetitionCountUnclosed

/-- Repeats the last part, and reads the mark that makes the repetition prefer few rounds. -/
def markedRepetition (s : Progress) (least : Nat) (most : Option Nat) : Reading Progress := do
  let (p, before) ← popRepeatable s
  lazyMark
  return before.push (.repeated least most p)

/-- Reads one part of a pattern after its first character `c`. -/
def patternStep (s : Progress) (c : Char) : Reading Progress :=
  match c with
  | '(' => groupFront s
  | ')' => closeGroup s
  | '|' => pure { s with current := s.current.bar }
  | '[' => do
    let (negated, body) ← bracketClass s.blanks
    return s.push (.bracketed negated body)
  | '?' => markedRepetition s 0 (some 1)
  | '*' => markedRepetition s 0 none
  | '+' => markedRepetition s 1 none
  | '\x7b' => countedRepetition s
  | '\\' => do return s.push (← escaped s.blanks).toPattern
  | '.' => pure (s.push .dot)
  | '^' => pure (s.push (.assertion .lineStart))
  | '$' => pure (s.push (.assertion .lineEnd))
  | _ => pure (s.push (.literal ⟨c, false⟩))

/-- The state at the end of the text. -/
def readFrom (s : Progress) (text : List Char) : Except Refusal Progress :=
  match dropBlanks s.blanks text with
  | ⟨[], _⟩ => .ok s
  | ⟨c :: rest, _h⟩ =>
    match patternStep s c rest with
    | .error r => .error r
    | .ok (s', ⟨rest', _h'⟩) => readFrom s' rest'
termination_by text.length
decreasing_by exact Nat.lt_of_lt_of_le (Nat.lt_succ_of_le _h') _h

/-- The structure of a pattern. -/
def Pattern.read (text : List Char) : Except Refusal Pattern :=
  match readFrom .start text with
  | .error r => .error r
  | .ok s =>
    if s.outer.isEmpty then
      let p := s.current.close
      if p.depth ≤ nestLimit then .ok p else .error .nestLimitExceeded
    else .error .groupUnclosed

end PathExpr.Matcher
