import PathExpr.Matcher.Expr

/-!
# PathExpr/Matcher/Match — which texts an expression matches

A `Place` is a place in a text: the character before it and the characters after it.  An expression
leads from a set of places to the set of places where a match that begins in the first set can end.
Sets are lists of places in the order of the text, so that union is a merge; a repetition is a round
that is taken again and again until nothing new is found.
-/

namespace PathExpr.Matcher

/-- A place in a text: the character before it, the characters after it, and their number. -/
structure Place where
  before : Option Char
  after : List Char
  left : Nat

namespace Place

/-- The place after the next character. -/
def next (p : Place) (c : Char) (rest : List Char) : Place := ⟨some c, rest, p.left - 1⟩

/-- All places from `before` on, in order. -/
def allFrom (before : Option Char) : List Char → List Place
  | [] => [⟨before, [], 0⟩]
  | c :: rest => ⟨before, c :: rest, rest.length + 1⟩ :: allFrom (some c) rest

/-- All places of a text. -/
def all (text : List Char) : List Place := allFrom none text

/-- The places of both lists, in order and without repetition. -/
def merge : List Place → List Place → List Place
  | [], qs => qs
  | ps, [] => ps
  | p :: ps, q :: qs =>
    if q.left < p.left then p :: merge ps (q :: qs)
    else if p.left < q.left then q :: merge (p :: ps) qs
    else p :: merge ps qs
termination_by ps qs => ps.length + qs.length

end Place

/-- Whether a word stands on a side of a place. -/
def standsWord (unicode : Bool) (side : Option Char) : Bool := side.any (isWordChar unicode)

/-- Whether a condition holds at a place. -/
def Look.holds (l : Look) (p : Place) : Bool :=
  let next := p.after.head?
  match l with
  | .textStart => p.before.isNone
  | .textEnd => p.after.isEmpty
  | .lineStart crlf =>
    p.before.isNone || p.before = some '\n' ||
      (crlf && p.before = some '\r' && next ≠ some '\n')
  | .lineEnd crlf =>
    p.after.isEmpty || (next = some '\n' && !(crlf && p.before = some '\r')) ||
      (crlf && next = some '\r')
  | .word unicode condition => condition (standsWord unicode p.before) (standsWord unicode next)

/-- The places after `n` rounds from the given ones. -/
def rounds (round : List Place → List Place) : Nat → List Place → List Place
  | 0, ps => ps
  | n + 1, ps => if ps.isEmpty then ps else rounds round n (round ps)

/-- The given places and those after up to `n` more rounds; `fresh` are the places found last. -/
def upTo (round : List Place → List Place) : Nat → (found fresh : List Place) → List Place
  | 0, found, _ => found
  | n + 1, found, fresh =>
    let next := round fresh
    let more := Place.merge found next
    if more.length = found.length then found else upTo round n more next

/-- The number of rounds after which a repetition without limit has found everything, if `ps` are
the places where it begins: each round but the last finds a place further on. -/
def enoughRounds (ps : List Place) : Nat := (ps.head?.map Place.left).getD 0 + 1

namespace Expr

/-- The places where a match can end that begins at one of the given places. -/
def ends : Expr → List Place → List Place
  | empty, ps => ps
  | set s, ps =>
    ps.filterMap fun p =>
      match p.after with
      | [] => none
      | c :: rest => if s.contains c then some (p.next c rest) else none
  | look l, ps => ps.filter l.holds
  | seq first second, ps => second.ends (first.ends ps)
  | alt first second, ps => Place.merge (first.ends ps) (second.ends ps)
  | repeated body least most, ps =>
    let start := rounds body.ends least ps
    match most with
    | some most => upTo body.ends (most - least) start start
    | none => upTo body.ends (enoughRounds start) start start

/-- Whether some part of the text matches. -/
def matchesIn (e : Expr) (text : List Char) : Bool := !(e.ends (Place.all text)).isEmpty

end Expr

end PathExpr.Matcher
