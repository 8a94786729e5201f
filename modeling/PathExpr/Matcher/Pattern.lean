/-!
# PathExpr/Matcher/Pattern — the structure of a pattern

What the text of a pattern says before it is known in which mode each part stands.
-/

namespace PathExpr.Matcher

/-- A mode that a pattern can switch on and off. -/
inductive Mode
  | ignoreCase
  | multiLine
  | dotAll
  /-- Repetitions prefer few rounds; which text matches does not depend on it. -/
  | lazy
  | unicode
  /-- A carriage return ends a line, too. -/
  | crlf
  /-- Blanks and comments in the pattern do not count. -/
  | blanks
deriving DecidableEq

/-- The modes that a flag group switches, each on or off. -/
abbrev ModeChange := List (Mode × Bool)

/-- A character of a pattern, and whether it is written as the code of one byte. -/
structure Literal where
  char : Char
  byte : Bool

/-- A class that a backslash and a letter stand for. -/
inductive ShortClass
  | digit
  | space
  | word

/-- A class that a name between colons stands for. -/
inductive NamedClass
  | alnum
  | alpha
  | ascii
  | blank
  | cntrl
  | digit
  | graph
  | lower
  | print
  | punct
  | space
  | upper
  | word
  | xdigit

/-- A property of characters: one name, or the name of a property and one of its values. -/
inductive PropertyQuery
  | named (name : List Char)
  | valued (name value : List Char)

/-- How two classes are combined. -/
inductive SetOp
  | intersection
  | difference
  | symmetricDifference

/-- A part of a class between brackets. -/
inductive ClassItem
  | empty
  | literal (l : Literal)
  | range (first last : Literal)
  | named (c : NamedClass) (negated : Bool)
  | property (q : PropertyQuery) (negated : Bool)
  | short (c : ShortClass) (negated : Bool)
  | bracketed (negated : Bool) (body : ClassItem)
  | union (items : List ClassItem)
  | combined (op : SetOp) (left right : ClassItem)

/-- A condition on a place in the text. -/
inductive Assertion
  | lineStart
  | lineEnd
  | textStart
  | textEnd
  | wordBoundary
  | notWordBoundary
  | wordStart
  | wordEnd
  | wordStartHalf
  | wordEndHalf
deriving DecidableEq

/-- A pattern. -/
inductive Pattern
  | empty
  /-- Modes from here to the end of the group. -/
  | modes (change : ModeChange)
  | literal (l : Literal)
  | dot
  | assertion (a : Assertion)
  | property (q : PropertyQuery) (negated : Bool)
  | short (c : ShortClass) (negated : Bool)
  | bracketed (negated : Bool) (body : ClassItem)
  | repeated (least : Nat) (most : Option Nat) (body : Pattern)
  /-- A group, with the modes that hold only in it. -/
  | group (change : ModeChange) (body : Pattern)
  | alternation (branches : List Pattern)
  | concat (parts : List Pattern)

namespace ClassItem

mutual

/-- How deep brackets, unions and combinations are nested. -/
def depth : ClassItem → Nat
  | bracketed _ body => body.depth + 1
  | union items => depths items + 1
  | combined _ left right => max left.depth right.depth + 1
  | _ => 0

/-- The greatest depth of some parts. -/
def depths : List ClassItem → Nat
  | [] => 0
  | item :: items => max item.depth (depths items)

end

/-- Several parts as one. -/
def ofList : List ClassItem → ClassItem
  | [] => empty
  | [item] => item
  | items => union items

end ClassItem

namespace Pattern

mutual

/-- How deep groups, repetitions, classes, branches and sequences are nested. -/
def depth : Pattern → Nat
  | bracketed _ body => body.depth + 1
  | repeated _ _ body => body.depth + 1
  | group _ body => body.depth + 1
  | alternation branches => depths branches + 1
  | concat parts => depths parts + 1
  | _ => 0

/-- The greatest depth of some patterns. -/
def depths : List Pattern → Nat
  | [] => 0
  | p :: ps => max p.depth (depths ps)

end

/-- Several patterns in sequence. -/
def sequence : List Pattern → Pattern
  | [] => empty
  | [p] => p
  | ps => concat ps

/-- Several patterns to choose from. -/
def choice : List Pattern → Pattern
  | [] => empty
  | [p] => p
  | ps => alternation ps

/-- Whether a repetition can apply to the pattern. -/
def isRepeatable : Pattern → Bool
  | empty => false
  | modes _ => false
  | _ => true

end Pattern

end PathExpr.Matcher
