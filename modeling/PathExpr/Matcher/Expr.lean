import PathExpr.Matcher.Property
import PathExpr.Unicode.CaseFolding

/-!
# PathExpr/Matcher/Expr — what a pattern means

An `Expr` is a pattern with every mode resolved: sets of characters, conditions on a place, and the
three ways to combine expressions.  `Pattern.meaning` gives the expression of a pattern; it refuses
parts that would match pieces of characters, that need Unicode mode where it is off, or that name an
unknown property.
-/

namespace PathExpr.Matcher

/-- A condition on a place in a text. -/
inductive Look
  | textStart
  | textEnd
  /-- After a line end; with `crlf`, a carriage return ends a line, too. -/
  | lineStart (crlf : Bool)
  | lineEnd (crlf : Bool)
  /-- The sides of the place on which a word must stand, or must not; `unicode` says which
  characters make words. -/
  | word (unicode : Bool) (condition : Bool → Bool → Bool)

/-- A regular expression over characters. -/
inductive Expr
  | empty
  | set (s : CharSet)
  | look (l : Look)
  | seq (first second : Expr)
  | alt (first second : Expr)
  | repeated (body : Expr) (least : Nat) (most : Option Nat)

namespace Expr

/-- The expression for one character. -/
def char (c : Char) : Expr := set (.singleton c)

/-- One expression after the other. -/
def sequence : List Expr → Expr
  | [] => empty
  | [e] => e
  | e :: es => seq e (sequence es)

/-- One of several expressions. -/
def choice : List Expr → Expr
  | [] => set .empty
  | [e] => e
  | e :: es => alt e (choice es)

end Expr

/-- The modes that hold at a place of a pattern. -/
structure Modes where
  ignoreCase : Bool
  multiLine : Bool
  dotAll : Bool
  unicode : Bool
  crlf : Bool

namespace Modes

/-- The modes after a change. -/
def apply (m : Modes) (change : ModeChange) : Modes where
  ignoreCase := (change.lookup .ignoreCase).getD m.ignoreCase
  multiLine := (change.lookup .multiLine).getD m.multiLine
  dotAll := (change.lookup .dotAll).getD m.dotAll
  unicode := (change.lookup .unicode).getD m.unicode
  crlf := (change.lookup .crlf).getD m.crlf

end Modes

/-! ## Classes -/

/-- The characters of words. -/
def wordChars : CharSet :=
  (Property.members .alphabetic ++ Category.unionOf [.mn, .mc, .me, .nd, .pc] ++
    Property.members .joinControl).normalize

/-- The ASCII characters of words. -/
def asciiWordChars : CharSet := CharSet.ofText "30-39 41-5a 5f 61-7a"

/-- Whether `c` is a character of words. -/
def isWordChar (unicode : Bool) (c : Char) : Bool :=
  if unicode && !isAscii c then wordChars.contains c else c.isAlphanum || c = '_'

/-- The characters of a short class. -/
def ShortClass.members (c : ShortClass) (unicode : Bool) : CharSet :=
  match c, unicode with
  | .digit, true => Category.members .nd
  | .digit, false => CharSet.ofText "30-39"
  | .space, true => Property.members .whiteSpace
  | .space, false => CharSet.ofText "9-d 20"
  | .word, true => wordChars
  | .word, false => asciiWordChars

/-- The characters of a named class. -/
def NamedClass.members : NamedClass → CharSet
  | .alnum => CharSet.ofText "30-39 41-5a 61-7a"
  | .alpha => CharSet.ofText "41-5a 61-7a"
  | .ascii => CharSet.ofText "0-7f"
  | .blank => CharSet.ofText "9 20"
  | .cntrl => CharSet.ofText "0-1f 7f"
  | .digit => CharSet.ofText "30-39"
  | .graph => CharSet.ofText "21-7e"
  | .lower => CharSet.ofText "61-7a"
  | .print => CharSet.ofText "20-7e"
  | .punct => CharSet.ofText "21-2f 3a-40 5b-60 7b-7e"
  | .space => CharSet.ofText "9-d 20"
  | .upper => CharSet.ofText "41-5a"
  | .word => asciiWordChars
  | .xdigit => CharSet.ofText "30-39 41-46 61-66"

/-- The set with the other case of every ASCII letter in it. -/
def closeAsciiCase (s : CharSet) : CharSet :=
  s ++ ⟨(List.range 26).flatMap fun i =>
    if s.hasCode (0x41 + i) || s.hasCode (0x61 + i) then
      [(0x41 + i, 0x41 + i), (0x61 + i, 0x61 + i)]
    else []⟩

/-- The set with what is the same up to case, where case does not count. -/
def foldCase (m : Modes) (s : CharSet) : CharSet :=
  if !m.ignoreCase then s else if m.unicode then s.closeUnderCase else closeAsciiCase s

/-- The set or, if it is negated, its complement.  Outside Unicode mode a class is one of bytes, and
one that holds bytes of longer characters is refused. -/
def negateClass (m : Modes) (negated : Bool) (s : CharSet) : Except Refusal CharSet :=
  let s' := if negated then s.compl else s
  if m.unicode || s'.isAscii then .ok s' else .error .invalidUtf8

/-- The character that a literal stands for as a part of a class. -/
def classLiteral (m : Modes) (l : Literal) : Except Refusal Char :=
  if m.unicode || isAscii l.char then .ok l.char
  else if l.byte then .error .invalidUtf8
  else .error .unicodeNotAllowed

/-- The class that a property query stands for. -/
def propertyMembers (m : Modes) (q : PropertyQuery) (negated : Bool) : Except Refusal CharSet :=
  if !m.unicode then .error .unicodeNotAllowed
  else q.members.bind fun s => negateClass m negated (foldCase m s)

namespace ClassItem

mutual

/-- The characters of a part of a class. -/
def members (m : Modes) : ClassItem → Except Refusal CharSet
  | empty => .ok .empty
  | literal l => (classLiteral m l).map CharSet.singleton
  | range first last => do
    let lo ← classLiteral m first
    let hi ← classLiteral m last
    return .range lo.toNat hi.toNat
  | named c negated => negateClass m negated (foldCase m c.members)
  | property q negated => propertyMembers m q negated
  | short c negated => negateClass m negated (c.members m.unicode)
  | bracketed negated body => do negateClass m negated (foldCase m (← body.members m))
  | union items => membersOfAll m items
  | combined op left right => do
    let l := foldCase m (← left.members m)
    let r := foldCase m (← right.members m)
    return match op with
      | .intersection => l.inter r
      | .difference => l.diff r
      | .symmetricDifference => l.symmDiff r

/-- The characters of several parts. -/
def membersOfAll (m : Modes) : List ClassItem → Except Refusal CharSet
  | [] => .ok .empty
  | item :: items => do
    let s ← item.members m
    let t ← membersOfAll m items
    return s ++ t

end

end ClassItem

/-! ## Patterns -/

/-- The expression for a literal. -/
def literalMeaning (m : Modes) (l : Literal) : Except Refusal Expr :=
  if !m.unicode && l.byte && !isAscii l.char then .error .invalidUtf8
  else .ok (.set (foldCase m (.singleton l.char)))

/-- The expression for a dot. -/
def dotMeaning (m : Modes) : Except Refusal Expr :=
  if !m.unicode then .error .invalidUtf8
  else if m.dotAll then .ok (.set .all)
  else if m.crlf then .ok (.set (CharSet.ofText "a d").compl)
  else .ok (.set (CharSet.ofText "a").compl)

/-- The expression for a condition on a place. -/
def Assertion.meaning (m : Modes) : Assertion → Expr
  | .lineStart => .look (if m.multiLine then .lineStart m.crlf else .textStart)
  | .lineEnd => .look (if m.multiLine then .lineEnd m.crlf else .textEnd)
  | .textStart => .look .textStart
  | .textEnd => .look .textEnd
  | .wordBoundary => .look (.word m.unicode fun before after => before != after)
  | .notWordBoundary => .look (.word m.unicode fun before after => before == after)
  | .wordStart => .look (.word m.unicode fun before after => !before && after)
  | .wordEnd => .look (.word m.unicode fun before after => before && !after)
  | .wordStartHalf => .look (.word m.unicode fun before _ => !before)
  | .wordEndHalf => .look (.word m.unicode fun _ after => !after)

namespace Pattern

mutual

/-- The expression for a pattern, and the modes that hold after it. -/
def meaning (m : Modes) : Pattern → Except Refusal (Expr × Modes)
  | empty => .ok (.empty, m)
  | modes change => .ok (.empty, m.apply change)
  | literal l => do return (← literalMeaning m l, m)
  | dot => do return (← dotMeaning m, m)
  | assertion a => .ok (a.meaning m, m)
  | property q negated => do return (.set (← propertyMembers m q negated), m)
  | short c negated => do return (.set (← negateClass m negated (c.members m.unicode)), m)
  | bracketed negated body => do
    return (.set (← negateClass m negated (foldCase m (← body.members m))), m)
  | repeated least most body => do
    let (e, m') ← body.meaning m
    return (.repeated e least most, m')
  | group change body => do
    let (e, _) ← body.meaning (m.apply change)
    return (e, m)
  | alternation branches => do
    let (es, m') ← meanings m branches
    return (.choice es, m')
  | concat parts => do
    let (es, m') ← meanings m parts
    return (.sequence es, m')

/-- The expressions for several patterns, each in the modes that hold after the one before. -/
def meanings (m : Modes) : List Pattern → Except Refusal (List Expr × Modes)
  | [] => .ok ([], m)
  | p :: ps => do
    let (e, m') ← p.meaning m
    let (es, m'') ← meanings m' ps
    return (e :: es, m'')

end

end Pattern

end PathExpr.Matcher
