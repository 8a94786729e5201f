import PathExpr.Regex.Engine
import PathExpr.Text.Shown

/-!
# PathExpr/Regex/Flags — the flags of a pattern test

The flags of `like_regex` are a set of five, written as letters in any order and number.
`Flags.text` writes each flag of the set once, in the order `i s m x q`.
-/

namespace PathExpr

/-- Why a pattern test cannot be built. -/
inductive PatternFault
  /-- A letter that is no flag. -/
  | unknownFlag (c : Char)
  /-- The flag for expanded patterns, which are not supported. -/
  | expandedFlag
  /-- A pattern that the engine refuses. -/
  | refused (pattern : String) (error : Regex.BuildError)
deriving DecidableEq

/-- The wording of a fault in a pattern test. -/
def PatternFault.message : PatternFault → String
  | .unknownFlag c => "unrecognized flag character " ++ showChar c ++ " in LIKE_REGEX predicate"
  | .expandedFlag => "XQuery \"x\" flag (expanded regular expressions) is not implemented"
  | .refused pattern error =>
    "invalid regular expression " ++ showText pattern ++ ": " ++ error.summary

namespace Regex

/-- A flag of a pattern test. -/
inductive Flag
  /-- Letters match in either case. -/
  | ignoreCase
  /-- A dot matches a line feed, too. -/
  | dotAll
  /-- The anchors match at every line. -/
  | multiLine
  /-- Blanks in the pattern do not count. -/
  | expanded
  /-- Every character of the pattern stands for itself. -/
  | quoted
deriving DecidableEq

namespace Flag

/-- The flags in the order in which a set of them is written. -/
def all : List Flag := [ignoreCase, dotAll, multiLine, expanded, quoted]

/-- The letter of the flag. -/
def letter : Flag → Char
  | ignoreCase => 'i'
  | dotAll => 's'
  | multiLine => 'm'
  | expanded => 'x'
  | quoted => 'q'

/-- The flag that a letter stands for. -/
def ofLetter? : Char → Option Flag
  | 'i' => some ignoreCase
  | 's' => some dotAll
  | 'm' => some multiLine
  | 'x' => some expanded
  | 'q' => some quoted
  | _ => none

end Flag

/-- A set of flags. -/
structure Flags where
  ignoreCase : Bool
  dotAll : Bool
  multiLine : Bool
  expanded : Bool
  quoted : Bool
deriving DecidableEq

namespace Flags

/-- No flags. -/
def empty : Flags := ⟨false, false, false, false, false⟩

/-- Whether the set holds the flag. -/
def has (fs : Flags) : Flag → Bool
  | .ignoreCase => fs.ignoreCase
  | .dotAll => fs.dotAll
  | .multiLine => fs.multiLine
  | .expanded => fs.expanded
  | .quoted => fs.quoted

/-- The set of one flag. -/
def single (f : Flag) : Flags :=
  ⟨f = .ignoreCase, f = .dotAll, f = .multiLine, f = .expanded, f = .quoted⟩

/-- The flags of both sets. -/
def insert (fs gs : Flags) : Flags :=
  ⟨fs.ignoreCase || gs.ignoreCase, fs.dotAll || gs.dotAll, fs.multiLine || gs.multiLine,
    fs.expanded || gs.expanded, fs.quoted || gs.quoted⟩

/-- Whether all flags of `gs` are in `fs`. -/
def contains (fs gs : Flags) : Bool := Flag.all.all fun f => !gs.has f || fs.has f

/-- Whether the set has no flag. -/
def isEmpty (fs : Flags) : Bool := fs = empty

/-- The flags that the letters stand for, on top of `fs`; the first letter that is no flag is a
fault. -/
def readFrom (fs : Flags) : List Char → Except PatternFault Flags
  | [] => .ok fs
  | c :: rest =>
    match Flag.ofLetter? c with
    | some f => readFrom (fs.insert (single f)) rest
    | none => .error (.unknownFlag c)

/-- The set of flags that a text writes. -/
def read (text : String) : Except PatternFault Flags := readFrom empty text.toList

/-- Each flag of the set once, in their order. -/
def text (fs : Flags) : String :=
  String.ofList ((Flag.all.filter fs.has).map Flag.letter)

end Flags

end Regex

end PathExpr
