import PathExpr.Text.Line

/-!
# PathExpr/Regex/Engine — engines of regular expressions

A pattern test leaves its pattern to an engine.  The engine builds a regular expression from the
text of the pattern or tells why it builds none, and finds out whether the expression matches.  It
is a parameter, taken as an instance, of everything that holds pattern tests: what is said of paths
is said whatever the engine.
-/

namespace PathExpr.Regex

/-- The options under which a pattern is built; each is off unless it is set. -/
structure Settings where
  ignoreCase : Bool := false
  dotAll : Bool := false
  multiLine : Bool := false
deriving DecidableEq

/-- Why an engine builds no regular expression. -/
structure BuildError where
  /-- The error in the words of the engine, of one line or more. -/
  text : String
  /-- Whether the pattern is refused for its size alone. -/
  tooBig : Bool
deriving DecidableEq

/-- The last line of the error. -/
def BuildError.summary (e : BuildError) : String :=
  String.ofList (trimmed (lastLine e.text.toList))

/-- An engine of regular expressions. -/
class Engine where
  /-- What the engine builds. -/
  Compiled : Type
  /-- The text with a backslash wherever a character would not stand for itself. -/
  escape : String → String
  /-- The regular expression of a pattern. -/
  build : Settings → String → Except BuildError Compiled
  /-- Whether some part of the text matches. -/
  isMatch : Compiled → String → Bool

/-- Whether some part of a text matches, given the characters of the text. -/
def Engine.Compiled.matchesIn [Engine] (re : Engine.Compiled) (text : List Char) : Bool :=
  Engine.isMatch re (String.ofList text)

end PathExpr.Regex
