import PathExpr.Matcher.Group
import PathExpr.Matcher.Match
import PathExpr.Matcher.Size
import PathExpr.Regex.Engine

/-!
# PathExpr/Matcher/Engine — the matcher as an engine

`build` reads a pattern and gives the expression that it means under the settings, if it keeps
within the limit of size.
-/

namespace PathExpr.Matcher

/-- The modes that the settings mean. -/
def modes (s : Regex.Settings) : Modes where
  ignoreCase := s.ignoreCase
  multiLine := s.multiLine
  dotAll := s.dotAll
  unicode := true
  crlf := false

/-- The expression of a pattern. -/
def build (s : Regex.Settings) (text : List Char) : Except Refusal Expr := do
  let p ← Pattern.read text
  let (e, _) ← p.meaning (modes s)
  if e.fits then return e else .error .tooBig

/-- The text with a backslash before every character that has a meaning of its own. -/
def escapeMeta (text : List Char) : List Char :=
  text.flatMap fun c => if isMeta c then ['\\', c] else [c]

/-- The refusal as an engine tells it. -/
def Refusal.error (r : Refusal) : Regex.BuildError := ⟨r.message, r = .tooBig⟩

/-- The matcher. -/
@[reducible] def engine : Regex.Engine where
  Compiled := Expr
  escape text := String.ofList (escapeMeta text.toList)
  build s pattern := (build s pattern.toList).mapError Refusal.error
  isMatch e text := e.matchesIn text.toList

end PathExpr.Matcher
