import PathExpr.Matcher.Engine
import PathExpr.Regex.Compile

/-!
# PathExpr/Regex/Test — pattern tests that run

Everything else takes the engine behind pattern tests as it comes.  Where tests are run, the matcher
of this library is the engine.
-/

namespace PathExpr.Regex

instance : Engine := Matcher.engine

end PathExpr.Regex
