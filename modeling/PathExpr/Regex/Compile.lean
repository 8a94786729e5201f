import PathExpr.Regex.Flags

/-!
# PathExpr/Regex/Compile — patterns under flags

Under the flag `q` every character of a pattern stands for itself, and of the other flags only `i`
counts: the engine gets the pattern escaped.  Otherwise the flag `x` is refused, and the engine gets
the pattern as it is, with the options that the flags set.  A `Test` is a pattern with flags that is
not refused.
-/

namespace PathExpr.Regex

variable [Engine]

/-- The regular expression of a pattern under flags. -/
def compile (pattern : String) (fs : Flags) : Except PatternFault Engine.Compiled :=
  if fs.quoted then
    (Engine.build { ignoreCase := fs.ignoreCase } (Engine.escape pattern)).mapError
      (.refused pattern)
  else if fs.expanded then .error .expandedFlag
  else
    (Engine.build { ignoreCase := fs.ignoreCase, dotAll := fs.dotAll, multiLine := fs.multiLine }
      pattern).mapError (.refused pattern)

/-- A pattern and flags that are not refused. -/
structure Test where
  pattern : String
  flags : Flags
  accepted : (compile pattern flags).isOk = true
deriving DecidableEq

namespace Test

/-- The test of a pattern under flags. -/
def ofFlags (pattern : String) (fs : Flags) : Except PatternFault Test :=
  match h : compile pattern fs with
  | .ok _ => .ok ⟨pattern, fs, by rw [h]; rfl⟩
  | .error fault => .error fault

/-- The test of a pattern under the flags that a text writes. -/
def read (pattern flags : String) : Except PatternFault Test :=
  (Flags.read flags).bind (ofFlags pattern)

end Test

end PathExpr.Regex
