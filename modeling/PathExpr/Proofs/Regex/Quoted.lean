import PathExpr.Proofs.Matcher.Verbatim
import PathExpr.Regex.Test

/-!
# PathExpr/Proofs/Regex/Quoted — quoted patterns are literals

Under the flag `q` the engine gets a pattern escaped.  What becomes of the pattern is then up to the
engine, of which two things are supposed (`Engine.EscapesLiterally`): it refuses escaped text for
nothing but its size, and without options escaped text matches as it stands.  The rest is in the way
`compile` makes use of the engine.

The matcher of this library is such an engine (`escapesLiterally`).
-/

namespace PathExpr.Regex

section

variable [Engine]

/-- The engine keeps to escaped text: it builds all that is not too big, and without options what it
builds matches the texts in which the text before escaping occurs. -/
structure Engine.EscapesLiterally : Prop where
  tooBig {pattern : String} {e : BuildError} (h : build {} (escape pattern) = .error e) :
    e.tooBig = true
  isMatch_iff {pattern : String} {re : Compiled} (h : build {} (escape pattern) = .ok re)
    (text : String) : isMatch re text = true ↔ pattern.toList <:+: text.toList

/-- The pattern, escaped, is not too big for the engine. -/
def Engine.Fits (pattern : String) : Prop :=
  ∀ e, build {} (escape pattern) = .error e → e.tooBig = false

/-- Escaped text that is not too big is built. -/
theorem Engine.EscapesLiterally.exists_build (h : Engine.EscapesLiterally) {pattern : String}
    (hp : Engine.Fits pattern) :
    ∃ re, Engine.build {} (Engine.escape pattern) = .ok re := by
  cases hb : Engine.build {} (Engine.escape pattern) with
  | ok re => exact ⟨re, rfl⟩
  | error e => exact absurd ((hp e hb).symm.trans (h.tooBig hb)) Bool.false_ne_true

/-- Of the flags besides `q`, only `i` has a part in a quoted pattern. -/
theorem compile_quoted {fs : Flags} (hq : fs.quoted = true) (pattern : String) :
    compile pattern fs =
      (Engine.build { ignoreCase := fs.ignoreCase } (Engine.escape pattern)).mapError
        (.refused pattern) := by
  rw [compile, if_pos hq]

end

/-- **A quoted pattern is a literal, whatever the other flags but `i`.** -/
theorem quoted_patterns_are_literal [Engine] (h : Engine.EscapesLiterally) (pattern : String) :
    -- Within the limit of size it is accepted and matches the texts of which it is a part.
    (Engine.Fits pattern → ∀ fs : Flags, fs.quoted = true → fs.ignoreCase = false →
      ∃ re, compile pattern fs = .ok re ∧
        ∀ text, Engine.isMatch re text = true ↔ pattern.toList <:+: text.toList) ∧
    -- With `i` or without, the remaining flags do not change the outcome.
    (∀ fs gs : Flags, fs.quoted = true → gs.quoted = true → fs.ignoreCase = gs.ignoreCase →
      compile pattern fs = compile pattern gs) ∧
    -- Without `q`, the flag `x` is refused.
    ∀ fs : Flags, fs.quoted = false → fs.expanded = true →
      compile pattern fs = .error .expandedFlag := by
  refine ⟨fun hp fs hq hi => ?_, fun fs gs hq hq' hi => ?_, fun fs hq hx => ?_⟩
  · obtain ⟨re, hre⟩ := h.exists_build hp
    refine ⟨re, ?_, h.isMatch_iff hre⟩
    rw [compile_quoted hq, hi, hre]
    rfl
  · rw [compile_quoted hq, compile_quoted hq', hi]
  · rw [compile, if_neg (by simp [hq]), if_pos hx]

/-! ## The matcher -/

theorem build_escape (pattern : String) : Engine.build {} (Engine.escape pattern) =
    if (Matcher.verbatim pattern.toList).fits then .ok (Matcher.verbatim pattern.toList)
    else .error (Matcher.Refusal.error .tooBig) := by
  change (Matcher.build {} (String.ofList _).toList).mapError _ = _
  rw [String.toList_ofList, Matcher.build_escapeMeta]
  split <;> rfl

/-- **The matcher keeps to escaped text.** -/
theorem escapesLiterally : Engine.EscapesLiterally where
  tooBig {pattern e} h := by
    rw [build_escape] at h
    split at h <;> cases h
    rfl
  isMatch_iff {pattern re} h text := by
    rw [build_escape] at h
    split at h <;> cases h
    exact Matcher.matchesIn_verbatim

/-- The pattern `a.c` under `smxq`: it is found where it stands, and its dot is no wildcard.  With
`i`, too, the flags `smx` do not count. -/
theorem quoted_patterns_are_literal_dot :
    Engine.EscapesLiterally ∧ Engine.Fits "a.c" ∧
    (∃ re, compile "a.c" ⟨false, true, true, true, true⟩ = .ok re ∧
      Engine.isMatch re "xa.cx" = true ∧ ¬ Engine.isMatch re "abc" = true) ∧
    compile "a.c" ⟨true, true, true, true, true⟩ =
      compile "a.c" ⟨true, false, false, false, true⟩ ∧
    compile "a.c" ⟨false, true, true, true, false⟩ = .error .expandedFlag := by
  have hp : Engine.Fits "a.c" := by
    intro e h
    rw [build_escape, if_pos (by decide +kernel)] at h
    cases h
  obtain ⟨hliteral, hflags, hx⟩ := quoted_patterns_are_literal escapesLiterally "a.c"
  obtain ⟨re, hcompile, hmatches⟩ := hliteral hp ⟨false, true, true, true, true⟩ rfl rfl
  refine ⟨escapesLiterally, hp, ⟨re, hcompile, (hmatches "xa.cx").mpr (by decide), ?_⟩,
    hflags _ _ rfl rfl rfl, hx _ rfl rfl⟩
  rw [hmatches "abc"]
  decide

end PathExpr.Regex
