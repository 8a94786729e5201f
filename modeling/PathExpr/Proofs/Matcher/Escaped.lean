import PathExpr.Matcher.Engine

/-!
# PathExpr/Proofs/Matcher/Escaped — escaped text is a pattern of its characters

A backslash before every character that has a meaning of its own makes a pattern of any text.  It is
read as the literals of the text one after another (`read_escapeMeta`), and so without settings it
is built as the characters of the text, unless they are too many (`build_escapeMeta`).
-/

namespace PathExpr.Matcher

variable {α β : Type} {c : Char} {s : Progress} {m : Modes} {text rest rest' : List Char}

theorem escapeMeta_cons (c : Char) (text : List Char) :
    escapeMeta (c :: text) = (if isMeta c then ['\\', c] else [c]) ++ escapeMeta text :=
  List.flatMap_cons

/-! ## Readings that succeed -/

namespace Reading

/-- The reading gives the value and leaves the rest of the text. -/
def Gives (p : Reading α) (text : List Char) (a : α) (rest : List Char) : Prop :=
  ∃ hle, p text = .ok (a, ⟨rest, hle⟩)

theorem gives_pure (a : α) (text : List Char) : Gives (pure a) text a text :=
  ⟨Nat.le_refl _, rfl⟩

theorem Gives.bind {p : Reading α} {f : α → Reading β} {a : α} {b : β} (hp : Gives p text a rest)
    (hf : Gives (f a) rest b rest') : Gives (p >>= f) text b rest' := by
  obtain ⟨hle, ep⟩ := hp
  obtain ⟨hle', ef⟩ := hf
  refine ⟨Nat.le_trans hle' hle, ?_⟩
  change Reading.bind p f text = _
  rw [Reading.bind, ep]
  dsimp only
  rw [ef]
  rfl

theorem gives_ahead (text : List Char) : Gives ahead text text text :=
  ⟨Nat.le_refl _, rfl⟩

theorem gives_skip_one (c : Char) (rest : List Char) : Gives (skip 1) (c :: rest) () rest :=
  ⟨Nat.le_succ _, rfl⟩

end Reading

open Reading (Gives)

/-! ## Reading one character -/

/-- What has a meaning of its own is neither a digit nor the letter of a code or a property. -/
theorem isMeta_ne (hc : isMeta c = true) :
    c.isDigit = false ∧ ¬ (c = 'x' ∨ c = 'u' ∨ c = 'U') ∧ ¬ (c = 'p' ∨ c = 'P') := by
  have hall : ['\\', '.', '+', '*', '?', '(', ')', '|', '[', ']', '\x7b', '\x7d', '^', '$', '#',
      '&', '-', '~'].all (fun d => !d.isDigit && d != 'x' && d != 'u' && d != 'U' && d != 'p' &&
        d != 'P') = true := rfl
  have h := List.all_eq_true.mp hall c (List.contains_iff_mem.mp hc)
  simp only [Bool.and_eq_true, Bool.not_eq_true', bne_iff_ne] at h
  simpa only [not_or, and_assoc] using h

theorem gives_escaped (b : Bool) (hc : isMeta c = true) (rest : List Char) :
    Gives (escaped b) (c :: rest) (.char c) rest := by
  obtain ⟨hd, hx, hp⟩ := isMeta_ne hc
  refine (Reading.gives_ahead _).bind ?_
  dsimp only
  rw [hd, if_neg Bool.false_ne_true, if_neg hx, if_neg hp, if_pos (.inl hc)]
  exact (Reading.gives_skip_one c rest).bind (Reading.gives_pure _ _)

theorem gives_patternStep_escaped (hc : isMeta c = true) (rest : List Char) :
    Gives (patternStep s '\\') (c :: rest) (s.push (.literal ⟨c, false⟩)) rest :=
  (gives_escaped s.blanks hc rest).bind (Reading.gives_pure _ _)

theorem gives_patternStep_plain (hc : isMeta c = false) (rest : List Char) :
    Gives (patternStep s c) rest (s.push (.literal ⟨c, false⟩)) rest := by
  unfold patternStep
  split
  case h_13 => exact Reading.gives_pure _ _
  all_goals exact absurd hc (by decide)

/-! ## Reading a text -/

/-- The characters of a text as patterns. -/
def literals (text : List Char) : List Pattern := text.map fun c => .literal ⟨c, false⟩

theorem readFrom_nil (hs : s.blanks = false) : readFrom s [] = .ok s := by
  have hb : dropBlanks s.blanks [] = .whole [] := by rw [hs]; rfl
  rw [readFrom, hb]
  rfl

theorem readFrom_cons {s' : Progress} (hs : s.blanks = false)
    (h : Gives (patternStep s c) text s' rest) : readFrom s (c :: text) = readFrom s' rest := by
  obtain ⟨hle, e⟩ := h
  have hb : dropBlanks s.blanks (c :: text) = .whole (c :: text) := by rw [hs]; rfl
  rw [readFrom, hb]
  simp only [Rest.whole, e]

/-- The state with more parts at the end of the branch in progress. -/
def Progress.extend (s : Progress) (ps : List Pattern) : Progress :=
  { s with current := { s.current with parts := ps.reverse ++ s.current.parts } }

theorem Progress.extend_push (s : Progress) (p : Pattern) (ps : List Pattern) :
    (s.push p).extend ps = s.extend (p :: ps) := by
  simp [extend, push, OpenBranch.push]

theorem readFrom_escapeMeta (hs : s.blanks = false) (text : List Char) :
    readFrom s (escapeMeta text) = .ok (s.extend (literals text)) := by
  induction text generalizing s with
  | nil => exact readFrom_nil hs
  | cons c text ih =>
    have hpush : readFrom (s.push (.literal ⟨c, false⟩)) (escapeMeta text) =
        .ok (s.extend (literals (c :: text))) := by
      rw [ih (by exact hs), Progress.extend_push]
      rfl
    rw [escapeMeta_cons]
    cases hc : isMeta c with
    | true => exact (readFrom_cons hs (gives_patternStep_escaped hc _)).trans hpush
    | false => exact (readFrom_cons hs (gives_patternStep_plain hc _)).trans hpush

theorem depths_literals (text : List Char) : Pattern.depths (literals text) = 0 := by
  induction text with
  | nil => rfl
  | cons c text ih =>
    change max 0 (Pattern.depths (literals text)) = 0
    rw [ih, Nat.max_self]

/-- A sequence is nested no deeper than its parts but for itself. -/
theorem depth_sequence_le (ps : List Pattern) :
    (Pattern.sequence ps).depth ≤ Pattern.depths ps + 1 := by
  match ps with
  | [] => exact Nat.zero_le _
  | [p] => exact Nat.le_succ_of_le (Nat.le_max_left _ _)
  | _ :: _ :: _ => exact Nat.le_refl _

/-- **Escaped text is read as its characters one after another.** -/
theorem read_escapeMeta (text : List Char) :
    Pattern.read (escapeMeta text) = .ok (.sequence (literals text)) := by
  have hclose : (Progress.start.extend (literals text)).current.close =
      .sequence (literals text) := by
    simp [Progress.extend, Progress.start, OpenBranch.close, OpenBranch.branch, OpenBranch.empty,
      Pattern.choice]
  have hdepth : (Pattern.sequence (literals text)).depth ≤ nestLimit := by
    refine Nat.le_trans (depth_sequence_le _) ?_
    rw [depths_literals]
    decide
  rw [Pattern.read, readFrom_escapeMeta rfl]
  dsimp only
  rw [hclose, if_pos hdepth]
  rfl

/-! ## The meaning of a text -/

/-- The characters of a text, one after another. -/
def verbatim (text : List Char) : Expr := .sequence (text.map fun c => .set (.singleton c))

theorem meaning_char (hm : m.ignoreCase = false) (c : Char) :
    Pattern.meaning m (.literal ⟨c, false⟩) = .ok (.set (.singleton c), m) := by
  have hfold : foldCase m (.singleton c) = .singleton c := by rw [foldCase, hm]; rfl
  rw [Pattern.meaning, literalMeaning, Bool.and_false, Bool.false_and, if_neg Bool.false_ne_true,
    hfold]
  rfl

theorem meanings_literals (hm : m.ignoreCase = false) (text : List Char) :
    Pattern.meanings m (literals text) =
      .ok (text.map fun c => .set (.singleton c), m) := by
  induction text with
  | nil => rfl
  | cons c text ih =>
    change Pattern.meanings m (.literal ⟨c, false⟩ :: literals text) = _
    rw [Pattern.meanings, meaning_char hm]
    change (Pattern.meanings m (literals text) >>= fun r => Except.ok (_ :: r.1, r.2)) = _
    rw [ih]
    rfl

/-- The meanings of parts one after another make that of the sequence. -/
theorem meaning_sequence {ps : List Pattern} {es : List Expr}
    (h : Pattern.meanings m ps = .ok (es, m)) :
    Pattern.meaning m (.sequence ps) = .ok (.sequence es, m) := by
  match ps with
  | [] =>
    cases h
    rfl
  | [p] =>
    rw [Pattern.meanings] at h
    cases hp : p.meaning m with
    | error r =>
      rw [hp] at h
      cases h
    | ok r =>
      rw [hp] at h
      cases h
      exact hp
  | p :: q :: ps =>
    change Pattern.meaning m (.concat (p :: q :: ps)) = _
    rw [Pattern.meaning, h]
    rfl

/-- **Escaped text is built as its characters one after another**, unless they are too many. -/
theorem build_escapeMeta (text : List Char) :
    build {} (escapeMeta text) =
      if (verbatim text).fits then .ok (verbatim text) else .error .tooBig := by
  have hmeaning : Pattern.meaning (modes {}) (.sequence (literals text)) =
      .ok (verbatim text, modes {}) := meaning_sequence (meanings_literals rfl text)
  rw [build, read_escapeMeta]
  change (Pattern.meaning (modes {}) (.sequence (literals text)) >>= _) = _
  rw [hmeaning]
  rfl

end PathExpr.Matcher
