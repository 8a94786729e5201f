import PathExpr.Proofs.Lexical.Faults
import PathExpr.Proofs.Misuse
import PathExpr.Proofs.Syntax.Blame

/-!
# PathExpr/Proofs/Reports — what is told of a text that is no path

Reading a text ends in one of four ways, and `Outcome` says of each when it happens: a fault of the
characters, one of the order of tokens, a constant out of its place, or a path (`parse_outcome`).
The stage and the place of what is told are read off it (`stages_told`).

A verbose message is the other one with alternatives behind it (`verbose_adds_alternatives`).
-/

namespace PathExpr

/-! ## Places of tokens -/

theorem kind_finish (text : String) : (tokenStream text).finish.kind = .finish := by
  rw [tokenStream, (covered_ofCursor (.ofText text.toList)).finish_eq]

/-- **The position from which on so many tokens are left is that of a token**, the end included. -/
theorem exists_token_of_suffix {s : Stream} {us : List TokenKind} (hk : s.finish.kind = .finish)
    (h : us <:+ s.tokens.map Token.kind) :
    ∃ before t after, s.all = before ++ t :: after ∧ t.position = s.positionOf us.length ∧
      (t :: after).map Token.kind = us ++ [.finish] := by
  -- With no token left the position is that of the end.
  have hus := List.suffix_iff_eq_drop.mp h
  rw [List.length_map, ← List.map_drop] at hus
  have hall : s.all = s.tokens.take (s.tokens.length - us.length) ++
      (s.tokens.drop (s.tokens.length - us.length) ++ [s.finish]) := by
    rw [← List.append_assoc, List.take_append_drop, Stream.all]
  unfold Stream.positionOf
  cases hd : s.tokens.drop (s.tokens.length - us.length) with
  | nil =>
    rw [hd] at hall hus
    exact ⟨_, s.finish, [], hall, rfl, by rw [hus]; simp [hk]⟩
  | cons t more =>
    rw [hd] at hall hus
    exact ⟨_, t, more ++ [s.finish], hall, rfl, by rw [hus]; simp [hk]⟩

/-! ## How reading ends -/

section

variable [Regex.Engine] {text : String}

/-- The tokens of the text form no path. -/
def Ungrammatical (text : String) : Prop :=
  ∀ mode root, ¬ IsPath mode root ((tokenStream text).tokens.map Token.kind)

/-- How reading the text ends. -/
inductive Outcome (text : String) : Except Failure Path → Prop
  | lexical {f : PlacedFault} {more : List PlacedFault}
      (h : (tokenStream text).faults = f :: more) : Outcome text (.error (.lexical f))
  | grammar {fault : GrammarFault} {before after : List Token} {t : Token}
      (hf : (tokenStream text).faults = []) (hn : Ungrammatical text)
      (hall : (tokenStream text).all = before ++ t :: after)
      (hfound : Grammar.FoundAt fault ((t :: after).map Token.kind)) :
      Outcome text (.error (.grammar fault t.position))
  | scope {mode : Mode} {root : Chain} {fault : ScopeFault}
      (hf : (tokenStream text).faults = [])
      (hpath : IsPath mode root ((tokenStream text).tokens.map Token.kind))
      (hscope : root.check false false = some fault) : Outcome text (.error (.scope fault))
  | path {p : Path} (hf : (tokenStream text).faults = [])
      (hpath : IsPath p.mode p.root ((tokenStream text).tokens.map Token.kind)) :
      Outcome text (.ok p)

theorem ungrammatical_of_error {stop : Stop}
    (h : Grammar.whole ((tokenStream text).tokens.map Token.kind) = .error stop) :
    Ungrammatical text := by
  intro mode root hpath
  rw [Grammar.whole_eq_ok_iff_isPath.mpr hpath] at h
  cases h

/-- Reading the tokens ends as it should. -/
theorem ofStream_outcome (hf : (tokenStream text).faults = [])
    (ht : tokens? text = .ok (tokenStream text)) :
    Outcome text (Path.ofStream (tokenStream text)) := by
  have hl : Lexes text.toList _ := tokens?_eq_ok.mp ⟨_, ht, rfl⟩
  unfold Path.ofStream
  match hw : Grammar.whole ((tokenStream text).tokens.map Token.kind) with
  | .error (.misuse m) => exact absurd hw ((Grammar.graceful_whole hl.genuine).ne_misuse m)
  | .error (.fault fault left) =>
    obtain ⟨us, hus, rfl, hfound⟩ := Grammar.blames_whole _ fault left hw
    obtain ⟨before, t, after, hall, hpos, hkinds⟩ :=
      exists_token_of_suffix (kind_finish text) hus
    have hout := Outcome.grammar hf (ungrammatical_of_error hw) hall (hkinds ▸ hfound)
    rwa [hpos] at hout
  | .ok (mode, root) =>
    have hpath := Grammar.whole_eq_ok_iff_isPath.mp hw
    change Outcome text ((Path.ofChain root mode root.isPredicate).mapError Failure.scope)
    unfold Path.ofChain
    split
    · exact .path hf hpath
    next fault hscope => exact .scope hf hpath hscope

/-- **Reading a text ends as it should.** -/
theorem parse_outcome (text : String) : Outcome text (Path.parse text) := by
  unfold Path.parse
  rcases tokens?_cases text with ⟨hf, ht⟩ | ⟨f, more, hf, ht⟩
  · rw [ht]
    exact ofStream_outcome hf ht
  · rw [ht]
    exact .lexical hf

/-! ## What is told -/

/-- Reading a text, with the failure as it is told. -/
def Path.reported (verbose : Bool) (text : String) : Except (Except Misuse Report) Path :=
  (Path.parse text).mapError (Failure.report verbose)

namespace Outcome

variable {verbose : Bool} {x : Except Failure Path}

/-- A text with a fault in its characters fails for the first one. -/
theorem eq_lexical (h : Outcome text x) {f : PlacedFault} {more : List PlacedFault}
    (hf : (tokenStream text).faults = f :: more) : x = .error (.lexical f) := by
  cases h with
  | lexical hf' => rw [(List.cons.inj (hf'.symm.trans hf)).1]
  | grammar hf' | scope hf' | path hf' => exact absurd (hf.symm.trans hf') (by simp)

/-- If the tokens form a path, it is one unless a constant is out of its place. -/
theorem eq_scope (h : Outcome text x) (hf : (tokenStream text).faults = []) {mode : Mode}
    {root : Chain} {fault : ScopeFault}
    (hpath : IsPath mode root ((tokenStream text).tokens.map Token.kind))
    (hscope : root.check false false = some fault) : x = .error (.scope fault) := by
  cases h with
  | lexical hf' => exact absurd (hf.symm.trans hf') (by simp)
  | grammar _ hn => exact absurd hpath (hn mode root)
  | scope _ hpath' hscope' =>
    obtain ⟨-, rfl⟩ := Grammar.isPath_unique hpath hpath'
    rw [Option.some.inj (hscope.symm.trans hscope')]
  | path _ hpath' =>
    obtain ⟨-, rfl⟩ := Grammar.isPath_unique hpath hpath'
    exact absurd (hscope.symm.trans (Path.inScope _)) (by simp)

/-- If they form none, their order is at fault. -/
theorem exists_grammar (h : Outcome text x) (hf : (tokenStream text).faults = [])
    (hn : Ungrammatical text) : ∃ fault position, x = .error (.grammar fault position) := by
  cases h with
  | lexical hf' => exact absurd (hf.symm.trans hf') (by simp)
  | grammar => exact ⟨_, _, rfl⟩
  | scope _ hpath | path _ hpath => exact absurd hpath (hn _ _)

/-- **The lexer tells the first fault of the characters.** -/
theorem lexer_iff (h : Outcome text x) (r : Report) :
    x.mapError (Failure.report verbose) = .error (.ok r) ∧ r.stage = .lexer ↔
      ∃ f more, (tokenStream text).faults = f :: more ∧
        r = ⟨.lexer, f.fault.message, some f.position⟩ := by
  constructor
  · rintro ⟨e, hr⟩
    cases h with
    | lexical hf =>
      cases e
      exact ⟨_, _, hf, rfl⟩
    | _ => cases e <;> cases hr
  · rintro ⟨f, more, hf, rfl⟩
    rw [h.eq_lexical hf]
    exact ⟨rfl, rfl⟩

/-- **The parser tells of tokens that form no path.** -/
theorem parser_iff (h : Outcome text x) :
    (∃ r, x.mapError (Failure.report verbose) = .error (.ok r) ∧ r.stage = .parser) ↔
      (tokenStream text).faults = [] ∧ Ungrammatical text := by
  constructor
  · rintro ⟨r, e, hr⟩
    cases h with
    | grammar hf hn => exact ⟨hf, hn⟩
    | _ => cases e <;> cases hr
  · rintro ⟨hf, hn⟩
    obtain ⟨fault, position, rfl⟩ := h.exists_grammar hf hn
    exact ⟨_, rfl, rfl⟩

/-- **…and does so at a token where the fault is found.** -/
theorem exists_found (h : Outcome text x) (r : Report)
    (e : x.mapError (Failure.report verbose) = .error (.ok r)) (hr : r.stage = .parser) :
    ∃ fault before t after, (tokenStream text).all = before ++ t :: after ∧
      Grammar.FoundAt fault ((t :: after).map Token.kind) ∧
      r = ⟨.parser, fault.message verbose, some t.position⟩ := by
  cases h with
  | grammar _ _ hall hfound =>
    cases e
    exact ⟨_, _, _, _, hall, hfound, rfl⟩
  | _ => cases e <;> cases hr

/-- **Constants out of their place are told of, and no place.** -/
theorem tree_iff (h : Outcome text x) (r : Report) :
    x.mapError (Failure.report verbose) = .error (.ok r) ∧ r.stage = .tree ↔
      (tokenStream text).faults = [] ∧ ∃ mode root fault,
        IsPath mode root ((tokenStream text).tokens.map Token.kind) ∧
        root.check false false = some fault ∧ r = ⟨.tree, fault.message, none⟩ := by
  constructor
  · rintro ⟨e, hr⟩
    cases h with
    | scope hf hpath hscope =>
      cases e
      exact ⟨hf, _, _, _, hpath, hscope, rfl⟩
    | _ => cases e <;> cases hr
  · rintro ⟨hf, mode, root, fault, hpath, hscope, rfl⟩
    rw [h.eq_scope hf hpath hscope]
    exact ⟨rfl, rfl⟩

/-- Nothing fails without being told. -/
theorem path_or_report (h : Outcome text x) :
    (∃ p, x.mapError (Failure.report verbose) = .ok p) ∨
      ∃ r, x.mapError (Failure.report verbose) = .error (.ok r) := by
  cases h with
  | path => exact .inl ⟨_, rfl⟩
  | _ => exact .inr ⟨_, rfl⟩

end Outcome

/-- **Failures are told by their stage and place.** -/
theorem stages_told (verbose : Bool) (text : String) :
    -- The lexer tells the first fault of the characters, whatever else is wrong;
    (∀ r, Path.reported verbose text = .error (.ok r) ∧ r.stage = .lexer ↔
      ∃ f more, (tokenStream text).faults = f :: more ∧
        r = ⟨.lexer, f.fault.message, some f.position⟩) ∧
    -- without such a fault, the parser tells if the tokens form no path,
    ((∃ r, Path.reported verbose text = .error (.ok r) ∧ r.stage = .parser) ↔
      (tokenStream text).faults = [] ∧ Ungrammatical text) ∧
    -- and what it tells is to be found at the token where it tells it;
    (∀ r, Path.reported verbose text = .error (.ok r) → r.stage = .parser →
      ∃ fault before t after, (tokenStream text).all = before ++ t :: after ∧
        Grammar.FoundAt fault ((t :: after).map Token.kind) ∧
        r = ⟨.parser, fault.message verbose, some t.position⟩) ∧
    -- if they form one, constants out of their place are told, and no place;
    (∀ r, Path.reported verbose text = .error (.ok r) ∧ r.stage = .tree ↔
      (tokenStream text).faults = [] ∧ ∃ mode root fault,
        IsPath mode root ((tokenStream text).tokens.map Token.kind) ∧
        root.check false false = some fault ∧ r = ⟨.tree, fault.message, none⟩) ∧
    -- and otherwise the text is a path.
    ((∃ p, Path.reported verbose text = .ok p) ∨
      ∃ r, Path.reported verbose text = .error (.ok r)) := by
  have h := parse_outcome text
  exact ⟨h.lexer_iff, h.parser_iff, h.exists_found, h.tree_iff, h.path_or_report⟩

end

/-! ## Alternatives in verbose messages -/

theorem alternatives_ne_nil (w : Wanted) : w.alternatives ≠ [] := by
  cases w <;> exact List.cons_ne_nil _ _

/-- A message tells four alternatives at most, and says so if there are more. -/
theorem exists_told (w : Wanted) : ∃ told untold, w.alternatives = told ++ untold ∧
    1 ≤ told.length ∧ told.length ≤ 4 ∧ (untold ≠ [] → told.length = 4) ∧
    w.message = ", expecting " ++ " or ".intercalate told ++
      if untold = [] then "" else " or ..." := by
  have hpos := List.length_pos_of_ne_nil (alternatives_ne_nil w)
  refine ⟨w.alternatives.take 4, w.alternatives.drop 4, (List.take_append_drop 4 _).symm, ?_, ?_,
    ?_, ?_⟩
  · rw [List.length_take]
    omega
  · exact List.length_take_le _ _
  · intro hmore
    have hlong : 4 < w.alternatives.length := by simpa using hmore
    rw [List.length_take, Nat.min_eq_left (Nat.le_of_lt hlong)]
  · by_cases hmore : 4 < w.alternatives.length
    · rw [Wanted.message, toldAlternatives, if_pos hmore, if_neg (by simpa using hmore)]
    · rw [Wanted.message, toldAlternatives, if_neg hmore, if_pos (by simpa using hmore)]

/-- **A verbose message only says more**, and only of a token out of place. -/
theorem message_verbose (fault : GrammarFault) : fault.message true = fault.message false ∨
    ∃ found wanted, fault = .unexpected found wanted ∧
      fault.message true = fault.message false ++ wanted.message := by
  cases fault with
  | unexpected found wanted =>
    refine .inr ⟨found, wanted, rfl, ?_⟩
    change "unexpected " ++ found.display ++ wanted.message =
      "unexpected " ++ found.display ++ "" ++ wanted.message
    rw [String.append_empty]
  | _ => exact .inl rfl

/-- **Verbose or not, the same paths are read, and the same failures told** but for the alternatives
behind the message. -/
theorem verbose_adds_alternatives [Regex.Engine] (text : String) :
    (∃ p, Path.reported false text = .ok p ∧ Path.reported true text = .ok p) ∨
    ∃ quiet loud, Path.reported false text = .error (.ok quiet) ∧
      Path.reported true text = .error (.ok loud) ∧
      loud.stage = quiet.stage ∧ loud.position = quiet.position ∧
      (loud.text = quiet.text ∨ ∃ found wanted position told untold,
        Path.parse text = .error (.grammar (.unexpected found wanted) position) ∧
        wanted.alternatives = told ++ untold ∧ 1 ≤ told.length ∧ told.length ≤ 4 ∧
        (untold ≠ [] → told.length = 4) ∧
        loud.text = quiet.text ++ (", expecting " ++ " or ".intercalate told ++
          if untold = [] then "" else " or ...")) := by
  unfold Path.reported
  have hout := parse_outcome text
  generalize Path.parse text = x at hout
  cases hout with
  | path => exact .inl ⟨_, rfl, rfl⟩
  | lexical | scope => exact .inr ⟨_, _, rfl, rfl, rfl, rfl, .inl rfl⟩
  | @grammar fault _ _ t =>
    refine .inr ⟨_, _, rfl, rfl, rfl, rfl, ?_⟩
    rcases message_verbose fault with h | ⟨found, wanted, rfl, h⟩
    · exact .inl h
    · obtain ⟨told, untold, hall, hpos, hle, hfull, hm⟩ := exists_told wanted
      exact .inr ⟨found, wanted, t.position, told, untold, rfl, hall, hpos, hle, hfull, hm ▸ h⟩

end PathExpr
