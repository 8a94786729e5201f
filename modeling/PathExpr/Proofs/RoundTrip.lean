import PathExpr.Proofs.Parse
import PathExpr.Proofs.Printing.Printed
import PathExpr.Proofs.Shape.Parsed
import PathExpr.Regex.Test

/-!
# PathExpr/Proofs/RoundTrip — canonical texts are read back

The canonical text of a well-shaped expression is a path, and the same one (`exists_parse_render`).
Parsed paths are well shaped, so that their texts can be parsed in turn, and since same paths have
one text, nothing changes any more after that.
-/

namespace PathExpr

section

variable [Regex.Engine]

/-! ## Same paths -/

theorem isPredicate_of_role {c d : Chain} (h : Role.of c = Role.of d) :
    c.isPredicate = d.isPredicate := by
  cases hd : d.isPredicate with
  | true => exact Role.of_eq_predicate.mp (h.trans (Role.of_eq_predicate.mpr hd))
  | false => exact Role.of_eq_value.mp (h.trans (Role.of_eq_value.mpr hd))

theorem Path.same_iff {p q : Path} :
    p.same q = true ↔
      p.root.same q.root = true ∧ p.mode = q.mode ∧ p.predicate = q.predicate := by
  simp [Path.same, and_assoc]

/-- Same paths have one text. -/
theorem Path.text_of_same {p q : Path} (h : p.same q = true) : p.text = q.text := by
  obtain ⟨hroot, hmode, -⟩ := Path.same_iff.mp h
  rw [Path.text, Path.text, (Chain.alike hroot).render, hmode]

/-! ## Reading texts back -/

/-- The word for the mode is read as it, before an expression. -/
theorem lexes_mode {role : Role} {root : Chain} {text : List Char} {ts : List TokenKind}
    (mode : Mode) (h : Lexes text ts) (hd : Derives (.expression role 0 root) ts) :
    ∃ us, Lexes (mode.text.toList ++ text) us ∧ IsPath mode root us := by
  cases mode with
  | lax => exact ⟨ts, h, .bare hd⟩
  | strict =>
    refine ⟨_, spells_keyword .strict ?_ (lexes_blank h), .strict Keyword.strict.word hd⟩
    exact endsName_blank

/-- **The text of a well-shaped expression is a path with the same expression.** -/
theorem exists_parse_render {root : Chain} (hl : root.Linked) (hw : root.WellShaped)
    (hs : root.check false false = none) (mode : Mode) (parens : Bool) :
    ∃ q, Path.parse (String.ofList (mode.text.toList ++ root.render false parens)) = .ok q ∧
      q.root.same root = true ∧ q.mode = mode ∧ q.predicate = root.isPredicate := by
  obtain ⟨ts, d, hts, hd, hsame⟩ := (Chain.printed hw).whole ⟨hl, rfl⟩ parens
  obtain ⟨us, hus, hpath⟩ := lexes_mode mode (hts.lexes delimited_nil) hd
  have hscope : Chain.check false false d = none := by rw [(Chain.alike hsame).check, hs]
  refine ⟨⟨d, mode, d.isPredicate, hscope⟩, ?_, hsame, rfl, isPredicate_of_role hd.typed.2⟩
  exact Path.parse_eq_ok.mpr ⟨us, by rwa [String.toList_ofList], hpath, rfl⟩

/-- **…and so is the text of a path** that knows the role of its root. -/
theorem exists_parse_text {p : Path} (hl : p.root.Linked) (hw : p.root.WellShaped)
    (hp : p.predicate = p.root.isPredicate) :
    ∃ q, Path.parse p.text = .ok q ∧ q.same p = true := by
  obtain ⟨q, hq, hroot, hmode, hpred⟩ := exists_parse_render hl hw p.inScope p.mode true
  exact ⟨q, hq, Path.same_iff.mpr ⟨hroot, hmode, hpred.trans hp.symm⟩⟩

/-- **…and so is that of a parsed path.** -/
theorem exists_parse_text_of_parse {text : String} {p : Path} (h : Path.parse text = .ok p) :
    ∃ q, Path.parse p.text = .ok q ∧ q.same p = true := by
  have hshaped := shaped_of_parse h
  obtain ⟨ts, -, -, hp⟩ := Path.parse_eq_ok.mp h
  exact exists_parse_text hshaped.linked hshaped.wellShaped hp

end

/-- **Every well-shaped path is recovered from its own text.** -/
theorem parse_text_of_wellShaped [Regex.Engine] (root : Chain) (mode : Mode) (p : Path)
    (h : Path.ofChain root mode root.isPredicate = .ok p) (hl : root.Linked)
    (hw : root.WellShaped) : ∃ q, Path.parse p.text = .ok q ∧ q.same p = true := by
  obtain ⟨rfl, -, hp⟩ := Path.ofChain_eq_ok.mp h
  exact exists_parse_text hl hw hp

theorem parse_text_of_least_plus_root :
    ∃ q, Path.parse (Path.text ⟨[.binary .add
        [.integer ⟨"-0x8000000000000000", minInteger, by decide⟩] [.constant .root]],
        .strict, false, rfl⟩) = .ok q ∧
      q.same ⟨[.binary .add
        [.integer ⟨"-0x8000000000000000", minInteger, by decide⟩] [.constant .root]],
        .strict, false, rfl⟩ = true := by
  refine parse_text_of_wellShaped _ .strict _ (Path.ofChain_eq_ok.mpr ⟨rfl, rfl, rfl⟩)
    (linked_singleton rfl) ?_
  exact ⟨⟨⟨⟨linked_singleton rfl, rfl⟩, linked_singleton rfl, rfl⟩, ⟨trivial, trivial⟩, trivial,
    trivial⟩, trivial⟩

/-- **The text of a parsed path is parsed as the same path**, which has this very text, and the text
of its root as a path with the same root. -/
theorem parse_text_of_parse [Regex.Engine] (text : String) (p : Path)
    (h : Path.parse text = .ok p) :
    (∃ q, Path.parse p.text = .ok q ∧ q.same p = true ∧ q.text = p.text) ∧
      ∃ q, Path.parse p.root.text = .ok q ∧ q.root.same p.root = true ∧
        q.root.text = p.root.text := by
  have hshaped := shaped_of_parse h
  constructor
  · obtain ⟨q, hq, hsame⟩ := exists_parse_text_of_parse h
    exact ⟨q, hq, hsame, Path.text_of_same hsame⟩
  · obtain ⟨q, hq, hroot, -⟩ :=
      exists_parse_render hshaped.linked hshaped.wellShaped p.inScope .lax false
    refine ⟨q, hq, hroot, ?_⟩
    rw [Chain.text, Chain.text, (Chain.alike hroot).render]

theorem parse_text_of_parse_exists :
    Path.parse "exists($)" = .ok ⟨[.unary .existence [.constant .root]], .lax, true, rfl⟩ ∧
      (∃ q, Path.parse (Path.text ⟨[.unary .existence [.constant .root]], .lax, true, rfl⟩) =
          .ok q ∧
        q.same ⟨[.unary .existence [.constant .root]], .lax, true, rfl⟩ = true ∧
        q.text = Path.text ⟨[.unary .existence [.constant .root]], .lax, true, rfl⟩) ∧
      ∃ q, Path.parse (Chain.text [.unary .existence [.constant .root]]) = .ok q ∧
        q.root.same [.unary .existence [.constant .root]] = true ∧
        q.root.text = Chain.text [.unary .existence [.constant .root]] :=
  ⟨parse_exists, parse_text_of_parse _ _ parse_exists⟩

end PathExpr
