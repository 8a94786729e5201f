import PathExpr.Proofs.Lexical.Spelling
import PathExpr.Proofs.Parse
import PathExpr.Proofs.Shape.Derived
import PathExpr.Regex.Test

/-!
# PathExpr/Proofs/Shape/Parsed — parsed paths are well shaped

Whatever text is read, its tree is typed and shaped as the grammar has it, at every node.
-/

namespace PathExpr

section

variable [Regex.Engine]

theorem shaped_of_isPath {mode : Mode} {root : Chain} {ts : List TokenKind}
    (h : IsPath mode root ts) (ht : AllGenuine ts) : root.Shaped := by
  cases h with
  | bare h => exact shaped_of_derives h ht
  | lax _ h => exact shaped_of_derives h ht.tail
  | strict _ h => exact shaped_of_derives h ht.tail

theorem shaped_of_parse {text : String} {p : Path} (h : Path.parse text = .ok p) :
    p.root.Shaped := by
  obtain ⟨ts, hl, hpath, -⟩ := Path.parse_eq_ok.mp h
  exact shaped_of_isPath hpath hl.genuine

end

/-- **A parsed path is well shaped at every node, and its flag is the role of its root.** -/
theorem wellShaped_of_parse [Regex.Engine] (text : String) (p : Path)
    (h : Path.parse text = .ok p) :
    p.root.Linked ∧ p.root.WellShaped ∧ p.predicate = p.root.isPredicate := by
  obtain ⟨ts, -, -, hp⟩ := Path.parse_eq_ok.mp h
  have hs := shaped_of_parse h
  exact ⟨hs.linked, hs.wellShaped, hp⟩

theorem parse_exists : Path.parse "exists($)" =
    .ok ⟨[.unary .existence [.constant .root]], .lax, true, rfl⟩ := by
  have hroot := spells_dollar.append (spells_symbol .closeParen) fun _ _ =>
    (delimited_cons (by decide)).linked
  have hopen := (spells_symbol .openParen).append hroot fun _ _ => trivial
  have htext := (spells_keyword .existsWord).append hopen fun _ _ =>
    endsName_cons (by decide) (by decide)
  exact Path.parse_eq_ok.mpr ⟨_, htext.lexes trivial,
    .bare (.alone (.existence _ (.alone (.chain .root .noAccessors)))), rfl⟩

theorem wellShaped_of_parse_exists :
    Path.parse "exists($)" = .ok ⟨[.unary .existence [.constant .root]], .lax, true, rfl⟩ ∧
      Chain.Linked [.unary .existence [.constant .root]] ∧
      Chain.WellShaped [.unary .existence [.constant .root]] ∧
      true = Chain.isPredicate [.unary .existence [.constant .root]] :=
  ⟨parse_exists, wellShaped_of_parse _ _ parse_exists⟩

end PathExpr
