import PathExpr.Proofs.Parse
import PathExpr.Proofs.Printing.Pieces
import PathExpr.Proofs.Syntax.Grouped
import PathExpr.Regex.Test

/-!
# PathExpr/Proofs/Linking — chains are put together without loss

Linking puts chains one after another, all at once or a few at a time, and the reader of a path does
so too: more accessors after a chain in parentheses are linked to it as if there were none.
-/

namespace PathExpr

open Grammar

/-- The kinds of the tokens of a text. -/
def kinds? (text : String) : Except PlacedFault (List TokenKind) :=
  (tokens? text).map fun s => s.tokens.map Token.kind

theorem kinds?_eq_ok {text : String} {ts : List TokenKind} :
    kinds? text = .ok ts ↔ Lexes text.toList ts := by
  rw [← tokens?_eq_ok, kinds?]
  cases tokens? text <;> simp [Except.map]

section

variable [Regex.Engine]

/-! ## Linking -/

/-- The chains one after another. -/
theorem Chain.link_eq_flatten {chains : List Chain} (h : chains ≠ []) :
    Chain.link chains = .ok chains.flatten := by
  obtain ⟨first, others, rfl⟩ := List.exists_cons_of_ne_nil h
  exact Chain.link_cons first others

/-- **Linking goes on from what is linked.** -/
theorem Chain.link_append {chains : List Chain} (h : chains ≠ []) (others : List Chain) :
    (Chain.link chains >>= fun first => Chain.link (first :: others)) =
      Chain.link (chains ++ others) := by
  obtain ⟨first, chains, rfl⟩ := List.exists_cons_of_ne_nil h
  exact congrArg Except.ok List.foldl_append.symm

/-! ## Texts -/

/-- What path a text is depends on the kinds of its tokens alone. -/
theorem Path.parse_eq_ok_iff_whole {text : String} {ts : List TokenKind} {p : Path}
    (h : kinds? text = .ok ts) : Path.parse text = .ok p ↔
      whole ts = .ok (p.mode, p.root) ∧ p.predicate = p.root.isPredicate := by
  rw [Path.parse_eq_ok, whole_eq_ok_iff_isPath]
  constructor
  · rintro ⟨ts', hl, hpath⟩
    obtain rfl : ts = ts' := Except.ok.inj (h.symm.trans (kinds?_eq_ok.mpr hl))
    exact hpath
  · exact fun hpath => ⟨ts, kinds?_eq_ok.mp h, hpath⟩

end

/-- **Chains are put together without loss.** -/
theorem linking_concatenates [Regex.Engine] :
    -- Linking puts the nodes of all chains in order,
    (∀ chains, chains ≠ [] → Chain.link chains = .ok chains.flatten) ∧
    -- and it may be done in steps.
    (∀ chains others, chains ≠ [] →
      (Chain.link chains >>= fun first => Chain.link (first :: others)) =
        Chain.link (chains ++ others)) ∧
    ∀ c ts us, ChainPhrase c ts → BeginsAccessor us →
      -- Before accessors a chain is read as an operand with parentheses as it is without,
      (operand (.openParen :: ts ++ .closeParen :: us)).map Reading.outcome =
        (operand (ts ++ us)).map Reading.outcome ∧
      ∀ mode words, ModeClause mode words →
        -- it is linked with the accessors, if nothing else follows,
        (∀ nodes, Derives (.accessors nodes) us →
          whole (words ++ (.openParen :: ts ++ .closeParen :: us)) = .ok (mode, c ++ nodes) ∧
            whole (words ++ (ts ++ us)) = .ok (mode, c ++ nodes)) ∧
        -- and whatever follows, a text with parentheses is the same path as one without.
        ∀ text text', kinds? text = .ok (words ++ (ts ++ us)) →
          kinds? text' = .ok (words ++ (.openParen :: ts ++ .closeParen :: us)) →
          ∀ p, Path.parse text' = .ok p ↔ Path.parse text = .ok p := by
  refine ⟨fun chains => Chain.link_eq_flatten, fun chains others h => Chain.link_append h others,
    fun c ts us hc hu => ⟨operand_parentheses hc hu, fun mode words hw => ⟨?_, ?_⟩⟩⟩
  · intro nodes ha
    have hwhole := whole_chain hw hc hu ha
    exact ⟨(whole_parentheses hw hc hu).mpr hwhole, hwhole⟩
  · intro text text' ht ht' p
    rw [Path.parse_eq_ok_iff_whole ht, Path.parse_eq_ok_iff_whole ht', whole_parentheses hw hc hu]

/-- The texts `$.*.*` and `($.*).*` are the same path. -/
theorem linking_concatenates_members :
    Chain.link [[.constant .root], [.constant .anyKey]] = .ok [.constant .root, .constant .anyKey] ∧
    (Chain.link [[.constant .root], [.constant .anyKey]] >>= fun first =>
        Chain.link [first, [.constant .anyKey]]) =
      Chain.link [[.constant .root], [.constant .anyKey], [.constant .anyKey]] ∧
    kinds? "$.*.*" = .ok [.dollar, .dot, .star, .dot, .star] ∧
    kinds? "($.*).*" = .ok [.openParen, .dollar, .dot, .star, .closeParen, .dot, .star] ∧
    whole [.openParen, .dollar, .dot, .star, .closeParen, .dot, .star] =
      .ok (.lax, [.constant .root, .constant .anyKey, .constant .anyKey]) ∧
    ∀ p, Path.parse "($.*).*" = .ok p ↔ Path.parse "$.*.*" = .ok p := by
  have hdot : ∀ rest, Linked ('.' :: rest) := fun _ _ hc =>
    .inr (.inl (Option.some.inj hc).symm)
  have hstar : Spells Linked ['.', '*'] [.dot, .star] := spells_star.dotted fun _ => rfl
  have hroot := spells_dollar.append hstar fun _ _ => hdot _
  have hplain := hroot.append hstar fun _ _ => hdot _
  have hgroup := (spells_parentheses (hroot.mono fun _ h => h.linked)).append hstar
    fun _ _ => trivial
  have ht : kinds? "$.*.*" = .ok _ := kinds?_eq_ok.mpr (hplain.lexes delimited_nil.linked)
  have ht' : kinds? "($.*).*" = .ok _ := kinds?_eq_ok.mpr (hgroup.lexes delimited_nil.linked)
  obtain ⟨hlink, hsteps, hread⟩ := linking_concatenates
  have hstars : Derives (.accessors [.constant .anyKey]) [.dot, .star] :=
    .member .anyKey .noAccessors
  obtain ⟨-, hparse⟩ := hread _ _ [.dot, .star] (.headed .root hstars) ⟨_, rfl, .dot⟩
  obtain ⟨hwhole, htexts⟩ := hparse .lax [] .absent
  exact ⟨hlink _ (List.cons_ne_nil _ _), hsteps _ _ (List.cons_ne_nil _ _), ht, ht',
    (hwhole _ hstars).1, htexts _ _ ht ht'⟩

end PathExpr
