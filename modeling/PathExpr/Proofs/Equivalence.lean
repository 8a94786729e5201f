import PathExpr.Proofs.RoundTrip

/-!
# PathExpr/Proofs/Equivalence — sameness, and the text that decides it

Being the same is an equivalence, although numbers are compared by value or by canonical text as
their kinds have it: all that counts is the canonical text (`Node.SameBy.number`).  What is the same
cannot be told apart by anything that looks at a chain, its text least of all.  The text of a parsed
path tells all there is in turn, as parsing it gives the path back.
-/

namespace PathExpr

variable [Regex.Engine]

/-! ## Reflexivity -/

mutual

theorem Node.same_refl : ∀ a : Node, a.same a = true
  | .constant _ | .method _ | .string _ | .key _ | .variable _ => decide_eq_true rfl
  | .numeric _ | .integer _ => decide_eq_true rfl
  | .binary _ left right => same_binary.mpr ⟨rfl, Chain.same_refl left, Chain.same_refl right⟩
  | .unary _ c => same_unary.mpr ⟨rfl, Chain.same_refl c⟩
  | .likeRegex c _ => same_likeRegex.mpr ⟨Chain.same_refl c, rfl⟩
  | .subscripts items => sameItems_refl items
  | .any _ _ => same_any.mpr ⟨rfl, rfl⟩

theorem Chain.same_refl : ∀ c : Chain, c.same c = true
  | [] => rfl
  | a :: c => same_cons.mpr ⟨Node.same_refl a, Chain.same_refl c⟩

theorem sameItems_refl : ∀ items : List Chain, sameItems items items = true
  | [] => rfl
  | c :: items => sameItems_cons.mpr ⟨Chain.same_refl c, sameItems_refl items⟩

end

/-! ## Symmetry -/

mutual

theorem Node.same_symm {a b : Node} (h : a.same b = true) : b.same a = true := by
  cases sameBy_of_same h with
  | equal => exact h
  | number ha hb => exact same_of_number? hb ha
  | binary operator hl hr => exact same_binary.mpr ⟨rfl, Chain.same_symm hl, Chain.same_symm hr⟩
  | unary operator hc => exact same_unary.mpr ⟨rfl, Chain.same_symm hc⟩
  | likeRegex test hc => exact same_likeRegex.mpr ⟨Chain.same_symm hc, rfl⟩
  | subscripts hi => exact sameItems_symm hi
termination_by sizeOf a

theorem Chain.same_symm : ∀ {c d : Chain}, c.same d = true → d.same c = true
  | [], [], _ => rfl
  | _ :: _, _ :: _, h => by
    obtain ⟨ha, hc⟩ := same_cons.mp h
    exact same_cons.mpr ⟨Node.same_symm ha, Chain.same_symm hc⟩
  | [], _ :: _, h => by cases h
  | _ :: _, [], h => by cases h
termination_by c => sizeOf c

theorem sameItems_symm : ∀ {items others : List Chain}, sameItems items others = true →
    sameItems others items = true
  | [], [], _ => rfl
  | _ :: _, _ :: _, h => by
    obtain ⟨hc, hi⟩ := sameItems_cons.mp h
    exact sameItems_cons.mpr ⟨Chain.same_symm hc, sameItems_symm hi⟩
  | [], _ :: _, h => by cases h
  | _ :: _, [], h => by cases h
termination_by items => sizeOf items

end

/-! ## Transitivity -/

mutual

/-- A number is the same as nothing but numbers of its canonical text, so that the kinds of three
numbers in a row play no part. -/
theorem Node.same_trans {a b c : Node} (h : a.same b = true) (h' : b.same c = true) :
    a.same c = true := by
  cases sameBy_of_same h with
  | equal => exact h'
  | number ha hb =>
    cases sameBy_of_same h' with
    | equal => exact h
    | number hb' hc =>
      obtain rfl := Option.some.inj (hb.symm.trans hb')
      exact same_of_number? ha hc
    | _ => cases hb
  | binary operator hl hr =>
    cases sameBy_of_same h' with
    | equal => exact h
    | number hb => cases hb
    | binary operator hl' hr' =>
      exact same_binary.mpr ⟨rfl, Chain.same_trans hl hl', Chain.same_trans hr hr'⟩
  | unary operator hd =>
    cases sameBy_of_same h' with
    | equal => exact h
    | number hb => cases hb
    | unary operator hd' => exact same_unary.mpr ⟨rfl, Chain.same_trans hd hd'⟩
  | likeRegex test hd =>
    cases sameBy_of_same h' with
    | equal => exact h
    | number hb => cases hb
    | likeRegex test hd' => exact same_likeRegex.mpr ⟨Chain.same_trans hd hd', rfl⟩
  | subscripts hi =>
    cases sameBy_of_same h' with
    | equal => exact h
    | number hb => cases hb
    | subscripts hi' => exact sameItems_trans hi hi'
termination_by sizeOf a

theorem Chain.same_trans : ∀ {c d e : Chain}, c.same d = true → d.same e = true →
    c.same e = true
  | [], [], _, _, h' => h'
  | _ :: _, _ :: _, _ :: _, h, h' => by
    obtain ⟨ha, hc⟩ := same_cons.mp h
    obtain ⟨ha', hc'⟩ := same_cons.mp h'
    exact same_cons.mpr ⟨Node.same_trans ha ha', Chain.same_trans hc hc'⟩
  | [], _ :: _, _, h, _ => by cases h
  | _ :: _, [], _, h, _ => by cases h
  | _ :: _, _ :: _, [], _, h' => by cases h'
termination_by c => sizeOf c

theorem sameItems_trans : ∀ {items others more : List Chain}, sameItems items others = true →
    sameItems others more = true → sameItems items more = true
  | [], [], _, _, h' => h'
  | _ :: _, _ :: _, _ :: _, h, h' => by
    obtain ⟨hc, hi⟩ := sameItems_cons.mp h
    obtain ⟨hc', hi'⟩ := sameItems_cons.mp h'
    exact sameItems_cons.mpr ⟨Chain.same_trans hc hc', sameItems_trans hi hi'⟩
  | [], _ :: _, _, h, _ => by cases h
  | _ :: _, [], _, h, _ => by cases h
  | _ :: _, _ :: _, [], _, h' => by cases h'
termination_by items => sizeOf items

end

theorem Node.same_equivalence : Equivalence fun a b : Node => a.same b = true :=
  ⟨Node.same_refl, Node.same_symm, Node.same_trans⟩

theorem Chain.same_equivalence : Equivalence fun c d : Chain => c.same d = true :=
  ⟨Chain.same_refl, Chain.same_symm, Chain.same_trans⟩

/-! ## Texts of paths -/

/-- Parsed paths of one text are both the same as the path that the text is parsed as. -/
theorem same_of_text {text text' : String} {p q : Path} (hp : Path.parse text = .ok p)
    (hq : Path.parse text' = .ok q) (h : p.text = q.text) : p.same q = true := by
  obtain ⟨r, hr, hrp⟩ := exists_parse_text_of_parse hp
  obtain ⟨r', hr', hrq⟩ := exists_parse_text_of_parse hq
  rw [h, hr'] at hr
  obtain rfl := Except.ok.inj hr
  obtain ⟨hroot, hmode, hpred⟩ := Path.same_iff.mp hrp
  obtain ⟨hroot', hmode', hpred'⟩ := Path.same_iff.mp hrq
  exact Path.same_iff.mpr ⟨Chain.same_trans (Chain.same_symm hroot) hroot',
    hmode.symm.trans hmode', hpred.symm.trans hpred'⟩

/-- **Being the same is an equivalence**, of nodes and of chains.  Same chains have one text in
every place, bind equally tightly, play one role and have their constants out of place alike; and
parsed paths are the same exactly if they have one text. -/
theorem same_decided_by_text :
    Equivalence (fun a b : Node => a.same b = true) ∧
    Equivalence (fun c d : Chain => c.same d = true) ∧
    (∀ c d : Chain, c.same d = true →
      (∀ inChain parens, c.render inChain parens = d.render inChain parens) ∧
      c.priority = d.priority ∧ c.isPredicate = d.isPredicate ∧
      ∀ hasCurrent hasLast, c.check hasCurrent hasLast = d.check hasCurrent hasLast) ∧
    ∀ text text' p q, Path.parse text = .ok p → Path.parse text' = .ok q →
      (p.same q = true ↔ p.text = q.text) := by
  refine ⟨Node.same_equivalence, Chain.same_equivalence, fun c d h => ?_,
    fun text text' p q hp hq => ⟨Path.text_of_same, same_of_text hp hq⟩⟩
  have halike := Chain.alike h
  exact ⟨halike.render, halike.priority, halike.isPredicate, halike.check⟩

/-- An integer is the same as the decimal number that writes its value with an exponent. -/
example : Node.same (.integer ⟨"0xA", 10, by decide⟩)
    (.numeric ⟨"1.e1", "10", ⟨false, 0x14000000000000, -49⟩, by decide⟩) = true := rfl

end PathExpr
