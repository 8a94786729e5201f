import Mathlib.Data.List.Lex
import PathExpr.Proofs.Parse

/-!
# PathExpr/Proofs/Scope — the first constant out of its place

An `Address` leads from the root of a tree to one of its nodes, through operands, subscripts and
accessors.  What a node is inside of can be read off its address (`Chain.InFilter`,
`Chain.InSubscript`), and the addresses have the order of the nodes in a walk that takes every node
before what is below it (`Address.Before`).

`Chain.check` goes that way with two flags in place of the address.  What it finds in a chain is
therefore stated for any flags (`Chain.Unbound`), one step down being what changes them
(`unbound_cons`), and results are put together as the walk goes on (`FindsFirst.or`).
-/

namespace PathExpr

/-! ## Addresses -/

/-- A step down from the head of a chain. -/
inductive Step
  /-- To the first operand of two. -/
  | left
  /-- To the second operand of two. -/
  | right
  /-- To the only operand. -/
  | operand
  /-- To a subscript. -/
  | item (index : Nat)
  /-- To the accessor. -/
  | next

/-- The steps from the root of a tree to one of its nodes. -/
abbrev Address := List Step

/-- What the one step leads to comes before what the other leads to. -/
inductive Step.Before : Step → Step → Prop
  | operands : Before .left .right
  | items {i j : Nat} (h : i < j) : Before (.item i) (.item j)
  | accessors {step : Step} (h : step ≠ .next) : Before step .next

/-- The one address comes before the other: a node comes before all that is below it. -/
def Address.Before : Address → Address → Prop := List.Lex Step.Before

instance : Std.Asymm Step.Before where
  asymm s t h := by
    cases h with
    | operands => nofun
    | items h =>
      rintro (_ | h')
      exact Nat.lt_asymm h h'
    | accessors h =>
      rintro (_ | _ | h')
      exact h rfl

/-! ## The first of some faults -/

/-- The result tells the first of the faults. -/
def FindsFirst (faults : Address → ScopeFault → Prop) : Option ScopeFault → Prop
  | none => ∀ a fault, ¬ faults a fault
  | some fault => ∃ a, faults a fault ∧ ∀ b other, faults b other → a = b ∨ a.Before b

namespace FindsFirst

variable {P Q : Address → ScopeFault → Prop} {x y : Option ScopeFault}

theorem congr (h : FindsFirst P x) (hpq : ∀ a fault, P a fault ↔ Q a fault) : FindsFirst Q x := by
  obtain rfl : P = Q := by
    ext a fault
    exact hpq a fault
  exact h

/-- The first fault below a step. -/
theorem under (h : FindsFirst P x) (step : Step) :
    FindsFirst (fun a fault => ∃ rest, a = step :: rest ∧ P rest fault) x := by
  cases x with
  | none =>
    rintro _ fault ⟨rest, -, hp⟩
    exact h rest fault hp
  | some fault =>
    obtain ⟨rest, hp, hfirst⟩ := h
    refine ⟨step :: rest, ⟨rest, rfl, hp⟩, ?_⟩
    rintro _ other ⟨rest', rfl, hp'⟩
    rcases hfirst rest' other hp' with rfl | hlt
    · exact .inl rfl
    · exact .inr (.cons hlt)

/-- The first fault of two walks, the one after the other. -/
theorem or (hx : FindsFirst P x) (hy : FindsFirst Q y)
    (hlt : ∀ a b fault other, P a fault → Q b other → a.Before b) :
    FindsFirst (fun a fault => P a fault ∨ Q a fault) (x.or y) := by
  cases x with
  | some fault =>
    obtain ⟨a, hp, hfirst⟩ := hx
    refine ⟨a, .inl hp, ?_⟩
    rintro b other (hb | hb)
    · exact hfirst b other hb
    · exact .inr (hlt a b fault other hp hb)
  | none =>
    refine hy.congr fun a fault => ⟨.inr, ?_⟩
    rintro (hp | hq)
    · exact (hx a fault hp).elim
    · exact hq

/-- There is no more than one first fault. -/
theorem unique {faults : Address → ScopeFault → Prop} {a b : Address}
    {fault other : ScopeFault} (ha : faults a fault) (hb : faults b other)
    (hfa : ∀ c f, faults c f → a = c ∨ a.Before c) (hfb : ∀ c f, faults c f → b = c ∨ b.Before c) :
    a = b := by
  rcases hfa b other hb with he | hlt
  · exact he
  · rcases hfb a fault ha with he | hgt
    · exact he.symm
    · exact (asymm_of (List.Lex Step.Before) hlt hgt).elim

end FindsFirst

/-! ## What an address leads to -/

variable [Regex.Engine]

namespace Chain

/-- The chain that a step leads to. -/
def below? : Step → Chain → Option Chain
  | .left, .binary _ left _ :: _ => some left
  | .right, .binary _ _ right :: _ => some right
  | .operand, .unary _ operand :: _ => some operand
  | .operand, .likeRegex operand _ :: _ => some operand
  | .item i, .subscripts items :: _ => items[i]?
  | .next, _ :: accessors => some accessors
  | _, _ => none

/-- The chain at an address. -/
def at? : Address → Chain → Option Chain
  | [], c => some c
  | step :: rest, c => (below? step c).bind (at? rest)

/-- The node at an address. -/
def nodeAt? (root : Chain) (a : Address) : Option Node := (at? a root).bind List.head?

/-- The way to the address takes a step of the kind. -/
def Passes (kind : Chain → Step → Prop) (root : Chain) (a : Address) : Prop :=
  ∃ before step after c, a = before ++ step :: after ∧ at? before root = some c ∧ kind c step

/-- The step leads to the operand of a filter or of an existence test. -/
inductive EntersFilter : Chain → Step → Prop
  | filter (operand accessors : Chain) : EntersFilter (.unary .filter operand :: accessors) .operand
  | existence (operand accessors : Chain) :
      EntersFilter (.unary .existence operand :: accessors) .operand

/-- The step leads to a subscript. -/
inductive EntersSubscript : Chain → Step → Prop
  | item (items : List Chain) (accessors : Chain) (i : Nat) :
      EntersSubscript (.subscripts items :: accessors) (.item i)

/-- The address is inside the operand of a filter or of an existence test. -/
def InFilter (root : Chain) (a : Address) : Prop := root.Passes EntersFilter a

/-- The address is inside a subscript. -/
def InSubscript (root : Chain) (a : Address) : Prop := root.Passes EntersSubscript a

/-- At the address stands a constant that has no meaning there. -/
inductive Misplaced (root : Chain) (a : Address) : ScopeFault → Prop
  | current (hn : root.nodeAt? a = some (.constant .current)) (hi : ¬ root.InFilter a) :
      Misplaced root a .currentOutsideFilter
  | last (hn : root.nodeAt? a = some (.constant .last)) (hi : ¬ root.InSubscript a) :
      Misplaced root a .lastOutsideSubscript

/-- At the address stands a constant that has no meaning there, if around the chain the two have
one only as the flags say. -/
inductive Unbound (hasCurrent hasLast : Bool) (c : Chain) (a : Address) : ScopeFault → Prop
  | current (hn : c.nodeAt? a = some (.constant .current))
      (hi : ¬ (hasCurrent = true ∨ c.InFilter a)) :
      Unbound hasCurrent hasLast c a .currentOutsideFilter
  | last (hn : c.nodeAt? a = some (.constant .last))
      (hi : ¬ (hasLast = true ∨ c.InSubscript a)) :
      Unbound hasCurrent hasLast c a .lastOutsideSubscript

end Chain

/-! ## One step down -/

section Steps

variable {c sub : Chain} {step : Step} {rest : Address} {kind : Chain → Step → Prop}
  {hasCurrent hasLast within withinLast : Bool} {fault : ScopeFault}

theorem nodeAt?_cons (h : c.below? step = some sub) :
    c.nodeAt? (step :: rest) = sub.nodeAt? rest := by
  simp only [Chain.nodeAt?, Chain.at?, h, Option.bind_some]

theorem below?_of_nodeAt? {node : Node} (h : c.nodeAt? (step :: rest) = some node) :
    ∃ sub, c.below? step = some sub := by
  cases hb : c.below? step with
  | none => simp only [Chain.nodeAt?, Chain.at?, hb, Option.bind_none, reduceCtorEq] at h
  | some sub => exact ⟨sub, rfl⟩

theorem not_passes_nil : ¬ c.Passes kind [] := by
  rintro ⟨before, step, after, -, h, -⟩
  cases before <;> cases h

theorem not_inside_nil : ¬ (false = true ∨ c.Passes kind []) := by
  rintro (h | h)
  · cases h
  · exact not_passes_nil h

/-- The way passes a step of the kind at once or later. -/
theorem passes_cons (h : c.below? step = some sub) :
    c.Passes kind (step :: rest) ↔ kind c step ∨ sub.Passes kind rest := by
  constructor
  · rintro ⟨before, taken, after, d, he, hd, hk⟩
    cases before with
    | nil =>
      obtain ⟨rfl, rfl⟩ := List.cons.inj he
      obtain rfl := Option.some.inj hd
      exact .inl hk
    | cons first before =>
      obtain ⟨rfl, rfl⟩ := List.cons.inj he
      refine .inr ⟨before, taken, after, d, rfl, ?_, hk⟩
      rwa [Chain.at?, h] at hd
  · rintro (hk | ⟨before, taken, after, d, rfl, hd, hk⟩)
    · exact ⟨[], step, rest, c, rfl, rfl, hk⟩
    · exact ⟨step :: before, taken, after, d, rfl, by rwa [Chain.at?, h], hk⟩

/-- One step down, the flags are what they were or what the step makes them. -/
theorem unbound_cons (h : c.below? step = some sub)
    (hw : within = true ↔ hasCurrent = true ∨ c.EntersFilter step)
    (hl : withinLast = true ↔ hasLast = true ∨ c.EntersSubscript step) :
    c.Unbound hasCurrent hasLast (step :: rest) fault ↔
      sub.Unbound within withinLast rest fault := by
  have hc : (hasCurrent = true ∨ c.InFilter (step :: rest)) ↔
      (within = true ∨ sub.InFilter rest) := by
    rw [Chain.InFilter, passes_cons h, ← or_assoc, ← hw, Chain.InFilter]
  have hs : (hasLast = true ∨ c.InSubscript (step :: rest)) ↔
      (withinLast = true ∨ sub.InSubscript rest) := by
    rw [Chain.InSubscript, passes_cons h, ← or_assoc, ← hl, Chain.InSubscript]
  constructor
  · rintro (⟨hn, hi⟩ | ⟨hn, hi⟩)
    · exact .current (nodeAt?_cons h ▸ hn) (hi ∘ hc.mpr)
    · exact .last (nodeAt?_cons h ▸ hn) (hi ∘ hs.mpr)
  · rintro (⟨hn, hi⟩ | ⟨hn, hi⟩)
    · exact .current ((nodeAt?_cons h).trans hn) (hi ∘ hc.mp)
    · exact .last ((nodeAt?_cons h).trans hn) (hi ∘ hs.mp)

theorem exists_below_of_unbound (h : c.Unbound hasCurrent hasLast (step :: rest) fault) :
    ∃ sub, c.below? step = some sub := by
  cases h with
  | current hn | last hn => exact below?_of_nodeAt? hn

/-- Nothing else than the two constants is out of its place. -/
theorem head_of_unbound {node : Node} {accessors : Chain}
    (h : Chain.Unbound hasCurrent hasLast (node :: accessors) [] fault) :
    (node = .constant .current ∧ hasCurrent = false ∧ fault = .currentOutsideFilter) ∨
      (node = .constant .last ∧ hasLast = false ∧ fault = .lastOutsideSubscript) := by
  cases h with
  | current hn hi =>
    exact .inl ⟨Option.some.inj hn, Bool.eq_false_iff.mpr fun h => hi (.inl h), rfl⟩
  | last hn hi =>
    exact .inr ⟨Option.some.inj hn, Bool.eq_false_iff.mpr fun h => hi (.inl h), rfl⟩

theorem entersFilter_iff {operator : UnaryOperator} {operand accessors : Chain} :
    Chain.EntersFilter (.unary operator operand :: accessors) .operand ↔
      operator.bindsCurrent = true := by
  constructor
  · rintro (_ | _) <;> rfl
  · intro h
    cases operator with
    | filter => exact .filter operand accessors
    | existence => exact .existence operand accessors
    | _ => cases h

end Steps

/-! ## Faults in the head of a chain -/

/-- The constants out of their place in the head of a chain and in what is below it, its accessors
apart. -/
def Chain.UnboundInHead (hasCurrent hasLast : Bool) (c : Chain) (a : Address)
    (fault : ScopeFault) : Prop :=
  c.Unbound hasCurrent hasLast a fault ∧ a.head? ≠ some .next

section Walk

variable {hasCurrent hasLast : Bool} {accessors : Chain} {a : Address} {fault : ScopeFault}

/-- A constant that has no meaning where it stands is the only fault of the node. -/
theorem findsFirst_constant {value : Constant}
    (h : Chain.Unbound hasCurrent hasLast (.constant value :: accessors) [] fault) :
    FindsFirst (Chain.UnboundInHead hasCurrent hasLast (.constant value :: accessors))
      (some fault) := by
  refine ⟨[], ⟨h, nofun⟩, ?_⟩
  rintro (_ | ⟨step, rest⟩) other ⟨h', hn⟩
  · exact .inl rfl
  · exact .inr .nil

/-- The faults of a node that has a meaning where it stands are below it. -/
theorem exists_step {node : Node}
    (h : Chain.UnboundInHead hasCurrent hasLast (node :: accessors) a fault)
    (hc : node = .constant .current → hasCurrent = true)
    (hl : node = .constant .last → hasLast = true) :
    ∃ step rest sub, a = step :: rest ∧ step ≠ .next ∧
      Chain.below? step (node :: accessors) = some sub := by
  obtain ⟨h, hn⟩ := h
  cases a with
  | nil =>
    rcases head_of_unbound h with ⟨he, hf, -⟩ | ⟨he, hf, -⟩
    · cases hf.symm.trans (hc he)
    · cases hf.symm.trans (hl he)
  | cons step rest =>
    obtain ⟨sub, hs⟩ := exists_below_of_unbound h
    exact ⟨step, rest, sub, rfl, fun he => hn (congrArg some he), hs⟩

/-- A node without parts has no faults if it has a meaning where it stands. -/
theorem findsFirst_leaf {node : Node} (hc : node = .constant .current → hasCurrent = true)
    (hl : node = .constant .last → hasLast = true)
    (hb : ∀ step, step ≠ .next → Chain.below? step (node :: accessors) = none) :
    FindsFirst (Chain.UnboundInHead hasCurrent hasLast (node :: accessors)) none := by
  intro a fault h
  obtain ⟨step, rest, sub, rfl, hn, hs⟩ := exists_step h hc hl
  cases (hb step hn).symm.trans hs

/-- Below a step that is not to the accessor, the faults are those of the part. -/
theorem unboundInHead_cons {c sub : Chain} {step : Step} {rest : Address}
    {within withinLast : Bool} (hstep : step ≠ .next) (h : c.below? step = some sub)
    (hw : within = true ↔ hasCurrent = true ∨ c.EntersFilter step)
    (hl : withinLast = true ↔ hasLast = true ∨ c.EntersSubscript step) :
    c.UnboundInHead hasCurrent hasLast (step :: rest) fault ↔
      sub.Unbound within withinLast rest fault := by
  rw [Chain.UnboundInHead, unbound_cons h hw hl]
  exact and_iff_left fun he => hstep (Option.some.inj he)

/-- …and most steps change no flag. -/
theorem unboundInHead_cons_same {c sub : Chain} {step : Step} {rest : Address}
    (hstep : step ≠ .next) (h : c.below? step = some sub) (hf : ¬ c.EntersFilter step)
    (hs : ¬ c.EntersSubscript step) :
    c.UnboundInHead hasCurrent hasLast (step :: rest) fault ↔
      sub.Unbound hasCurrent hasLast rest fault :=
  unboundInHead_cons hstep h (or_iff_left hf).symm (or_iff_left hs).symm

theorem unboundInHead_binary {operator : BinaryOperator} {left right : Chain} :
    ((∃ rest, a = .left :: rest ∧ left.Unbound hasCurrent hasLast rest fault) ∨
      ∃ rest, a = .right :: rest ∧ right.Unbound hasCurrent hasLast rest fault) ↔
    Chain.UnboundInHead hasCurrent hasLast (.binary operator left right :: accessors) a fault := by
  have hleft (rest : Address) : Chain.UnboundInHead hasCurrent hasLast
      (.binary operator left right :: accessors) (.left :: rest) fault ↔
        left.Unbound hasCurrent hasLast rest fault :=
    unboundInHead_cons_same nofun rfl nofun nofun
  have hright (rest : Address) : Chain.UnboundInHead hasCurrent hasLast
      (.binary operator left right :: accessors) (.right :: rest) fault ↔
        right.Unbound hasCurrent hasLast rest fault :=
    unboundInHead_cons_same nofun rfl nofun nofun
  constructor
  · rintro (⟨rest, rfl, h⟩ | ⟨rest, rfl, h⟩)
    · exact (hleft rest).mpr h
    · exact (hright rest).mpr h
  · intro h
    obtain ⟨step, rest, sub, rfl, hn, hs⟩ := exists_step h nofun nofun
    cases step with
    | left => exact .inl ⟨rest, rfl, (hleft rest).mp h⟩
    | right => exact .inr ⟨rest, rfl, (hright rest).mp h⟩
    | next => exact (hn rfl).elim
    | _ => cases hs

/-- A node with a single operand has the faults of that. -/
theorem unboundInHead_operand {node : Node} {operand : Chain} {within : Bool}
    (hp : Chain.below? .operand (node :: accessors) = some operand)
    (honly : ∀ step sub, Chain.below? step (node :: accessors) = some sub →
      step = .operand ∨ step = .next)
    (hw : within = true ↔
      hasCurrent = true ∨ Chain.EntersFilter (node :: accessors) .operand) :
    (∃ rest, a = .operand :: rest ∧ operand.Unbound within hasLast rest fault) ↔
    Chain.UnboundInHead hasCurrent hasLast (node :: accessors) a fault := by
  have hpart (rest : Address) :
      Chain.UnboundInHead hasCurrent hasLast (node :: accessors) (.operand :: rest) fault ↔
        operand.Unbound within hasLast rest fault :=
    unboundInHead_cons nofun hp hw (or_iff_left nofun).symm
  constructor
  · rintro ⟨rest, rfl, h⟩
    exact (hpart rest).mpr h
  · intro h
    have hconstant (value : Constant) : node ≠ .constant value := by
      rintro rfl
      cases hp
    obtain ⟨step, rest, sub, rfl, hn, hs⟩ :=
      exists_step h (fun he => (hconstant _ he).elim) (fun he => (hconstant _ he).elim)
    obtain rfl := (honly step sub hs).resolve_right hn
    exact ⟨rest, rfl, (hpart rest).mp h⟩

theorem unboundInHead_unary {operator : UnaryOperator} {operand : Chain} :
    (∃ rest, a = .operand :: rest ∧
      operand.Unbound (hasCurrent || operator.bindsCurrent) hasLast rest fault) ↔
    Chain.UnboundInHead hasCurrent hasLast (.unary operator operand :: accessors) a fault := by
  refine unboundInHead_operand rfl (fun step sub hs => ?_) ?_
  · cases step <;> first | exact .inl rfl | exact .inr rfl | cases hs
  · rw [entersFilter_iff, Bool.or_eq_true]

theorem unboundInHead_likeRegex {operand : Chain} {test : Regex.Test} :
    (∃ rest, a = .operand :: rest ∧ operand.Unbound hasCurrent hasLast rest fault) ↔
    Chain.UnboundInHead hasCurrent hasLast (.likeRegex operand test :: accessors) a fault := by
  refine unboundInHead_operand rfl (fun step sub hs => ?_) (or_iff_left nofun).symm
  cases step <;> first | exact .inl rfl | exact .inr rfl | cases hs

/-- The constants out of their place in the subscripts, the first of which is the one at `i`. -/
def UnboundInItems (hasCurrent : Bool) (i : Nat) (items : List Chain) (a : Address)
    (fault : ScopeFault) : Prop :=
  ∃ j item rest, a = .item (i + j) :: rest ∧ items[j]? = some item ∧
    item.Unbound hasCurrent true rest fault

theorem unboundInItems_cons {i : Nat} {item : Chain} {items : List Chain} :
    ((∃ rest, a = .item i :: rest ∧ item.Unbound hasCurrent true rest fault) ∨
      UnboundInItems hasCurrent (i + 1) items a fault) ↔
    UnboundInItems hasCurrent i (item :: items) a fault := by
  constructor
  · rintro (⟨rest, rfl, h⟩ | ⟨j, other, rest, rfl, hj, h⟩)
    · exact ⟨0, item, rest, rfl, rfl, h⟩
    · exact ⟨j + 1, other, rest, by rw [Nat.add_right_comm, Nat.add_assoc], hj, h⟩
  · rintro ⟨j, other, rest, rfl, hj, h⟩
    cases j with
    | zero =>
      obtain rfl := Option.some.inj hj
      exact .inl ⟨rest, rfl, h⟩
    | succ j => exact .inr ⟨j, other, rest, by rw [Nat.add_right_comm, Nat.add_assoc], hj, h⟩

theorem unboundInHead_subscripts {items : List Chain} :
    UnboundInItems hasCurrent 0 items a fault ↔
    Chain.UnboundInHead hasCurrent hasLast (.subscripts items :: accessors) a fault := by
  have hpart {i : Nat} {item : Chain} (hi : items[i]? = some item) (rest : Address) :
      Chain.UnboundInHead hasCurrent hasLast (.subscripts items :: accessors) (.item i :: rest)
        fault ↔ item.Unbound hasCurrent true rest fault :=
    unboundInHead_cons nofun hi (or_iff_left nofun).symm
      (iff_of_true rfl (.inr (.item items accessors i)))
  constructor
  · rintro ⟨j, item, rest, rfl, hj, h⟩
    rw [Nat.zero_add]
    exact (hpart hj rest).mpr h
  · intro h
    obtain ⟨step, rest, sub, rfl, hn, hs⟩ := exists_step h nofun nofun
    cases step with
    | item i =>
      exact ⟨i, sub, rest, by rw [Nat.zero_add], hs, (hpart hs rest).mp h⟩
    | next => exact (hn rfl).elim
    | _ => cases hs

/-- The faults of a chain are those of its head and those of its accessors. -/
theorem unbound_head_or_next {node : Node} :
    (Chain.UnboundInHead hasCurrent hasLast (node :: accessors) a fault ∨
      ∃ rest, a = .next :: rest ∧ accessors.Unbound hasCurrent hasLast rest fault) ↔
    Chain.Unbound hasCurrent hasLast (node :: accessors) a fault := by
  have hnext (rest : Address) :
      Chain.Unbound hasCurrent hasLast (node :: accessors) (.next :: rest) fault ↔
        accessors.Unbound hasCurrent hasLast rest fault :=
    unbound_cons rfl (or_iff_left nofun).symm (or_iff_left nofun).symm
  constructor
  · rintro (h | ⟨rest, rfl, h⟩)
    · exact h.1
    · exact (hnext rest).mpr h
  · intro h
    rcases a with _ | ⟨_ | _ | _ | _ | _, rest⟩
    case cons.next => exact .inr ⟨rest, rfl, (hnext rest).mp h⟩
    all_goals exact .inl ⟨h, nofun⟩

end Walk

/-! ## The walk over a tree -/

mutual

theorem Node.findsFirst_check (hasCurrent hasLast : Bool) (accessors : Chain) : ∀ node : Node,
    FindsFirst (Chain.UnboundInHead hasCurrent hasLast (node :: accessors))
      (node.check hasCurrent hasLast)
  | .constant value => by
    have hb (step : Step) (h : step ≠ .next) :
        Chain.below? step (.constant value :: accessors) = none := by
      cases step <;> first | rfl | contradiction
    cases value with
    | current =>
      cases hasCurrent with
      | true => exact findsFirst_leaf (fun _ => rfl) nofun hb
      | false => exact findsFirst_constant (.current rfl not_inside_nil)
    | last =>
      cases hasLast with
      | true => exact findsFirst_leaf nofun (fun _ => rfl) hb
      | false => exact findsFirst_constant (.last rfl not_inside_nil)
    | _ => exact findsFirst_leaf nofun nofun hb
  | .binary operator left right =>
    (((Chain.findsFirst_check hasCurrent hasLast left).under .left).or
      ((Chain.findsFirst_check hasCurrent hasLast right).under .right) (by
        rintro _ _ _ _ ⟨_, rfl, -⟩ ⟨_, rfl, -⟩
        exact .rel .operands)).congr fun _ _ => unboundInHead_binary
  | .unary operator operand =>
    ((Chain.findsFirst_check _ hasLast operand).under .operand).congr fun _ _ => unboundInHead_unary
  | .likeRegex operand _ =>
    ((Chain.findsFirst_check hasCurrent hasLast operand).under .operand).congr
      fun _ _ => unboundInHead_likeRegex
  | .subscripts items =>
    (findsFirst_checkItems hasCurrent 0 items).congr fun _ _ => unboundInHead_subscripts
  | .method _ | .string _ | .key _ | .variable _ | .numeric _ | .integer _ | .any _ _ => by
    refine findsFirst_leaf nofun nofun fun step hn => ?_
    cases step <;> first | rfl | contradiction

theorem Chain.findsFirst_check (hasCurrent hasLast : Bool) : ∀ c : Chain,
    FindsFirst (c.Unbound hasCurrent hasLast) (c.check hasCurrent hasLast)
  | [] => by
    rintro (_ | ⟨step, rest⟩) fault h
    · cases h <;> contradiction
    · obtain ⟨sub, hs⟩ := exists_below_of_unbound h
      cases step <;> cases hs
  | node :: accessors =>
    ((Node.findsFirst_check hasCurrent hasLast accessors node).or
      ((Chain.findsFirst_check hasCurrent hasLast accessors).under .next) (by
        rintro (_ | ⟨step, rest⟩) _ _ _ ⟨-, hn⟩ ⟨_, rfl, -⟩
        · exact .nil
        · exact .rel (.accessors fun he => hn (congrArg some he)))).congr
      fun _ _ => unbound_head_or_next

theorem findsFirst_checkItems (hasCurrent : Bool) (i : Nat) : ∀ items : List Chain,
    FindsFirst (UnboundInItems hasCurrent i items) (checkItems hasCurrent items)
  | [] => by
    rintro _ fault ⟨j, item, rest, -, hj, -⟩
    cases hj
  | item :: items =>
    (((Chain.findsFirst_check hasCurrent true item).under (.item i)).or
      (findsFirst_checkItems hasCurrent (i + 1) items) (by
        rintro _ _ _ _ ⟨_, rfl, -⟩ ⟨j, _, _, rfl, -⟩
        exact .rel (.items (by omega)))).congr fun _ _ => unboundInItems_cons

end

/-! ## Paths -/

section Paths

variable {root : Chain} {a b : Address} {fault other : ScopeFault}

theorem unbound_iff_misplaced : root.Unbound false false a fault ↔ root.Misplaced a fault := by
  have hf {p : Prop} : (false = true ∨ p) ↔ p := or_iff_right Bool.false_ne_true
  constructor
  · rintro (⟨hn, hi⟩ | ⟨hn, hi⟩)
    · exact .current hn (hi ∘ hf.mpr)
    · exact .last hn (hi ∘ hf.mpr)
  · rintro (⟨hn, hi⟩ | ⟨hn, hi⟩)
    · exact .current hn (hi ∘ hf.mp)
    · exact .last hn (hi ∘ hf.mp)

theorem Chain.Misplaced.unique (h : root.Misplaced a fault) (h' : root.Misplaced a other) :
    fault = other := by
  cases h with
  | current hn | last hn =>
    cases h' with
    | current hn' | last hn' => first | rfl | cases hn.symm.trans hn'

theorem findsFirst_misplaced (root : Chain) :
    FindsFirst root.Misplaced (root.check false false) :=
  (Chain.findsFirst_check false false root).congr fun _ _ => unbound_iff_misplaced

theorem Path.exists_ofChain_eq_ok {mode : Mode} {predicate : Bool} :
    (∃ p, Path.ofChain root mode predicate = .ok p) ↔ root.check false false = none := by
  constructor
  · rintro ⟨p, hp⟩
    obtain ⟨rfl, -⟩ := Path.ofChain_eq_ok.mp hp
    exact p.inScope
  · intro h
    exact ⟨⟨root, mode, predicate, h⟩, Path.ofChain_eq_ok.mpr ⟨rfl, rfl, rfl⟩⟩

theorem Path.ofChain_eq_error {mode : Mode} {predicate : Bool} :
    Path.ofChain root mode predicate = .error fault ↔ root.check false false = some fault := by
  unfold Path.ofChain
  split
  next h => simp only [h, reduceCtorEq]
  next found h => rw [h, Except.error.injEq, Option.some.injEq]

theorem check_eq_none : root.check false false = none ↔ ∀ a fault, ¬ root.Misplaced a fault := by
  have hf := findsFirst_misplaced root
  constructor
  · intro h
    rwa [h] at hf
  · intro h
    cases hc : root.check false false with
    | none => rfl
    | some fault =>
      rw [hc] at hf
      obtain ⟨a, ha, -⟩ := hf
      exact (h a fault ha).elim

theorem check_eq_some : root.check false false = some fault ↔
    ∃ a, root.Misplaced a fault ∧ ∀ b other, root.Misplaced b other → a = b ∨ a.Before b := by
  have hf := findsFirst_misplaced root
  constructor
  · intro h
    rwa [h] at hf
  · rintro ⟨a, ha, hfirst⟩
    cases hc : root.check false false with
    | none => exact (check_eq_none.mp hc a fault ha).elim
    | some found =>
      rw [hc] at hf
      obtain ⟨b, hb, hfirst'⟩ := hf
      obtain rfl := FindsFirst.unique ha hb hfirst hfirst'
      exact congrArg some (hb.unique ha)

end Paths

/-- **The first constant out of its place is the fault of a tree.**  A tree is the root of a path if
and only if every `@` in it is inside the operand of a filter or of an existence test, and every
`last` inside a subscript.  Any other tree is refused for the first constant of which this is not
so, in the order of the nodes, with the wording for that constant and without a position. -/
theorem scope_decides_path (root : Chain) (mode : Mode) (predicate : Bool) :
    ((∃ p, Path.ofChain root mode predicate = .ok p) ↔ ∀ a,
      (root.nodeAt? a = some (.constant .current) → root.InFilter a) ∧
      (root.nodeAt? a = some (.constant .last) → root.InSubscript a)) ∧
    (∀ p, Path.ofChain root mode predicate = .ok p →
      p.root = root ∧ p.mode = mode ∧ p.predicate = predicate) ∧
    (∀ fault, Path.ofChain root mode predicate = .error fault ↔
      ∃ a, root.Misplaced a fault ∧ ∀ b other, root.Misplaced b other → a = b ∨ a.Before b) ∧
    ScopeFault.currentOutsideFilter.report =
      ⟨.tree, "@ is not allowed in root expressions", none⟩ ∧
    ScopeFault.lastOutsideSubscript.report =
      ⟨.tree, "LAST is allowed only in array subscripts", none⟩ := by
  refine ⟨?_, fun p hp => Path.ofChain_eq_ok.mp hp,
    fun fault => Path.ofChain_eq_error.trans check_eq_some, rfl, rfl⟩
  rw [Path.exists_ofChain_eq_ok, check_eq_none]
  constructor
  · intro h a
    constructor
    · intro hn
      exact Classical.byContradiction fun hi => h a _ (.current hn hi)
    · intro hn
      exact Classical.byContradiction fun hi => h a _ (.last hn hi)
  · rintro h a fault (⟨hn, hi⟩ | ⟨hn, hi⟩)
    · exact hi ((h a).1 hn)
    · exact hi ((h a).2 hn)

end PathExpr
