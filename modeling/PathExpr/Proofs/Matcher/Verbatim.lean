import Mathlib.Data.List.Forall2
import Mathlib.Data.List.Infix
import PathExpr.Proofs.Matcher.Escaped

/-!
# PathExpr/Proofs/Matcher/Verbatim — sequences of characters are found as they stand

A sequence of sets matches in a text if the characters of some part of the text belong to the sets,
one to each (`matchesIn_sets`).  If each set is that of one character, the part is the sequence of
these characters (`matchesIn_verbatim`).
-/

namespace PathExpr.Matcher

variable {text after : List Char} {before : Option Char} {p q : Place} {ps : List Place}

/-! ## Places -/

theorem suffix_of_mem_allFrom (h : p ∈ Place.allFrom before text) : p.after <:+ text := by
  induction text generalizing before with
  | nil =>
    obtain rfl := List.mem_singleton.mp h
    exact List.suffix_refl _
  | cons c rest ih =>
    rcases List.mem_cons.mp h with rfl | h
    · exact List.suffix_refl _
    · exact (ih h).trans (List.suffix_cons c rest)

theorem exists_mem_allFrom (h : after <:+ text) (before : Option Char) :
    ∃ p ∈ Place.allFrom before text, p.after = after := by
  induction text generalizing before with
  | nil =>
    obtain rfl := List.suffix_nil.mp h
    exact ⟨_, List.mem_singleton_self _, rfl⟩
  | cons c rest ih =>
    rcases List.suffix_cons_iff.mp h with rfl | h
    · exact ⟨_, List.mem_cons_self, rfl⟩
    · obtain ⟨p, hp, ha⟩ := ih h (some c)
      exact ⟨p, List.mem_cons_of_mem _ hp, ha⟩

/-! ## Sequences of sets -/

/-- The characters belong to the sets, one to each. -/
abbrev Members (ss : List CharSet) (part : List Char) : Prop :=
  List.Forall₂ (fun s c => s.contains c = true) ss part

theorem ends_sequence_cons (e : Expr) (es : List Expr) (ps : List Place) :
    (Expr.sequence (e :: es)).ends ps = (Expr.sequence es).ends (e.ends ps) := by
  cases es <;> rfl

theorem mem_ends_set {s : CharSet} :
    q ∈ (Expr.set s).ends ps ↔
      ∃ p ∈ ps, ∃ c rest, p.after = c :: rest ∧ s.contains c = true ∧ p.next c rest = q := by
  rw [Expr.ends, List.mem_filterMap]
  refine exists_congr fun p => and_congr_right fun _ => ?_
  cases p.after with
  | nil => simp
  | cons c rest => simp

/-- A sequence of sets ends somewhere if a part of the text that belongs to them follows one of the
places where it begins. -/
theorem exists_mem_ends_sets (ss : List CharSet) (ps : List Place) :
    (∃ q, q ∈ (Expr.sequence (ss.map .set)).ends ps) ↔
      ∃ p ∈ ps, ∃ part, part <+: p.after ∧ Members ss part := by
  induction ss generalizing ps with
  | nil => simp [Expr.sequence, Expr.ends]
  | cons s ss ih =>
    rw [List.map_cons, ends_sequence_cons, ih]
    constructor
    · rintro ⟨q, hq, part, hpart, hss⟩
      obtain ⟨p, hp, c, rest, ha, hc, rfl⟩ := mem_ends_set.mp hq
      refine ⟨p, hp, c :: part, ?_, .cons hc hss⟩
      rw [ha]
      exact List.cons_prefix_cons.mpr ⟨rfl, hpart⟩
    · rintro ⟨p, hp, whole, hpre, hss⟩
      obtain ⟨c, part, hc, hmore, rfl⟩ := List.forall₂_cons_left_iff.mp hss
      obtain ⟨rest, hrest⟩ := hpre
      exact ⟨_, mem_ends_set.mpr ⟨p, hp, c, part ++ rest, hrest.symm, hc, rfl⟩, part,
        List.prefix_append part rest, hmore⟩

/-- **A sequence of sets matches in a text that has a part belonging to them.** -/
theorem matchesIn_sets (ss : List CharSet) (text : List Char) :
    (Expr.sequence (ss.map .set)).matchesIn text = true ↔
      ∃ part, part <:+: text ∧ Members ss part := by
  rw [Expr.matchesIn, Bool.not_eq_true', List.isEmpty_eq_false_iff_exists_mem,
    exists_mem_ends_sets]
  constructor
  · rintro ⟨p, hp, part, hpart, hss⟩
    exact ⟨part, List.infix_iff_prefix_suffix.mpr ⟨_, hpart, suffix_of_mem_allFrom hp⟩, hss⟩
  · rintro ⟨part, hpart, hss⟩
    obtain ⟨after, hpre, hsuf⟩ := List.infix_iff_prefix_suffix.mp hpart
    obtain ⟨p, hp, rfl⟩ := exists_mem_allFrom hsuf none
    exact ⟨p, hp, part, hpre, hss⟩

/-- Where every set is that of one character, the characters are these. -/
theorem members_singletons {chars part : List Char} :
    Members (chars.map .singleton) part ↔ chars = part := by
  have hset : (fun c d => (CharSet.singleton c).contains d = true) = Eq := by
    funext c d
    exact propext ((CharSet.contains_singleton c d).trans eq_comm)
  rw [Members, List.forall₂_map_left_iff, hset, List.forall₂_eq_eq_eq]

/-- **Characters one after another match in the texts that have them as a part.** -/
theorem matchesIn_verbatim {chars text : List Char} :
    (verbatim chars).matchesIn text = true ↔ chars <:+: text := by
  have hsets : verbatim chars = .sequence ((chars.map .singleton).map .set) := by
    rw [List.map_map]
    rfl
  rw [hsets, matchesIn_sets]
  simp only [members_singletons, exists_eq_right']

end PathExpr.Matcher
