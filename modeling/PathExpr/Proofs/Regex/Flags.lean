import PathExpr.Proofs.Printing.Pieces
import PathExpr.Proofs.Syntax.Completeness

/-!
# PathExpr/Proofs/Regex/Flags — the flags of a pattern test are a set

A text of flags is read as the set of those whose letters occur in it (`Flags.read_eq`), so neither
the order of the letters matters nor how often each of them stands.  Two sets are the same if they
have the same flags (`Flags.ext_has`), and by this everything else is said of letters: texts one
after the other write the union of two sets, and the canonical text of a set is made of the letters
that any text of it holds.

As numbers of eight bits, `Flags.mask`, sets have one bit for each flag, and union and inclusion are
found bit by bit.
-/

namespace PathExpr.Regex

variable {fs gs : Flags} {f : Flag} {c : Char} {s t : List Char}

/-! ## Letters -/

/-- The letters of flags, in the order in which flags are written. -/
def flagLetters : List Char := ['i', 's', 'm', 'x', 'q']

namespace Flag

theorem mem_all (f : Flag) : f ∈ all := by
  cases f <;> decide

theorem map_letter_all : all.map letter = flagLetters := rfl

theorem mem_flagLetters : c ∈ flagLetters ↔ ∃ f : Flag, f.letter = c := by
  rw [← map_letter_all, List.mem_map]
  simp only [mem_all, true_and]

theorem ofLetter?_eq_some : ofLetter? c = some f ↔ f.letter = c := by
  constructor
  · intro h
    unfold ofLetter? at h
    split at h <;> cases h <;> rfl
  · rintro rfl
    cases f <;> rfl

theorem letter_inj {g : Flag} : f.letter = g.letter ↔ f = g := by
  rw [← ofLetter?_eq_some, ofLetter?_eq_some.mpr rfl, Option.some.injEq, eq_comm]

/-- The bit of a flag, counted from the lowest. -/
def bit : Flag → Nat
  | ignoreCase => 0
  | dotAll => 1
  | multiLine => 2
  | expanded => 3
  | quoted => 4

end Flag

/-! ## Sets -/

namespace Flags

/-- Sets with the same flags are the same. -/
theorem ext_has (h : ∀ f, fs.has f = gs.has f) : fs = gs := by
  obtain ⟨i, s, m, x, q⟩ := fs
  obtain ⟨i', s', m', x', q'⟩ := gs
  exact congr (congr (congr (congr (congrArg mk (h .ignoreCase)) (h .dotAll)) (h .multiLine))
    (h .expanded)) (h .quoted)

@[simp] theorem has_empty (f : Flag) : empty.has f = false := by
  cases f <;> rfl

@[simp] theorem has_single (f g : Flag) : (single f).has g = decide (f = g) := by
  cases g <;> rfl

@[simp] theorem has_insert (fs gs : Flags) (f : Flag) :
    (fs.insert gs).has f = (fs.has f || gs.has f) := by
  cases f <;> rfl

/-- One set contains another if it has all its flags. -/
theorem contains_iff : fs.contains gs = true ↔ ∀ f, gs.has f = true → fs.has f = true := by
  simp only [contains, List.all_eq_true, Bool.or_eq_true, Bool.not_eq_true', Flag.mem_all,
    forall_const]
  exact forall_congr' fun f => by cases gs.has f <;> simp

/-! ## Reading -/

/-- The set of the flags whose letters occur in a text. -/
def written (text : List Char) : Flags :=
  ⟨text.contains 'i', text.contains 's', text.contains 'm', text.contains 'x', text.contains 'q'⟩

theorem has_written : (written s).has f = true ↔ f.letter ∈ s := by
  rw [← List.contains_iff_mem]
  cases f <;> rfl

theorem written_append (s t : List Char) : written (s ++ t) = (written s).insert (written t) := by
  refine ext_has fun f => ?_
  rw [Bool.eq_iff_iff, has_insert, Bool.or_eq_true, has_written, has_written, has_written,
    List.mem_append]

theorem written_letter (f : Flag) : written [f.letter] = single f := by
  refine ext_has fun g => ?_
  rw [Bool.eq_iff_iff, has_written, has_single, decide_eq_true_eq, List.mem_singleton,
    Flag.letter_inj, eq_comm]

theorem insert_assoc (fs gs hs : Flags) : (fs.insert gs).insert hs = fs.insert (gs.insert hs) := by
  refine ext_has fun f => ?_
  simp only [has_insert, Bool.or_assoc]

theorem insert_written_nil (fs : Flags) : fs.insert (written []) = fs := by
  refine ext_has fun f => ?_
  rw [Bool.eq_iff_iff, has_insert, Bool.or_eq_true, has_written]
  simp

/-- The first character that is no letter of a flag is told, if there is one; otherwise the flags
whose letters occur are put to those read before. -/
theorem readFrom_eq (fs : Flags) (text : List Char) :
    readFrom fs text = match text.find? (· ∉ flagLetters) with
      | some c => .error (.unknownFlag c)
      | none => .ok (fs.insert (written text)) := by
  induction text generalizing fs with
  | nil => exact congrArg Except.ok (insert_written_nil fs).symm
  | cons c text ih =>
    cases hc : Flag.ofLetter? c with
    | none =>
      have hmem : c ∉ flagLetters := by
        rw [Flag.mem_flagLetters]
        rintro ⟨f, hf⟩
        exact absurd (Flag.ofLetter?_eq_some.mpr hf) (by simp [hc])
      rw [readFrom, hc, List.find?_cons_of_pos (by simpa using hmem)]
    | some f =>
      obtain rfl := Flag.ofLetter?_eq_some.mp hc
      have hmem : f.letter ∈ flagLetters := Flag.mem_flagLetters.mpr ⟨f, rfl⟩
      have hcons : written (f.letter :: text) = (single f).insert (written text) := by
        rw [← written_letter]
        exact written_append [f.letter] text
      rw [readFrom, hc, List.find?_cons_of_neg (by simpa using hmem), hcons, ← insert_assoc]
      exact ih _

/-- **A text of flags writes the set of those whose letters occur in it**, unless a character of it
is no letter of a flag. -/
theorem read_eq (text : String) :
    read text = match text.toList.find? (· ∉ flagLetters) with
      | some c => .error (.unknownFlag c)
      | none => .ok (written text.toList) := by
  have hempty : empty.insert (written text.toList) = written text.toList :=
    ext_has fun f => by simp
  rw [read, readFrom_eq, hempty]

theorem read_eq_ok {text : String} :
    read text = .ok fs ↔ (∀ c ∈ text.toList, c ∈ flagLetters) ∧ fs = written text.toList := by
  rw [read_eq]
  cases h : text.toList.find? (· ∉ flagLetters) with
  | some c =>
    have hmem := List.mem_of_find?_eq_some h
    have hc : c ∉ flagLetters := by simpa using List.find?_some h
    simp only [reduceCtorEq, false_iff, not_and]
    exact fun hall => absurd (hall c hmem) hc
  | none =>
    have hall : ∀ c ∈ text.toList, c ∈ flagLetters := by simpa using h
    rw [Except.ok.injEq, and_iff_right hall, eq_comm]

theorem read_eq_error {text : String} {fault : PatternFault} :
    read text = .error fault ↔
      ∃ c, text.toList.find? (· ∉ flagLetters) = some c ∧ fault = .unknownFlag c := by
  rw [read_eq]
  cases text.toList.find? (· ∉ flagLetters) <;> simp [eq_comm]

/-! ## Texts that write sets -/

/-- A set contains another if the letters of one occur among those of the other. -/
theorem contains_written (ht : ∀ c ∈ t, c ∈ flagLetters) :
    (written s).contains (written t) = true ↔ ∀ c ∈ t, c ∈ s := by
  simp only [contains_iff, has_written]
  constructor
  · intro h c hc
    obtain ⟨f, rfl⟩ := Flag.mem_flagLetters.mp (ht c hc)
    exact h f hc
  · exact fun h f hf => h _ hf

theorem eq_iff_contains : fs = gs ↔ fs.contains gs = true ∧ gs.contains fs = true := by
  constructor
  · rintro rfl
    exact ⟨contains_iff.mpr fun _ h => h, contains_iff.mpr fun _ h => h⟩
  · rintro ⟨h, h'⟩
    exact ext_has fun f => Bool.eq_iff_iff.mpr ⟨contains_iff.mp h' f, contains_iff.mp h f⟩

/-- So two texts write the same set if they have the same letters. -/
theorem written_inj (hs : ∀ c ∈ s, c ∈ flagLetters) (ht : ∀ c ∈ t, c ∈ flagLetters) :
    written s = written t ↔ ∀ c, c ∈ s ↔ c ∈ t := by
  rw [eq_iff_contains, contains_written ht, contains_written hs]
  exact ⟨fun h c => ⟨h.2 c, h.1 c⟩, fun h => ⟨fun c => (h c).mpr, fun c => (h c).mp⟩⟩

/-- The canonical text of a set has the letters of any text that writes it, each once. -/
theorem text_written : (written s).text.toList = flagLetters.filter (· ∈ s) := by
  rw [text, String.toList_ofList, ← Flag.map_letter_all, List.filter_map]
  refine congrArg _ (List.filter_congr fun f _ => ?_)
  rw [Bool.eq_iff_iff, has_written, Function.comp_apply, decide_eq_true_eq]

/-! ## Masks -/

/-- The set as a number of eight bits, of which a flag has one and the upper three are never set. -/
def mask (fs : Flags) : BitVec 8 :=
  BitVec.ofBoolListLE
    [fs.ignoreCase, fs.dotAll, fs.multiLine, fs.expanded, fs.quoted, false, false, false]

theorem getLsbD_mask (fs : Flags) (f : Flag) : fs.mask.getLsbD f.bit = fs.has f := by
  cases f <;> exact BitVec.getLsbD_ofBoolListLE

example : Flag.all.map (fun f => (single f).mask) = [0x01, 0x02, 0x04, 0x08, 0x10] := by decide

theorem mask_inj : fs.mask = gs.mask ↔ fs = gs := by
  refine ⟨fun h => ext_has fun f => ?_, congrArg mask⟩
  rw [← getLsbD_mask, ← getLsbD_mask, h]

theorem mask_insert (fs gs : Flags) : (fs.insert gs).mask = fs.mask ||| gs.mask := by
  simp [mask, insert, BitVec.ofBoolListLE]

theorem contains_iff_mask : fs.contains gs = true ↔ fs.mask &&& gs.mask = gs.mask := by
  rw [contains_iff]
  constructor
  · intro h
    have hand : ∀ f, (fs.has f && gs.has f) = gs.has f := fun f => by
      rw [Bool.and_eq_right_iff_imp]
      exact h f
    have hi := hand .ignoreCase
    have hs := hand .dotAll
    have hm := hand .multiLine
    have hx := hand .expanded
    have hq := hand .quoted
    simp only [has] at hi hs hm hx hq
    simp [mask, BitVec.ofBoolListLE, hi, hs, hm, hx, hq]
  · intro h f hf
    have hbit := congrArg (fun m => m.getLsbD f.bit) h
    simpa only [BitVec.getLsbD_and, getLsbD_mask, hf, Bool.and_true] using hbit

end Flags

/-- **The flags of a pattern test are a set.** -/
theorem flags_read_as_sets :
    -- A text is accepted if all of its characters are letters of flags,
    (∀ text, (∃ fs, Flags.read text = .ok fs) ↔ ∀ c ∈ text.toList, c ∈ flagLetters) ∧
    -- and otherwise the first character that is none is told.
    (∀ text fault, Flags.read text = .error fault ↔
      ∃ c, text.toList.find? (· ∉ flagLetters) = some c ∧ fault = .unknownFlag c) ∧
    (∀ c, (PatternFault.unknownFlag c).message =
      "unrecognized flag character " ++ showChar c ++ " in LIKE_REGEX predicate") ∧
    (∀ s t fs gs, Flags.read s = .ok fs → Flags.read t = .ok gs →
      -- Texts with the same letters are the same set,
      (fs = gs ↔ ∀ c, c ∈ s.toList ↔ c ∈ t.toList) ∧
      -- one after the other they are the union,
      Flags.read (s ++ t) = .ok (fs.insert gs) ∧
      -- one set contains another if its letters do,
      (fs.contains gs = true ↔ ∀ c ∈ t.toList, c ∈ s.toList) ∧
      -- and the canonical text has each letter once and is the same set.
      fs.text.toList = flagLetters.filter (· ∈ s.toList) ∧ Flags.read fs.text = .ok fs) ∧
    -- As masks, sets are joined and compared bit by bit.
    (∀ fs gs : Flags, (fs.insert gs).mask = fs.mask ||| gs.mask ∧
      (fs.contains gs = true ↔ fs.mask &&& gs.mask = gs.mask) ∧ (fs.mask = gs.mask ↔ fs = gs)) ∧
    -- The flags that are written of a pattern test are read back as those that it has.
    ∀ test : Test, Test.read test.pattern test.flags.text = .ok test ∧
      ∃ ts, Spells Delimited (flagText test.flags) ts ∧
        ∀ rest, Grammar.Follows rest →
          Grammar.Leaves (Grammar.flags (ts ++ rest)) test.flags rest := by
  refine ⟨fun text => by simp [Flags.read_eq_ok], fun text fault => Flags.read_eq_error,
    fun c => rfl, fun s t fs gs hs ht => ?_, fun fs gs => ⟨Flags.mask_insert fs gs,
      Flags.contains_iff_mask, Flags.mask_inj⟩, fun test => ⟨?_, ?_⟩⟩
  · obtain ⟨hsl, rfl⟩ := Flags.read_eq_ok.mp hs
    obtain ⟨htl, rfl⟩ := Flags.read_eq_ok.mp ht
    refine ⟨Flags.written_inj hsl htl, Flags.read_eq_ok.mpr ⟨?_, ?_⟩, Flags.contains_written htl,
      Flags.text_written, read_flags_text _⟩
    · rw [String.toList_append]
      exact List.forall_mem_append.mpr ⟨hsl, htl⟩
    · rw [String.toList_append, Flags.written_append]
  · rw [Test.read, read_flags_text]
    exact Test.ofFlags_eq_ok.mpr ⟨rfl, rfl⟩
  · obtain ⟨ts, hspells, hclause⟩ := exists_flagClause test.flags
    exact ⟨ts, hspells, fun rest hr => Grammar.leaves_flags hclause hr⟩

/-- The texts `smi` and `iq`: letters in another order, and a set that holds neither of them. -/
theorem flags_read_as_sets_smi :
    Flags.read "smi" = .ok ⟨true, true, true, false, false⟩ ∧
    Flags.read "iq" = .ok ⟨true, false, false, false, true⟩ ∧
    Flags.read ("smi" ++ "iq") = .ok ⟨true, true, true, false, true⟩ ∧
    ¬ Flags.contains ⟨true, true, true, false, false⟩ ⟨true, false, false, false, true⟩ = true ∧
    (⟨true, true, true, false, false⟩ : Flags).text.toList = ['i', 's', 'm'] := by
  have hs : Flags.read "smi" = .ok ⟨true, true, true, false, false⟩ := by decide
  have ht : Flags.read "iq" = .ok ⟨true, false, false, false, true⟩ := by decide
  obtain ⟨-, -, -, hsets, -⟩ := flags_read_as_sets
  obtain ⟨-, hunion, hcontains, htext, -⟩ := hsets _ _ _ _ hs ht
  refine ⟨hs, ht, hunion, ?_, htext.trans (by decide)⟩
  rw [hcontains]
  exact fun h => absurd (h 'q' (by decide)) (by decide)

end PathExpr.Regex
