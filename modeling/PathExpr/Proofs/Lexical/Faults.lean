import PathExpr.Proofs.Lexical.Coverage
import PathExpr.Proofs.Lexical.Locality

/-!
# PathExpr/Proofs/Lexical/Faults — faults and faulty tokens

A token is faulty exactly if a fault was met while it was read, and it names the first one
(`fault?_nextToken`).  Reading goes on after a fault, so one token may have many: all of them are
noticed behind its first character and not behind its end (`inToken_nextToken`).

From one token this goes over to the whole text: what has been recorded only grows at its end
(`Cursor.recorded_succ`), and its first entry is the fault of the first faulty token
(`findSome?_fault?`).
-/

namespace PathExpr

open String (utf8Len)

/-- The fault that a faulty token names. -/
def TokenKind.fault? : TokenKind → Option LexicalFault
  | faulty fault => some fault
  | _ => none

theorem TokenKind.fault?_eq_some {kind : TokenKind} {fault : LexicalFault} :
    kind.fault? = some fault ↔ kind = .faulty fault := by
  cases kind <;> simp [fault?]

theorem TokenKind.fault?_eq_none {kind : TokenKind} :
    kind.fault? = none ↔ ∀ fault, kind ≠ .faulty fault := by
  cases kind <;> simp [fault?]

/-! ## Faults inside a run of characters -/

variable {seen : Nat} {text : List Char}

/-- The faults of the run are noticed from `seen` characters on, and at its end at the latest. -/
def Run.FaultsFrom (seen : Nat) (r : Run) : Prop := ∀ f ∈ r.faults, seen ≤ f.2 ∧ f.2 ≤ r.used

theorem Run.FaultsFrom.mono {r : Run} {later : Nat} (h : r.FaultsFrom later)
    (hle : seen ≤ later) : r.FaultsFrom seen :=
  fun f hf => ⟨Nat.le_trans hle (h f hf).1, (h f hf).2⟩

theorem Run.FaultsFrom.push {r : Run} (h : r.FaultsFrom seen) (c : Char) :
    (r.push c).FaultsFrom seen := h

theorem Run.FaultsFrom.withFault {r : Run} (h : r.FaultsFrom seen) (hle : seen ≤ r.used)
    (fault : LexicalFault) : (r.withFault fault seen).FaultsFrom seen := by
  intro f hf
  rcases List.mem_cons.mp hf with rfl | hf
  · exact ⟨Nat.le_refl _, hle⟩
  · exact h f hf

theorem Run.FaultsFrom.pushEscape {r : Run} (h : r.FaultsFrom seen) (hle : seen ≤ r.used)
    (result : Except LexicalFault Char) : (r.pushEscape result seen).FaultsFrom seen :=
  match result with
  | .ok _ => h
  | .error fault => h.withFault hle fault

/-- **A name has its faults inside it.** -/
theorem faultsFrom_nameRest (seen : Nat) (text : List Char) :
    (nameRest seen text).FaultsFrom seen := by
  induction seen, text using nameRest.induct
  case case1 => simp [nameRest, Run.FaultsFrom]
  case case2 seen rest e ih =>
    rw [nameRest, if_pos rfl]
    exact (ih.pushEscape (le_nameRest_used _ _) _).mono (by omega)
  case case3 seen c rest hc hn ih =>
    rw [nameRest, if_neg hc, if_pos hn]
    exact (ih.push c).mono (Nat.le_succ seen)
  case case4 seen c rest hc hn =>
    rw [nameRest, if_neg hc, if_neg hn]
    simp [Run.FaultsFrom]

/-- **…and so does a string literal**, also one that the end of the text cuts off. -/
theorem faultsFrom_stringRest (seen : Nat) (text : List Char) :
    (stringRest seen text).FaultsFrom seen := by
  induction seen, text using stringRest.induct
  case case1 => simp [stringRest, Run.FaultsFrom]
  case case2 => simp [stringRest, Run.FaultsFrom]
  case case3 seen rest e hq ih =>
    rw [stringRest, if_neg hq, if_pos rfl]
    exact (ih.pushEscape (le_stringRest_used _ _) _).mono (by omega)
  case case4 seen c rest hq hc hn ih =>
    rw [stringRest, if_neg hq, if_neg hc, if_pos hn]
    exact (ih.withFault (le_stringRest_used _ _) _).mono (Nat.le_succ seen)
  case case5 seen c rest hq hc hn ih =>
    rw [stringRest, if_neg hq, if_neg hc, if_neg hn]
    exact (ih.push c).mono (Nat.le_succ seen)

/-! ## Faults of a token -/

/-- The faults of the lexeme are noticed behind its first character and not behind its end, and
there is one if the lexeme is not meant to be a token. -/
structure Lexeme.Honest (l : Lexeme) : Prop where
  seen : ∀ f ∈ l.faults, 1 ≤ f.2 ∧ f.2 ≤ l.more + 1
  fault?_intended : l.faults = [] → l.intended.fault? = none

namespace Lexeme.Honest

theorem plain {kind : TokenKind} (h : kind.fault? = none) (more : Nat) :
    (Lexeme.plain kind more).Honest := ⟨fun _ hf => absurd hf List.not_mem_nil, fun _ => h⟩

theorem broken (fault : LexicalFault) (more : Nat) : (Lexeme.broken fault more).Honest := by
  refine ⟨fun f hf => ?_, nofun⟩
  obtain rfl := List.mem_singleton.mp hf
  exact ⟨Nat.succ_pos more, Nat.le_refl _⟩

theorem ofRun {kind : TokenKind} {r : Run} (h : kind.fault? = none) (hr : r.FaultsFrom 1) :
    (Lexeme.ofRun kind r).Honest := by
  refine ⟨fun f hf => ⟨(hr f hf).1, ?_⟩, fun _ => h⟩
  have hle := (hr f hf).2
  simp only [Lexeme.ofRun]
  omega

theorem ofNumeral {n : Numeral} (h : ∀ kind, n.kind = .ok kind → kind.fault? = none) :
    (Lexeme.ofNumeral n).Honest := by
  unfold Lexeme.ofNumeral
  split
  next kind hk => exact plain (h kind hk) _
  next fault _ => exact broken fault _

theorem oneOrTwo {second : Char} {long short : Lexeme} (hl : long.Honest) (hs : short.Honest)
    (rest : List Char) : (PathExpr.oneOrTwo second long short rest).Honest := by
  unfold PathExpr.oneOrTwo
  split
  · exact hl
  · exact hs

/-- **The token of an honest lexeme names its first fault.** -/
theorem fault?_kind {l : Lexeme} (h : l.Honest) : l.kind.fault? = l.faults.head?.map Prod.fst := by
  unfold Lexeme.kind
  split
  next hf => rw [h.fault?_intended hf, hf, List.head?_nil, Option.map_none]
  next f _ hf => rw [hf, List.head?_cons, Option.map_some, TokenKind.fault?]

end Lexeme.Honest

theorem honest_numeral (first : Char) (rest : List Char) :
    (Lexeme.ofNumeral (numeral first rest)).Honest := by
  refine .ofNumeral fun kind hk => ?_
  rcases spelling_of_numeral hk with rfl | rfl <;> rfl

theorem fault?_ofWord? {word : List Char} {kind : TokenKind}
    (h : TokenKind.ofWord? word = some kind) : kind.fault? = none := by
  unfold TokenKind.ofWord? at h
  split at h
  · cases h; rfl
  · split at h
    · cases h; rfl
    · split at h
      · cases h; rfl
      · obtain ⟨k, -, rfl⟩ := Option.map_eq_some_iff.mp h
        rfl

/-- A name takes its first character before anything can go wrong. -/
theorem faultsFrom_nameRest_cons {first : Char} (h : first = '\\' ∨ isNameChar first = true)
    (rest : List Char) : (nameRest 0 (first :: rest)).FaultsFrom 1 := by
  by_cases hb : first = '\\'
  · rw [nameRest, if_pos hb]
    have hrest := faultsFrom_nameRest (0 + 1 + (escape rest).2) (rest.drop (escape rest).2)
    exact (hrest.pushEscape (le_nameRest_used _ _) _).mono (by omega)
  · rw [nameRest, if_neg hb, if_pos (h.resolve_left hb)]
    exact (faultsFrom_nameRest (0 + 1) rest).push first

theorem honest_word {first : Char} (h : first = '\\' ∨ isNameChar first = true)
    (rest : List Char) : (word (first :: rest)).Honest := by
  refine .ofRun ?_ (faultsFrom_nameRest_cons h rest)
  split
  · rfl
  · cases hw : TokenKind.ofWord? (nameRest 0 (first :: rest)).value with
    | none => rfl
    | some kind => exact fault?_ofWord? hw

theorem honest_dollarSign (rest : List Char) : (dollarSign rest).Honest := by
  unfold dollarSign
  split
  · exact .ofRun rfl ((faultsFrom_stringRest 2 _).mono (by decide))
  · split
    · exact .ofRun rfl (faultsFrom_nameRest 1 _)
    · exact .plain rfl 0
  · exact .plain rfl 0

theorem isNameChar_of_isLetter {c : Char} (h : isLetter c = true) : isNameChar c = true := by
  rw [isNameChar, isAlphanumeric_of_isLetter h]
  rfl

/-- **Every lexeme is honest about its faults.** -/
theorem honest_lexeme (first : Char) (rest : List Char) : (lexeme first rest).Honest := by
  unfold lexeme
  split
  case h_1 => exact honest_dollarSign rest
  case h_13 => exact .oneOrTwo (.broken _ _) (.plain rfl 0) rest
  case h_15 =>
    split
    · exact honest_numeral _ _
    · exact .plain rfl 0
  case h_16 | h_19 | h_21 => exact .oneOrTwo (.plain rfl 1) (.plain rfl 0) rest
  case h_17 => exact .ofRun rfl (faultsFrom_stringRest 1 rest)
  case h_18 | h_22 | h_23 => exact .oneOrTwo (.plain rfl 1) (.broken _ _) rest
  case h_20 =>
    exact .oneOrTwo (.plain rfl 1) (.oneOrTwo (.plain rfl 1) (.plain rfl 0) rest) rest
  case h_24 =>
    split
    · exact honest_numeral _ _
    · split
      next hw =>
        refine honest_word ?_ rest
        simp only [Bool.or_eq_true, decide_eq_true_eq] at hw
        rcases hw with (hl | rfl) | rfl
        · exact .inr (isNameChar_of_isLetter hl)
        · exact .inr rfl
        · exact .inl rfl
      · exact .broken _ _
  all_goals exact .plain rfl 0

/-! ## Faults of one step -/

/-- The fault is noticed at a place in the text behind the beginning of the token and not behind its
end. -/
def PlacedFault.InToken (text : List Char) (t : Token) (f : PlacedFault) : Prop :=
  ∃ behind ahead, text = behind ++ ahead ∧ t.start < utf8Len behind ∧ utf8Len behind ≤ t.stop ∧
    f.position = .after behind

/-- **A token is faulty if a fault was met while it was read, and it names the first one.** -/
theorem fault?_nextToken (c : Cursor) :
    (nextToken c).token.kind.fault? = (nextToken c).faults.head?.map PlacedFault.fault := by
  unfold nextToken
  split
  · rfl
  next first rest _ =>
    refine (honest_lexeme first rest).fault?_kind.trans ?_
    rw [readLexeme, List.head?_map, Option.map_map]
    rfl

/-- The bytes of the beginning of a text grow with the beginning. -/
theorem utf8Len_take_le (text : List Char) {m n : Nat} (h : m ≤ n) :
    utf8Len (text.take m) ≤ utf8Len (text.take n) := by
  obtain ⟨tail, htail⟩ := List.take_prefix_take_left (l := text) h
  rw [← htail, String.utf8Len_append]
  exact Nat.le_add_right _ _

theorem utf8Len_take_pos {text : List Char} (h : text ≠ []) {n : Nat} (hn : 0 < n) :
    0 < utf8Len (text.take n) := by
  refine Nat.pos_of_ne_zero (mt String.utf8Len_eq_zero.mp ?_)
  rw [List.take_eq_nil_iff, not_or]
  exact ⟨hn.ne', h⟩

/-- **The faults of a step are noticed inside its token.** -/
theorem inToken_nextToken {whole : List Char} {c : Cursor} (hc : c.Within whole) :
    ∀ f ∈ (nextToken c).faults, f.InToken whole (nextToken c).token := by
  intro f hf
  by_cases hr : c.skipTrivia.rest = []
  · rw [nextToken_nil hr] at hf
    cases hf
  obtain ⟨first, rest, hcons⟩ := List.exists_cons_of_ne_nil hr
  rw [nextToken_cons hcons] at hf ⊢
  obtain ⟨before, htext, hbefore⟩ : c.skipTrivia.Within whole := hc.advance _
  obtain ⟨⟨fault, seen⟩, hmem, rfl⟩ := List.mem_map.mp hf
  obtain ⟨hpos, hle⟩ := (honest_lexeme first rest).seen _ hmem
  have hstop := (hbefore.advance ((lexeme first rest).more + 1)).offset
  refine ⟨_, c.skipTrivia.rest.drop seen, ?_, ?_, ?_, (hbefore.advance seen).position⟩
  · rw [List.append_assoc, List.take_append_drop, htext]
  · change c.skipTrivia.offset < _
    rw [hbefore.offset, String.utf8Len_append]
    exact Nat.lt_add_of_pos_right (utf8Len_take_pos hr hpos)
  · change _ ≤ (c.skipTrivia.advance ((lexeme first rest).more + 1)).offset
    rw [hstop, String.utf8Len_append, String.utf8Len_append]
    exact Nat.add_le_add_left (utf8Len_take_le _ hle) _

/-! ## Faults on record -/

/-- The faults that are on record after `n` tokens. -/
def Cursor.recorded : Nat → Cursor → List PlacedFault
  | 0, _ => []
  | n + 1, c => (nextToken c).faults ++ (nextToken c).after.recorded n

/-- **The record grows at its end only**, by the faults of the token that is read. -/
theorem Cursor.recorded_succ (n : Nat) (c : Cursor) :
    c.recorded (n + 1) = c.recorded n ++ (nextToken (c.past n)).faults := by
  induction n generalizing c with
  | zero => exact List.append_nil _
  | succ n ih =>
    have hrest := ih (nextToken c).after
    rw [recorded, hrest, recorded, List.append_assoc]
    rfl

/-- At the end of the text nothing is recorded any more. -/
theorem Cursor.recorded_of_nil (n : Nat) {c : Cursor} (h : c.skipTrivia.rest = []) :
    c.recorded n = [] := by
  induction n with
  | zero => rfl
  | succ n ih =>
    have hfinish : (Stream.ofCursor c).tokens.length ≤ n := by
      rw [ofCursor_nil h]
      exact Nat.zero_le n
    rw [recorded_succ, ih, (nextToken_past n c).2 hfinish]
    rfl

/-- **All faults are on record when all tokens are read.** -/
theorem recorded_eq_faults {c : Cursor} {n : Nat} (h : (Stream.ofCursor c).tokens.length ≤ n) :
    c.recorded n = (Stream.ofCursor c).faults := by
  induction c using Stream.ofCursor.induct generalizing n
  case case1 c hnil => rw [Cursor.recorded_of_nil n hnil, ofCursor_nil hnil]
  case case2 c hne r ih =>
    subst r
    rw [Stream.ofCursor, dif_neg hne] at h ⊢
    obtain ⟨n, rfl⟩ : ∃ k, n = k + 1 := Nat.exists_eq_add_one.mpr (Nat.lt_of_lt_of_le
      (Nat.succ_pos _) h)
    rw [Cursor.recorded, ih (Nat.le_of_succ_le_succ h)]
    rfl

/-- **The first fault of a text is that of its first faulty token.** -/
theorem findSome?_fault? (c : Cursor) :
    (Stream.ofCursor c).all.findSome? (fun t => t.kind.fault?) =
      (Stream.ofCursor c).faults.head?.map PlacedFault.fault := by
  induction c using Stream.ofCursor.induct
  case case1 c hnil =>
    rw [ofCursor_nil hnil]
    rfl
  case case2 c hne r ih =>
    subst r
    have hstream : Stream.ofCursor c =
        (Stream.ofCursor (nextToken c).after).push (nextToken c) := by
      rw [Stream.ofCursor, dif_neg hne]
    rw [hstream]
    simp only [Stream.push, Stream.all, List.cons_append, List.findSome?_cons, fault?_nextToken]
    cases (nextToken c).faults with
    | nil => exact ih
    | cons f more => rfl

/-! ## Faults of a text -/

/-- Reading the tokens of a text stops at its first fault, or not at all. -/
theorem tokens?_cases (text : String) :
    ((tokenStream text).faults = [] ∧ tokens? text = .ok (tokenStream text)) ∨
      ∃ f more, (tokenStream text).faults = f :: more ∧ tokens? text = .error f := by
  unfold tokens?
  dsimp only
  split
  next h => exact .inl ⟨h, rfl⟩
  next f more h => exact .inr ⟨f, more, h, rfl⟩

theorem findSome?_fault?_all (text : String) :
    (tokenStream text).all.findSome? (fun t => t.kind.fault?) =
      (tokenStream text).faults.head?.map PlacedFault.fault := findSome?_fault? _

/-- **The tokens of a text are told exactly if none of them is faulty.** -/
theorem tokens?_eq_tokenStream_iff (text : String) :
    tokens? text = .ok (tokenStream text) ↔
      ∀ t ∈ (tokenStream text).all, ∀ fault, t.kind ≠ .faulty fault := by
  have hnone : tokens? text = .ok (tokenStream text) ↔ (tokenStream text).faults = [] := by
    rcases tokens?_cases text with ⟨hf, ht⟩ | ⟨f, more, hf, ht⟩ <;> simp [hf, ht]
  simp only [hnone, ← TokenKind.fault?_eq_none]
  rw [← List.findSome?_eq_none_iff, findSome?_fault?_all, Option.map_eq_none_iff,
    List.head?_eq_none_iff]

/-- **The first fault is that of the first faulty token.** -/
theorem exists_first_faulty {text : String} {f : PlacedFault} {more : List PlacedFault}
    (hf : (tokenStream text).faults = f :: more) :
    ∃ sound t rest, (tokenStream text).all = sound ++ t :: rest ∧
      (∀ u ∈ sound, ∀ fault, u.kind ≠ .faulty fault) ∧ t.kind = .faulty f.fault := by
  have hfirst := findSome?_fault?_all text
  rw [hf, List.head?_cons, Option.map_some, List.findSome?_eq_some_iff] at hfirst
  obtain ⟨sound, t, rest, hall, ht, hsound⟩ := hfirst
  exact ⟨sound, t, rest, hall, fun u hu => TokenKind.fault?_eq_none.mp (hsound u hu),
    TokenKind.fault?_eq_some.mp ht⟩

/-- A step with a faulty token is one that met a fault. -/
theorem kind_nextToken_iff (c : Cursor) (fault : LexicalFault) :
    (nextToken c).token.kind = .faulty fault ↔
      ∃ f more, (nextToken c).faults = f :: more ∧ f.fault = fault := by
  rw [← TokenKind.fault?_eq_some, fault?_nextToken]
  cases (nextToken c).faults <;> simp

/-- **Faults and faulty tokens correspond to one another.** -/
theorem faults_match_faulty_tokens (text : String) :
    -- The record grows at its end, token by token, until it holds the faults of the text.
    (∀ n, (Cursor.ofText text.toList).recorded (n + 1) =
      (Cursor.ofText text.toList).recorded n ++
        (nextToken ((Cursor.ofText text.toList).past n)).faults) ∧
    (∀ n, (tokenStream text).tokens.length ≤ n →
      (Cursor.ofText text.toList).recorded n = (tokenStream text).faults) ∧
    -- A token is faulty if its reading added to the record, and it names the first addition.
    (∀ n fault, (nextToken ((Cursor.ofText text.toList).past n)).token.kind = .faulty fault ↔
      ∃ f more, (nextToken ((Cursor.ofText text.toList).past n)).faults = f :: more ∧
        f.fault = fault) ∧
    -- All additions have their place inside the token.
    (∀ n, ∀ f ∈ (nextToken ((Cursor.ofText text.toList).past n)).faults,
      f.InToken text.toList (nextToken ((Cursor.ofText text.toList).past n)).token) ∧
    -- The tokens of a text are told if none of them is faulty,
    (tokens? text = .ok (tokenStream text) ↔
      ∀ t ∈ (tokenStream text).all, ∀ fault, t.kind ≠ .faulty fault) ∧
    -- and otherwise the fault of the first faulty one is.
    ((∃ t ∈ (tokenStream text).all, ∃ fault, t.kind = .faulty fault) →
      ∃ f sound t more, tokens? text = .error f ∧ (tokenStream text).all = sound ++ t :: more ∧
        (∀ u ∈ sound, ∀ fault, u.kind ≠ .faulty fault) ∧ t.kind = .faulty f.fault) := by
  have hwithin : Cursor.Within text.toList (.ofText text.toList) := ⟨[], rfl, .ofText _⟩
  refine ⟨fun n => Cursor.recorded_succ n _, fun n => recorded_eq_faults,
    fun n => kind_nextToken_iff _, fun n => inToken_nextToken (hwithin.past n),
    tokens?_eq_tokenStream_iff text, ?_⟩
  rintro ⟨t, hmem, fault, hk⟩
  rcases tokens?_cases text with ⟨-, ht⟩ | ⟨f, more, hf, ht⟩
  · exact absurd hk ((tokens?_eq_tokenStream_iff text).mp ht t hmem fault)
  · obtain ⟨sound, u, rest, hfirst⟩ := exists_first_faulty hf
    exact ⟨f, sound, u, rest, ht, hfirst⟩

end PathExpr
