import PathExpr.Proofs.Lexical.Genuine
import PathExpr.Proofs.Lexical.Lookahead
import PathExpr.Proofs.Lexical.Spelling

/-!
# PathExpr/Proofs/Lexical/Locality — tokens do not mind what is put after them

An escape sequence and a string literal know where they end, and are the same whatever follows
(`escape_append`, `stringRest_append`).  A name, a number or an operator ends where its characters
do, and a blank or a comment ends it as well.  So a token without fault that is followed by `rest`
is the same when `rest'` follows (`lexeme_loosened`), a point at the end of a number apart.
-/

namespace PathExpr

variable {rest rest' w text : List Char} {c : Char}

/-! ## Escape sequences -/

/-- A run that stops within `w` stops at the same place whatever follows. -/
theorem takeWhile_append_of_lt {p : Char → Bool} (h : ((w ++ rest).takeWhile p).length < w.length)
    (rest' : List Char) : (w ++ rest').takeWhile p = (w ++ rest).takeWhile p := by
  induction w with
  | nil => cases h
  | cons c w ih =>
    rw [List.cons_append, List.takeWhile_cons] at h ⊢
    rw [List.cons_append, List.takeWhile_cons]
    split at h
    next hc => rw [if_pos hc, if_pos hc, ih (Nat.lt_of_succ_lt_succ h)]
    next hc => rw [if_neg hc, if_neg hc]

/-- …also if there is a limit to how long it may be. -/
theorem takeWhile_take_append_of_lt {p : Char → Bool} {n : Nat}
    (h : (((w ++ rest).take n).takeWhile p).length < w.length) (rest' : List Char) :
    ((w ++ rest').take n).takeWhile p = ((w ++ rest).take n).takeWhile p := by
  rcases Nat.lt_or_ge w.length n with hlt | hge
  · rw [List.take_append, List.take_of_length_le (Nat.le_of_lt hlt)] at h ⊢
    rw [List.take_append, List.take_of_length_le (Nat.le_of_lt hlt)]
    exact takeWhile_append_of_lt h _
  · rw [List.take_append_of_le_length hge, List.take_append_of_le_length hge]

/-- **When a code unit is well formed.** -/
theorem codeUnit_eq_ok {n k : Nat} :
    codeUnit text = (.ok n, k) ↔
      (∃ body, text = '\x7b' :: body ∧ (body.take 6).takeWhile (isDigitOf 16) ≠ [] ∧
        (body.drop ((body.take 6).takeWhile (isDigitOf 16)).length).head? = some '\x7d' ∧
        n = natOfDigits 16 ((body.take 6).takeWhile (isDigitOf 16)) ∧
        k = ((body.take 6).takeWhile (isDigitOf 16)).length + 2) ∨
      (text.head? ≠ some '\x7b' ∧ ((text.take 4).takeWhile (isDigitOf 16)).length = 4 ∧
        n = natOfDigits 16 ((text.take 4).takeWhile (isDigitOf 16)) ∧ k = 4) := by
  unfold codeUnit
  split
  next body =>
    extract_lets digits
    constructor
    · intro h
      split at h
      next hdigits hbrace =>
        obtain ⟨hn, rfl⟩ := Prod.mk.inj h
        refine .inl ⟨body, rfl, ?_, ?_, (Except.ok.inj hn).symm, rfl⟩
        · exact fun hnil => by rw [show digits = [] from hnil] at hdigits; cases hdigits
        · exact congrArg List.head? hbrace
      · cases (Prod.mk.inj h).1
    · rintro (⟨b, hb, hne, hbrace, rfl, rfl⟩ | ⟨hne, -⟩)
      · obtain rfl := (List.cons.inj hb).2
        obtain ⟨d, ds, hds⟩ := List.exists_cons_of_ne_nil (l := digits) hne
        obtain ⟨more, hmore⟩ := List.head?_eq_some_iff.mp hbrace
        split
        · rfl
        next hnot => exact absurd hmore (hnot d ds more hds)
      · exact absurd rfl hne
  next hne =>
    have hhead : text.head? ≠ some '\x7b' := fun h => by
      obtain ⟨body, hbody⟩ := List.head?_eq_some_iff.mp h
      exact hne body hbody
    extract_lets digits
    constructor
    · intro h
      split at h
      next hlen =>
        obtain ⟨hn, rfl⟩ := Prod.mk.inj h
        exact .inr ⟨hhead, hlen, (Except.ok.inj hn).symm, rfl⟩
      · cases (Prod.mk.inj h).1
    · rintro (⟨body, rfl, -⟩ | ⟨-, hlen, rfl, rfl⟩)
      · exact absurd rfl hhead
      · rw [if_pos hlen]

/-- **A well-formed code unit is the same whatever follows it.** -/
theorem codeUnit_append {n k : Nat} (h : codeUnit (w ++ rest) = (.ok n, k)) (hk : k ≤ w.length)
    (rest' : List Char) : codeUnit (w ++ rest') = (.ok n, k) := by
  rw [codeUnit_eq_ok] at h ⊢
  cases w with
  | nil =>
    rcases h with ⟨body, -, -, -, -, rfl⟩ | ⟨-, -, -, rfl⟩
    · cases hk
    · cases hk
  | cons c w =>
    rcases h with ⟨body, hbody, hne, hbrace, rfl, rfl⟩ | ⟨hhead, hlen, rfl, rfl⟩
    · rw [List.cons_append] at hbody
      obtain ⟨rfl, rfl⟩ := List.cons.inj hbody
      have hlt : (((w ++ rest).take 6).takeWhile (isDigitOf 16)).length < w.length := by
        rw [List.length_cons] at hk
        omega
      have hsame := takeWhile_take_append_of_lt hlt rest'
      refine .inl ⟨w ++ rest', rfl, ?_⟩
      rw [hsame]
      refine ⟨hne, ?_, rfl, rfl⟩
      obtain ⟨d, ds, hds⟩ :=
        List.exists_cons_of_ne_nil (mt List.drop_eq_nil_iff.mp (Nat.not_le.mpr hlt))
      rw [List.drop_append_of_le_length (Nat.le_of_lt hlt), hds] at hbrace ⊢
      exact hbrace
    · refine .inr ⟨hhead, ?_⟩
      rw [List.take_append_of_le_length hk] at hlen ⊢
      rw [List.take_append_of_le_length hk]
      exact ⟨hlen, rfl, rfl⟩

/-- **An escape sequence by code is the same whatever follows it.** -/
theorem unitEscape_append {k : Nat} (h : unitEscape (w ++ rest) = (.ok c, k)) (hk : k ≤ w.length)
    (rest' : List Char) : unitEscape (w ++ rest') = (.ok c, k) := by
  unfold unitEscape at h
  split at h
  · cases (Prod.mk.inj h).1
  next unit used hunit =>
    split at h
    · cases (Prod.mk.inj h).1
    next hlow =>
      split at h
      next hhigh =>
        split at h
        next more hmore =>
          split at h
          · cases (Prod.mk.inj h).1
          next low usedToo hlow' =>
            split at h
            next hl =>
              obtain ⟨hc, rfl⟩ := Prod.mk.inj h
              rw [List.drop_append_of_le_length (by omega)] at hmore
              have hprefix : ['\\', 'u'] <+: w.drop used ++ rest := ⟨more, hmore.symm⟩
              obtain ⟨v, hv⟩ := exists_append_of_isPrefix hprefix (by
                rw [List.length_drop, List.length_cons, List.length_singleton]
                omega)
              have hlen := congrArg List.length hv
              simp only [List.length_drop, List.length_append, List.length_cons,
                List.length_nil] at hlen
              rw [hv] at hmore
              obtain rfl : v ++ rest = more := by simpa using hmore
              have hdrop : (w ++ rest').drop used = '\\' :: 'u' :: (v ++ rest') := by
                rw [List.drop_append_of_le_length (by omega), hv]
                rfl
              rw [unitEscape, codeUnit_append hunit (by omega)]
              simp only [hlow, hhigh, hdrop, codeUnit_append hlow' (by omega), hl, hc, if_true]
              rfl
            · cases (Prod.mk.inj h).1
        · cases (Prod.mk.inj h).1
      next hhigh =>
        obtain ⟨hc, rfl⟩ := Prod.mk.inj h
        rw [unitEscape, codeUnit_append hunit hk]
        simp only [hlow, hhigh, hc]
        rfl

theorem byteEscape_append {k : Nat} (h : byteEscape (w ++ rest) = (.ok c, k)) (hk : k ≤ w.length)
    (rest' : List Char) : byteEscape (w ++ rest') = (.ok c, k) := by
  have htwo : k = 2 := by
    rw [byteEscape.eq_def] at h
    extract_lets digits code at h
    split at h
    · exact (Prod.mk.inj h).2.symm
    · cases (Prod.mk.inj h).1
  subst htwo
  have hsame : byteEscape (w ++ rest') = byteEscape (w ++ rest) := by
    rw [byteEscape, byteEscape, List.take_append_of_le_length hk, List.take_append_of_le_length hk]
  rw [hsame, h]

/-- **An escape sequence is the same whatever follows it.** -/
theorem escape_append {k : Nat} (h : escape (w ++ rest) = (.ok c, k)) (hk : k ≤ w.length)
    (rest' : List Char) : escape (w ++ rest') = (.ok c, k) := by
  cases w with
  | nil =>
    obtain rfl := Nat.le_zero.mp hk
    unfold escape at h
    split at h
    · cases (Prod.mk.inj h).1
    · cases (Prod.mk.inj h).2
    · cases (Prod.mk.inj h).2
    · split at h <;> cases (Prod.mk.inj h).2
  | cons d w =>
    rw [List.cons_append] at h ⊢
    have hk' : ∀ {n}, n + 1 = k → n ≤ w.length := by
      rintro n rfl
      exact Nat.le_of_succ_le_succ hk
    by_cases hx : d = 'x'
    · subst hx
      obtain ⟨hc, hn⟩ := Prod.mk.inj h
      rw [escape, byteEscape_append (Prod.ext hc rfl) (hk' hn), hn]
    · by_cases hu : d = 'u'
      · subst hu
        obtain ⟨hc, hn⟩ := Prod.mk.inj h
        rw [escape, unitEscape_append (Prod.ext hc rfl) (hk' hn), hn]
      · rw [← h, escape.eq_4 _ _ (by simpa using hx) (by simpa using hu),
          escape.eq_4 _ _ (by simpa using hx) (by simpa using hu)]

/-! ## Names and string literals -/

theorem faults_pushEscape_eq_nil {r : Run} {result : Except LexicalFault Char} {seen : Nat} :
    (r.pushEscape result seen).faults = [] ↔ r.faults = [] ∧ ∃ c, result = .ok c := by
  cases result with
  | ok c => simp [Run.pushEscape, Run.push]
  | error fault => simp [Run.pushEscape, Run.withFault]

theorem le_nameRest_used (seen : Nat) (text : List Char) : seen ≤ (nameRest seen text).used := by
  induction seen, text using nameRest.induct
  case case1 => simp [nameRest]
  case case2 seen rest e ih =>
    rw [nameRest, if_pos rfl]
    dsimp only
    rw [used_pushEscape]
    exact Nat.le_trans (Nat.le_add_right seen (1 + e.2)) (by rwa [← Nat.add_assoc])
  case case3 seen c rest hc hn ih =>
    rw [nameRest, if_neg hc, if_pos hn]
    exact Nat.le_of_succ_le ih
  case case4 seen c rest hc hn => simp [nameRest, hc, hn]

theorem le_stringRest_used (seen : Nat) (text : List Char) :
    seen ≤ (stringRest seen text).used := by
  induction seen, text using stringRest.induct
  case case1 => simp [stringRest]
  case case2 => simp [stringRest]
  case case3 seen rest e hq ih =>
    rw [stringRest, if_neg (by decide), if_pos rfl]
    dsimp only
    rw [used_pushEscape]
    exact Nat.le_trans (Nat.le_add_right seen (1 + e.2)) (by rwa [← Nat.add_assoc])
  case case4 seen c rest hq hc hn ih =>
    rw [stringRest, if_neg hq, if_neg hc, if_pos hn]
    exact Nat.le_of_succ_le ih
  case case5 seen c rest hq hc hn ih =>
    rw [stringRest, if_neg hq, if_neg hc, if_neg hn]
    exact Nat.le_of_succ_le ih

/-- A string literal takes its closing mark. -/
theorem lt_stringRest_used {seen : Nat} (hf : (stringRest seen text).faults = []) :
    seen < (stringRest seen text).used := by
  cases text with
  | nil => simp [stringRest] at hf
  | cons c text =>
    rw [stringRest]
    split
    · exact Nat.lt_succ_self seen
    · split
      · dsimp only
        rw [used_pushEscape]
        have hle := le_stringRest_used (seen + 1 + (escape text).2) (text.drop (escape text).2)
        omega
      · split <;> exact le_stringRest_used (seen + 1) text

theorem endsName_loosened (h : Loosened rest rest') (he : EndsName rest) : EndsName rest' := by
  intro c hc
  by_cases hb : isBreak c = true
  · rcases isBreak_cases hb with rfl | rfl | rfl | rfl | rfl | rfl <;> decide
  · exact he c (h.head? (by simpa using hb) hc)

/-- A name that takes nothing ends here. -/
theorem endsName_of_used_le {seen : Nat} (h : (nameRest seen rest).used ≤ seen) :
    EndsName rest := by
  intro c hc
  obtain ⟨more, rfl⟩ := List.head?_eq_some_iff.mp hc
  rw [nameRest] at h
  split at h
  · dsimp only at h
    rw [used_pushEscape] at h
    have hle := le_nameRest_used (seen + 1 + (escape more).2) (more.drop (escape more).2)
    omega
  next hb =>
    split at h
    · have hle := le_nameRest_used (seen + 1) more
      exact absurd (Nat.le_trans hle h) (Nat.not_succ_le_self seen)
    next hn => exact ⟨by simpa using hn, hb⟩

theorem nameRest_of_endsName (h : EndsName rest) (seen : Nat) :
    nameRest seen rest = ⟨[], seen, [], false⟩ :=
  nameRest_append (w := []) nofun h seen

/-- **An escape sequence in a token is read whatever follows the token**, and what is left of the
token after it is shorter. -/
theorem exists_after_escape {read : Nat → List Char → Run} {seen : Nat}
    (hread : ∀ seen text, seen ≤ (read seen text).used)
    (hf : ((read (seen + 1 + (escape (w ++ rest)).2)
      ((w ++ rest).drop (escape (w ++ rest)).2)).pushEscape (escape (w ++ rest)).1
        (seen + 1 + (escape (w ++ rest)).2)).faults = [])
    (hu : ((read (seen + 1 + (escape (w ++ rest)).2)
      ((w ++ rest).drop (escape (w ++ rest)).2)).pushEscape (escape (w ++ rest)).1
        (seen + 1 + (escape (w ++ rest)).2)).used ≤ seen + (w.length + 1)) (rest' : List Char) :
    escape (w ++ rest') = escape (w ++ rest) ∧ ∃ v, v.length ≤ w.length ∧
      (w ++ rest).drop (escape (w ++ rest)).2 = v ++ rest ∧
      (w ++ rest').drop (escape (w ++ rest)).2 = v ++ rest' ∧
      (read (seen + 1 + (escape (w ++ rest)).2) (v ++ rest)).faults = [] ∧
      (read (seen + 1 + (escape (w ++ rest)).2) (v ++ rest)).used ≤
        seen + 1 + (escape (w ++ rest)).2 + v.length := by
  obtain ⟨hf, c, hok⟩ := faults_pushEscape_eq_nil.mp hf
  rw [used_pushEscape] at hu
  have hused := Nat.le_trans (hread _ _) hu
  have hle : (escape (w ++ rest)).2 ≤ w.length := by omega
  have hdrop : ∀ more, (w ++ more).drop (escape (w ++ rest)).2 =
      w.drop (escape (w ++ rest)).2 ++ more := fun _ => List.drop_append_of_le_length hle
  rw [hdrop rest] at hf hu
  refine ⟨?_, _, ?_, hdrop rest, hdrop rest', hf, ?_⟩
  · rw [escape_append (Prod.ext hok rfl) hle, ← hok]
  · rw [List.length_drop]
    omega
  · rw [List.length_drop]
    omega

/-- **A name that is followed by `rest` is the same before `rest'`.** -/
theorem nameRest_loosened (h : Loosened rest rest') {seen : Nat}
    (hf : (nameRest seen (w ++ rest)).faults = [])
    (hu : (nameRest seen (w ++ rest)).used ≤ seen + w.length) :
    nameRest seen (w ++ rest') = nameRest seen (w ++ rest) := by
  induction hn : w.length using Nat.strongRecOn generalizing w seen with
  | ind n ih =>
    subst hn
    cases w with
    | nil =>
      have hends : EndsName rest := endsName_of_used_le hu
      rw [List.nil_append, List.nil_append, nameRest_of_endsName hends,
        nameRest_of_endsName (endsName_loosened h hends)]
    | cons c w =>
      rw [List.cons_append, nameRest] at hf hu ⊢
      rw [List.cons_append, nameRest]
      rw [List.length_cons] at hu
      by_cases hb : c = '\\'
      · rw [if_pos hb] at hf hu ⊢
        rw [if_pos hb]
        obtain ⟨hsame, v, hlt, hv, hv', hf, hu⟩ := exists_after_escape le_nameRest_used hf hu rest'
        dsimp only
        rw [hsame, hv, hv', ih v.length (Nat.lt_succ_of_le hlt) hf hu rfl]
      · rw [if_neg hb] at hf hu ⊢
        rw [if_neg hb]
        by_cases hn : isNameChar c = true
        · rw [if_pos hn] at hf hu ⊢
          rw [if_pos hn, ih w.length (Nat.lt_succ_self _) hf ?_ rfl]
          rw [Nat.add_right_comm]
          exact hu
        · rw [if_neg hn, if_neg hn]

/-- **A string literal is the same whatever follows it.** -/
theorem stringRest_append {seen : Nat} (hf : (stringRest seen (w ++ rest)).faults = [])
    (hu : (stringRest seen (w ++ rest)).used ≤ seen + w.length) (rest' : List Char) :
    stringRest seen (w ++ rest') = stringRest seen (w ++ rest) := by
  induction hn : w.length using Nat.strongRecOn generalizing w seen with
  | ind n ih =>
    subst hn
    cases w with
    | nil =>
      exact absurd (lt_stringRest_used hf) (Nat.not_lt.mpr hu)
    | cons c w =>
      rw [List.cons_append, stringRest] at hf hu ⊢
      rw [List.cons_append, stringRest]
      rw [List.length_cons] at hu
      by_cases hq : c = '"'
      · rw [if_pos hq, if_pos hq]
      rw [if_neg hq] at hf hu ⊢
      rw [if_neg hq]
      by_cases hb : c = '\\'
      · rw [if_pos hb] at hf hu ⊢
        rw [if_pos hb]
        obtain ⟨hsame, v, hlt, hv, hv', hf, hu⟩ :=
          exists_after_escape le_stringRest_used hf hu rest'
        dsimp only
        rw [hsame, hv, hv', ih v.length (Nat.lt_succ_of_le hlt) hf hu rfl]
      · rw [if_neg hb] at hf hu ⊢
        rw [if_neg hb]
        by_cases hn : c.toNat < 0x20
        · rw [if_pos hn] at hf
          cases hf
        · rw [if_neg hn] at hf hu ⊢
          rw [if_neg hn, ih w.length (Nat.lt_succ_self _) hf ?_ rfl]
          rw [Nat.add_right_comm]
          exact hu

/-! ## Tokens -/

variable {first second : Char} {long short : Lexeme}

theorem oneOrTwo_loosened (h : Loosened rest rest') (hs : isBreak second = false)
    (hl : long.more ≠ 0) (hm : (oneOrTwo second long short (w ++ rest)).more = w.length) :
    oneOrTwo second long short (w ++ rest') = oneOrTwo second long short (w ++ rest) := by
  unfold oneOrTwo at hm ⊢
  by_cases hw : w = []
  · subst hw
    split at hm
    · exact absurd hm hl
    next hne =>
      rw [List.nil_append] at hne ⊢
      rw [List.nil_append, if_neg (mt (h.head? hs) hne), if_neg hne]
  · obtain ⟨c, v, rfl⟩ := List.exists_cons_of_ne_nil hw
    rfl

theorem point_not_mem_of_readMagnitude? {m : Nat} (h : readMagnitude? text = some m) :
    '.' ∉ text := by
  rcases hr : splitRadix text with ⟨radix, digits⟩
  have hdigits : '.' ∉ digits := by
    intro hmem
    simp only [readMagnitude?, hr] at h
    split at h
    next hall =>
      have hpoint : isDigitOf radix '.' = false := by
        rw [isDigitOf, digitValue?, show alphanumericValue? '.' = none from rfl]
        rfl
      have hdigit := List.all_eq_true.mp hall.2.1 '.' hmem
      rw [hpoint] at hdigit
      exact absurd hdigit (by decide)
    · cases h
  unfold splitRadix at hr
  split at hr
  next mark rest =>
    split at hr
    next base hbase =>
      obtain ⟨-, rfl⟩ := Prod.mk.inj hr
      have hmark : '.' ≠ mark := by
        rintro rfl
        cases hbase
      simp [hdigits, hmark]
    · obtain ⟨-, rfl⟩ := Prod.mk.inj hr
      exact hdigits
  · obtain ⟨-, rfl⟩ := Prod.mk.inj hr
    exact hdigits

/-- There is no point in an integer. -/
theorem point_not_mem {v : Int} (h : readInteger? text = some v) : '.' ∉ text := by
  obtain ⟨m, hm, -⟩ := readInteger?_eq_some.mp h
  have hu := point_not_mem_of_readMagnitude? hm
  unfold splitSign at hu
  split at hu
  · simpa using hu
  · simpa using hu
  · exact hu

theorem exists_kind_of_ofNumeral {n : Numeral} (hf : (Lexeme.ofNumeral n).faults = []) :
    ∃ t, n.kind = .ok t := by
  unfold Lexeme.ofNumeral at hf
  split at hf
  next t hk => exact ⟨t, hk⟩
  · cases hf

theorem ofNumeral_loosened (h : Loosened rest rest') (hminus : first ≠ '-') (hplus : first ≠ '+')
    (hf : (Lexeme.ofNumeral (numeral first (w ++ rest))).faults = [])
    (hm : (Lexeme.ofNumeral (numeral first (w ++ rest))).more = w.length)
    (hdot : ∀ literal,
      (Lexeme.ofNumeral (numeral first (w ++ rest))).intended = .decimal literal →
      literal.toList.getLast? = some '.' → rest'.head? = rest.head?) :
    Lexeme.ofNumeral (numeral first (w ++ rest')) =
      Lexeme.ofNumeral (numeral first (w ++ rest)) := by
  rw [ofNumeral_more] at hm
  unfold Lexeme.ofNumeral at hf hdot
  split at hf
  next t hkind =>
    have hn : numeral first (w ++ rest) = ⟨w.length, .ok t⟩ := hm ▸ Numeral.eq_of_kind hkind
    have hspelling := spelling_of_numeral hkind
    rw [hm, List.take_left] at hspelling
    rw [numeral_loosened h hn, hn]
    intro hlast
    rcases hspelling with rfl | rfl
    · generalize hl : String.ofList (first :: w) = literal at hkind
      cases numberToken_of_numeral hminus hplus hkind with
      | integer i =>
        have hpoint := point_not_mem i.reads
        rw [← hl, String.toList_ofList] at hpoint
        exact absurd (List.mem_cons_of_mem first (List.mem_of_getLast? hlast)) hpoint
    · simp only [hkind] at hdot
      refine hdot _ rfl ?_
      rw [String.toList_ofList, List.getLast?_cons, hlast]
      rfl
  · cases hf

/-- A number that begins with a point takes the digit after it. -/
theorem numeral_point_more_pos {t : TokenKind} (hd : startsWithDigit 10 text = true)
    (hk : (numeral '.' text).kind = .ok t) : 0 < (numeral '.' text).more := by
  refine Nat.pos_of_ne_zero fun hzero => ?_
  have hn : numeral '.' text = ⟨0, .ok t⟩ := hzero ▸ Numeral.eq_of_kind hk
  rw [numeral_eq_decimalNumeral fun _ _ hz => absurd hz (by decide)] at hn
  obtain ⟨-, hlen, -⟩ := decimalNumeral_eq_ok.mp hn
  obtain ⟨digit, more, rfl, hdigit⟩ := exists_digit hd
  have hprefix : digitRun 10 false (digit :: more) <+: (decimalTail '.' (digit :: more)).1 :=
    ⟨_, (List.append_assoc ..).symm⟩
  have hle := hprefix.length_le
  rw [← hlen, digitRun, if_pos hdigit] at hle
  cases hle

/-- What a point begins. -/
theorem point_loosened (h : Loosened rest rest')
    (hf : (lexeme '.' (w ++ rest)).faults = []) (hm : (lexeme '.' (w ++ rest)).more = w.length)
    (hdot : ∀ literal, (lexeme '.' (w ++ rest)).intended = .decimal literal →
      literal.toList.getLast? = some '.' → rest'.head? = rest.head?) :
    lexeme '.' (w ++ rest') = lexeme '.' (w ++ rest) := by
  simp only [lexeme] at hf hm hdot ⊢
  by_cases hd : startsWithDigit 10 (w ++ rest) = true
  · rw [if_pos hd] at hf hm hdot ⊢
    have hd' : startsWithDigit 10 (w ++ rest') = true := by
      cases w with
      | nil =>
        obtain ⟨t, hk⟩ := exists_kind_of_ofNumeral hf
        rw [ofNumeral_more] at hm
        exact absurd hm (Nat.ne_of_gt (numeral_point_more_pos hd hk))
      | cons c w => exact hd
    rw [if_pos hd', ofNumeral_loosened h (by decide) (by decide) hf hm hdot]
  · rw [if_neg hd, if_neg (mt (startsWithDigit_loosened (h.append w)) hd)]

/-- What a less-than sign begins. -/
theorem less_loosened (h : Loosened rest rest') (hm : (lexeme '<' (w ++ rest)).more = w.length) :
    lexeme '<' (w ++ rest') = lexeme '<' (w ++ rest) := by
  cases w with
  | nil =>
    have hinner : oneOrTwo '>' (.plain .notEqual 1) (.plain .less 0) ([] ++ rest') =
        oneOrTwo '>' (.plain .notEqual 1) (.plain .less 0) ([] ++ rest) := by
      refine oneOrTwo_loosened h (by decide) (by decide) ?_
      rw [lexeme, oneOrTwo] at hm
      split at hm
      · cases hm
      · exact hm
    rw [lexeme, lexeme, hinner]
    exact oneOrTwo_loosened h (by decide) (by decide) hm
  | cons c w => rfl

/-- A dollar sign before neither a name nor a string literal is the root. -/
theorem dollarSign_of_endsName (h : EndsName rest) (hq : rest.head? ≠ some '"') :
    dollarSign rest = .plain .dollar 0 := by
  cases rest with
  | nil => rfl
  | cons c rest =>
    obtain ⟨hn, hb⟩ := h c rfl
    rw [dollarSign.eq_2 _ _ fun hc => hq (congrArg some hc), if_neg (by simp [hn, hb])]

/-- …and it is so if it takes no further character. -/
theorem endsName_of_dollarSign (hf : (dollarSign rest).faults = [])
    (hm : (dollarSign rest).more = 0) : EndsName rest ∧ rest.head? ≠ some '"' := by
  cases rest with
  | nil => exact ⟨nofun, nofun⟩
  | cons c rest =>
    by_cases hq : c = '"'
    · subst hq
      have hlt : 2 < (stringRest 2 rest).used := lt_stringRest_used hf
      have hle : (stringRest 2 rest).used - 1 = 0 := hm
      omega
    · rw [dollarSign.eq_2 _ _ hq] at hm
      refine ⟨?_, fun hc => hq (Option.some.inj hc)⟩
      split at hm
      · exact endsName_of_used_le (Nat.sub_eq_zero_iff_le.mp hm)
      next hc =>
        intro d hd
        obtain rfl : c = d := Option.some.inj hd
        simpa using hc

theorem dollarSign_loosened (h : Loosened rest rest') (hf : (dollarSign (w ++ rest)).faults = [])
    (hm : (dollarSign (w ++ rest)).more = w.length) :
    dollarSign (w ++ rest') = dollarSign (w ++ rest) := by
  cases w with
  | nil =>
    obtain ⟨hends, hq⟩ : EndsName rest ∧ rest.head? ≠ some '"' := endsName_of_dollarSign hf hm
    rw [List.nil_append, List.nil_append, dollarSign_of_endsName hends hq,
      dollarSign_of_endsName (endsName_loosened h hends) (mt (h.head? (by decide)) hq)]
  | cons c w =>
    rw [List.cons_append] at hf hm ⊢
    by_cases hq : c = '"'
    · subst hq
      have hused : (stringRest 2 (w ++ rest)).used - 1 = w.length + 1 := hm
      have hsame := stringRest_append hf (by omega) rest'
      rw [List.cons_append, dollarSign, dollarSign, hsame]
    · rw [dollarSign.eq_2 _ _ hq] at hf hm ⊢
      rw [List.cons_append, dollarSign.eq_2 _ _ hq]
      split at hf
      next hc =>
        rw [if_pos hc] at hm ⊢
        rw [if_pos hc]
        have hused : (nameRest 1 (c :: w ++ rest)).used - 1 = (c :: w).length := hm
        have hsame : nameRest 1 (c :: w ++ rest') = nameRest 1 (c :: w ++ rest) :=
          nameRest_loosened h hf (by omega)
        rw [List.cons_append, List.cons_append] at hsame
        rw [hsame]
      next hc => rw [if_neg hc, if_neg hc]

/-- **A token that is followed by `rest` is the same before `rest'`.** -/
theorem lexeme_loosened (h : Loosened rest rest') (hf : (lexeme first (w ++ rest)).faults = [])
    (hm : (lexeme first (w ++ rest)).more = w.length)
    (hdot : ∀ literal, (lexeme first (w ++ rest)).intended = .decimal literal →
      literal.toList.getLast? = some '.' → rest'.head? = rest.head?) :
    lexeme first (w ++ rest') = lexeme first (w ++ rest) := by
  by_cases hpoint : first = '.'
  · subst hpoint
    exact point_loosened h hf hm hdot
  by_cases hless : first = '<'
  · subst hless
    exact less_loosened h hm
  revert hf hm hdot
  unfold lexeme
  split
  case h_1 => exact fun hf hm _ => dollarSign_loosened h hf hm
  case h_13 =>
    unfold oneOrTwo
    split
    · exact fun hf => nomatch hf
    next hne =>
      intro _ _ _
      rw [if_neg (mt ((h.append w).head? (by decide)) hne)]
  case h_15 => exact absurd rfl hpoint
  case h_16 | h_18 | h_19 | h_21 | h_22 | h_23 =>
    exact fun _ hm _ => oneOrTwo_loosened h (by decide) (by decide) hm
  case h_17 =>
    intro hf hm _
    dsimp only [Lexeme.ofRun] at hf hm ⊢
    rw [stringRest_append hf (by omega)]
  case h_20 => exact absurd rfl hless
  case h_24 =>
    split
    next hd =>
      refine ofNumeral_loosened h ?_ ?_ <;>
      · rintro rfl
        exact absurd hd (by decide)
    · split
      · intro hf hm _
        dsimp only [word, Lexeme.ofRun] at hf hm ⊢
        rw [← List.cons_append] at hf hm ⊢
        rw [← List.cons_append, nameRest_loosened h hf (by rw [List.length_cons]; omega)]
      · exact fun _ _ _ => rfl
  all_goals exact fun _ _ _ => rfl

end PathExpr
