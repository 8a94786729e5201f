import PathExpr.Token.Lexeme

/-!
# PathExpr/Proofs/Lexical/Trivia — blanks and complete comments

`Trivia` says of a text that it is made of blanks and complete comments.  `trivia` counts the
longest such text at the front (`trivia_take`), and skips it whatever follows (`trivia_append`).
-/

namespace PathExpr

/-- A space, tab, line feed, carriage return or form feed. -/
inductive Blank : Char → Prop
  | space : Blank ' '
  | tab : Blank '\t'
  | lineFeed : Blank '\n'
  | carriageReturn : Blank '\r'
  | formFeed : Blank '\x0c'

/-- Blanks are what the lexer skips one by one. -/
theorem isBlank_iff {c : Char} : isBlank c = true ↔ Blank c := by
  simp only [isBlank, Bool.or_eq_true, decide_eq_true_eq]
  constructor
  · rintro ((((rfl | rfl) | rfl) | rfl) | rfl) <;> constructor
  · rintro (_ | _) <;> simp

/-- The text is made of blanks and complete comments, in whose bodies no end mark occurs. -/
inductive Trivia : List Char → Prop
  | nil : Trivia []
  | blank {c : Char} {text : List Char} (hc : Blank c) (ht : Trivia text) : Trivia (c :: text)
  | comment {body text : List Char} (hb : ¬ ['*', '/'] <:+: body) (ht : Trivia text) :
      Trivia ('/' :: '*' :: (body ++ '*' :: '/' :: text))

theorem Trivia.append {text text' : List Char} (h : Trivia text) (h' : Trivia text') :
    Trivia (text ++ text') := by
  induction h with
  | nil => exact h'
  | blank hc _ ih => exact .blank hc ih
  | comment hb _ ih =>
    rw [List.cons_append, List.cons_append, List.append_assoc]
    exact .comment hb ih

/-! ## Comments -/

/-- **A comment ends with the first end mark after its body.** -/
theorem commentEnd?_append {body : List Char} (h : ¬ ['*', '/'] <:+: body) (rest : List Char) :
    commentEnd? (body ++ '*' :: '/' :: rest) = some (body.length + 2) := by
  induction body with
  | nil => rfl
  | cons c body ih =>
    have hbody : ¬ ['*', '/'] <:+: body := fun hb => h (hb.trans (List.suffix_cons c body).isInfix)
    have hmark : ¬ (c = '*' ∧ (body ++ '*' :: '/' :: rest).head? = some '/') := by
      rintro ⟨rfl, hd⟩
      cases body with
      | nil => cases hd
      | cons d body =>
        obtain rfl := Option.some.inj hd
        exact h ⟨[], body, rfl⟩
    rw [List.cons_append, commentEnd?, if_neg hmark, ih hbody]
    rfl

/-- …and where one ends there is its body. -/
theorem exists_body {text : List Char} {n : Nat} (h : commentEnd? text = some n) :
    ∃ body rest, text = body ++ '*' :: '/' :: rest ∧ n = body.length + 2 ∧
      ¬ ['*', '/'] <:+: body := by
  induction text generalizing n with
  | nil => cases h
  | cons c text ih =>
    rw [commentEnd?] at h
    split at h
    next hmark =>
      obtain ⟨rfl, hd⟩ := hmark
      obtain ⟨rest, rfl⟩ := List.head?_eq_some_iff.mp hd
      exact ⟨[], rest, rfl, (Option.some.inj h).symm, by simp⟩
    next hmark =>
      obtain ⟨m, hm, rfl⟩ := Option.map_eq_some_iff.mp h
      obtain ⟨body, rest, rfl, rfl, hbody⟩ := ih hm
      refine ⟨c :: body, rest, rfl, rfl, fun hinfix => ?_⟩
      rcases List.infix_cons_iff.mp hinfix with ⟨tail, hprefix⟩ | hinfix
      · obtain ⟨rfl, rfl⟩ := List.cons.inj hprefix
        exact hmark ⟨rfl, rfl⟩
      · exact hbody hinfix

/-! ## What is skipped -/

/-- Where neither a blank nor a comment begins nothing is skipped. -/
theorem trivia_eq_zero {first : Char} {rest : List Char} (hb : isBlank first = false)
    (hc : ¬ (first = '/' ∧ rest.head? = some '*')) : trivia (first :: rest) = 0 := by
  rw [trivia, if_neg (by simp [hb]), if_neg hc]

/-- **What is skipped is blanks and complete comments.** -/
theorem trivia_take (text : List Char) : Trivia (text.take (trivia text)) := by
  induction text using trivia.induct with
  | case1 => rw [List.take_nil]; exact .nil
  | case2 c rest hb ih =>
    rw [trivia, if_pos hb]
    exact .blank (isBlank_iff.mp hb) ih
  | case3 c rest hb hc n hn ih =>
    obtain ⟨rfl, hd⟩ := hc
    obtain ⟨tail, rfl⟩ := List.head?_eq_some_iff.mp hd
    obtain ⟨body, rest, rfl, rfl, hbody⟩ := exists_body hn
    have hdrop : ('*' :: (body ++ '*' :: '/' :: rest)).drop (body.length + 2 + 1) = rest := by
      simp [List.drop_append]
    rw [hdrop] at ih
    rw [trivia, if_neg hb, if_pos ⟨rfl, rfl⟩, List.tail_cons, commentEnd?_append hbody]
    simp only [hdrop]
    have htake : ('/' :: '*' :: (body ++ '*' :: '/' :: rest)).take
        (body.length + 2 + 2 + trivia rest) =
        '/' :: '*' :: (body ++ '*' :: '/' :: rest.take (trivia rest)) := by
      have hn : body.length + 2 + 2 + trivia rest = body.length + (trivia rest + 2) + 2 := by omega
      rw [hn, List.take_succ_cons, List.take_succ_cons, List.take_length_add_append,
        List.take_succ_cons, List.take_succ_cons]
    rw [htake]
    exact .comment hbody ih
  | case4 c rest hb hc hn =>
    rw [trivia, if_neg hb, if_pos hc]
    simp only [hn]
    exact .nil
  | case5 c rest hb hc =>
    rw [trivia, if_neg hb, if_neg hc]
    exact .nil

/-- **Blanks and complete comments are skipped whatever follows them.** -/
theorem trivia_append {gap : List Char} (h : Trivia gap) (rest : List Char) :
    trivia (gap ++ rest) = gap.length + trivia rest := by
  induction h with
  | nil => simp
  | blank hc _ ih =>
    rw [List.cons_append, trivia, if_pos (isBlank_iff.mpr hc), ih, List.length_cons]
    omega
  | @comment body text hb _ ih =>
    have hdrop : ('*' :: (body ++ '*' :: '/' :: (text ++ rest))).drop (body.length + 2 + 1) =
        text ++ rest := by
      simp [List.drop_append]
    rw [List.cons_append, List.cons_append, List.append_assoc, List.cons_append, List.cons_append,
      trivia, if_neg (by decide), if_pos ⟨rfl, rfl⟩, List.tail_cons, commentEnd?_append hb]
    simp only [hdrop, ih, List.length_cons, List.length_append]
    omega

/-- Nothing is left to skip after that. -/
theorem trivia_drop (text : List Char) : trivia (text.drop (trivia text)) = 0 := by
  have h := trivia_append (trivia_take text) (text.drop (trivia text))
  rw [List.take_append_drop, List.length_take] at h
  rcases Nat.le_total (trivia text) text.length with hle | hle
  · omega
  · rw [List.drop_eq_nil_of_le hle, trivia]

end PathExpr
