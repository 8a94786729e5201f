import PathExpr.Grammar.Whole
import PathExpr.Proofs.Folded

/-!
# PathExpr/Proofs/Syntax/Derivation — the grammar of paths

What the tokens of a path may be, said without reading them.  `Derives phrase ts` says that the
tokens `ts` form the phrase, and a phrase carries the tree that its tokens stand for.  `IsPath` puts
the mode before an expression.

Expressions have a role, value or predicate, and a level.  Every operator between two operands has a
level of its own: disjunction 0, conjunction 1, comparisons and the other tests 2, addition 3 and
multiplication 4.  An expression of level `p` has outside parentheses only operators of level `p` at
least.  The right operand of an operator is of a higher level and the left one of the very level, so
operators of one level group from the left.

What a token carries matters where the tree holds a value made of it: patterns and flags must not be
refused, and levels must be in range.
-/

namespace PathExpr

/-- What an expression stands for. -/
inductive Role
  | value
  | predicate
deriving DecidableEq

/-! ## Phrases of tokens alone -/

/-- An operator between two operands of one role: the role of the whole, and the level. -/
inductive Dyadic : (operand whole : Role) → (tier : Nat) → TokenKind → BinaryOperator → Prop
  | or : Dyadic .predicate .predicate 0 .or .or
  | and : Dyadic .predicate .predicate 1 .and .and
  | equal : Dyadic .value .predicate 2 .equal .equal
  | notEqual : Dyadic .value .predicate 2 .notEqual .notEqual
  | less : Dyadic .value .predicate 2 .less .less
  | lessEqual : Dyadic .value .predicate 2 .lessEqual .lessEqual
  | greater : Dyadic .value .predicate 2 .greater .greater
  | greaterEqual : Dyadic .value .predicate 2 .greaterEqual .greaterEqual
  | add : Dyadic .value .value 3 .plus .add
  | sub : Dyadic .value .value 3 .minus .sub
  | mul : Dyadic .value .value 4 .star .mul
  | div : Dyadic .value .value 4 .slash .div
  | mod : Dyadic .value .value 4 .percent .mod

/-- The levels of the grammar are the priorities by which operators are read and written. -/
theorem Dyadic.priority_eq {operand whole : Role} {tier : Nat} {t : TokenKind}
    {operator : BinaryOperator} (h : Dyadic operand whole tier t operator) :
    operator.priority = tier := by
  cases h <;> rfl

/-- A sign. -/
inductive SignToken : TokenKind → UnaryOperator → Prop
  | plus : SignToken .plus .plus
  | minus : SignToken .minus .minus

variable [Regex.Engine]

/-- The head of a chain without parentheses.  Number tokens hold literals that have a value. -/
inductive HeadToken : TokenKind → Node → Prop
  | root : HeadToken .dollar (.constant .root)
  | current : HeadToken .atSign (.constant .current)
  | last (spelling : String) : HeadToken (.keyword .last spelling) (.constant .last)
  | trueWord : HeadToken .trueWord (.constant .trueWord)
  | falseWord : HeadToken .falseWord (.constant .falseWord)
  | nullWord : HeadToken .nullWord (.constant .nullWord)
  | string (value : String) : HeadToken (.string value) (.string value)
  | variable (name : String) : HeadToken (.variable name) (.variable name)
  | integer (i : Integer) : HeadToken (.integer i.literal) (.integer i)
  | decimal (n : Numeric) : HeadToken (.decimal n.literal) (.numeric n)

/-- The second operand of a prefix test. -/
inductive InitialToken : TokenKind → Node → Prop
  | string (value : String) : InitialToken (.string value) (.string value)
  | variable (name : String) : InitialToken (.variable name) (.variable name)

/-- The flags after a pattern, if there are any. -/
inductive FlagClause : List TokenKind → Regex.Flags → Prop
  | absent : FlagClause [] .empty
  | present (spelling : String) {text : String} {fs : Regex.Flags}
      (h : Regex.Flags.read text = .ok fs) :
      FlagClause [.keyword .flag spelling, .string text] fs

/-- The name of a member, which may be any word. -/
inductive NameToken : TokenKind → String → Prop
  | name (value : String) : NameToken (.name value) value
  | string (value : String) : NameToken (.string value) value
  | keyword (word : Keyword) (spelling : String) : NameToken (.keyword word spelling) spelling
  | trueWord : NameToken .trueWord "true"
  | falseWord : NameToken .falseWord "false"
  | nullWord : NameToken .nullWord "null"

/-- A level of the accessor `**`. -/
inductive LevelToken : TokenKind → Level → Prop
  | last (spelling : String) : LevelToken (.keyword .last spelling) .deepest
  | depth {literal : String} {n : Fin 4294967295}
      (h : readInteger? literal.toList = some (n.val : Int)) :
      LevelToken (.integer literal) (.depth n)

/-- An integer, perhaps with a sign. -/
inductive SignedInteger : List TokenKind → Chain → Prop
  | plain (i : Integer) : SignedInteger [.integer i.literal] [.integer i]
  | signed {t : TokenKind} {sign : UnaryOperator} (i : Integer) {c : Chain} (hs : SignToken t sign)
      (h : Folded sign [.integer i] c) : SignedInteger [t, .integer i.literal] c

/-- An operator of the methods that take a precision. -/
inductive TakesPrecision : UnaryOperator → Prop
  | time : TakesPrecision .time
  | timeTz : TakesPrecision .timeTz
  | timestamp : TakesPrecision .timestamp
  | timestampTz : TakesPrecision .timestampTz

/-- What stands between the parentheses of the method that a word names. -/
inductive Arguments : Keyword → List TokenKind → Node → Prop
  | none {word : Keyword} {method : Method} (h : word.word = method.name) :
      Arguments word [] (.method method)
  | noDecimal : Arguments .decimal [] (.binary .decimal [] [])
  | precision {ts : List TokenKind} {c : Chain} (h : SignedInteger ts c) :
      Arguments .decimal ts (.binary .decimal c [])
  | precisionAndScale {ts us : List TokenKind} {c d : Chain} (h : SignedInteger ts c)
      (h' : SignedInteger us d) : Arguments .decimal (ts ++ .comma :: us) (.binary .decimal c d)
  | noTemplate : Arguments .datetime [] (.unary .datetime [])
  | template (value : String) :
      Arguments .datetime [.string value] (.unary .datetime [.string value])
  | noPrecision {word : Keyword} {operator : UnaryOperator} (hp : TakesPrecision operator)
      (h : "." ++ word.word = operator.text) : Arguments word [] (.unary operator [])
  | timePrecision {word : Keyword} {operator : UnaryOperator} (i : Integer)
      (hp : TakesPrecision operator) (h : "." ++ word.word = operator.text) :
      Arguments word [.integer i.literal] (.unary operator [.integer i])

/-- What follows the dot of an accessor. -/
inductive Member : List TokenKind → Node → Prop
  | key {t : TokenKind} {name : String} (h : NameToken t name) : Member [t] (.key name)
  | anyKey : Member [.star] (.constant .anyKey)
  | any : Member [.doubleStar] (.any .top .deepest)
  | anyAt {t : TokenKind} {level : Level} (h : LevelToken t level) :
      Member [.doubleStar, .openBrace, t, .closeBrace] (.any level level)
  | anyBetween {t u : TokenKind} {first last : Level} (spelling : String) (h : LevelToken t first)
      (h' : LevelToken u last) :
      Member [.doubleStar, .openBrace, t, .keyword .toWord spelling, u, .closeBrace]
        (.any first last)
  | method {word : Keyword} {ts : List TokenKind} {node : Node} (spelling : String)
      (h : Arguments word ts node) :
      Member (.keyword word spelling :: .openParen :: ts ++ [.closeParen]) node

/-! ## Expressions -/

/-- The phrases of a path, each with the tree that it stands for. -/
inductive Phrase
  /-- Operands and operators of level `level` at least. -/
  | expression (role : Role) (level : Nat) (tree : Chain)
  /-- What operators apply to. -/
  | operand (role : Role) (tree : Chain)
  /-- Any number of accessors. -/
  | accessors (nodes : List Node)
  /-- One subscript. -/
  | subscript (item : Chain)
  /-- Subscripts with commas between. -/
  | subscripts (items : List Chain)

/-- The tokens form the phrase. -/
inductive Derives : Phrase → List TokenKind → Prop
  | alone {role : Role} {level : Nat} {c : Chain} {ts : List TokenKind}
      (h : Derives (.operand role c) ts) : Derives (.expression role level c) ts
  | dyadic {operand whole : Role} {level tier : Nat} {t : TokenKind} {operator : BinaryOperator}
      {left right : Chain} {ls rs : List TokenKind} (ht : Dyadic operand whole tier t operator)
      (hp : level ≤ tier) (hl : Derives (.expression operand tier left) ls)
      (hr : Derives (.expression operand (tier + 1) right) rs) :
      Derives (.expression whole level [.binary operator left right]) (ls ++ t :: rs)
  | startsWith {level : Nat} {t : TokenKind} {initial : Node} {left : Chain} {ls : List TokenKind}
      (starts withWord : String) (ht : InitialToken t initial) (hp : level ≤ 2)
      (hl : Derives (.expression .value 2 left) ls) :
      Derives (.expression .predicate level [.binary .startsWith left [initial]])
        (ls ++ [.keyword .starts starts, .keyword .withWord withWord, t])
  | likeRegex {level : Nat} {left : Chain} {ls fs : List TokenKind} (spelling : String)
      (test : Regex.Test) (hf : FlagClause fs test.flags) (hp : level ≤ 2)
      (hl : Derives (.expression .value 2 left) ls) :
      Derives (.expression .predicate level [.likeRegex left test])
        (ls ++ .keyword .likeRegex spelling :: .string test.pattern :: fs)
  | signed {t : TokenKind} {sign : UnaryOperator} {c whole : Chain} {ts : List TokenKind}
      (ht : SignToken t sign) (h : Derives (.operand .value c) ts) (hc : Folded sign c whole) :
      Derives (.operand .value whole) (t :: ts)
  | negation {c : Chain} {ts : List TokenKind} (h : Derives (.expression .predicate 0 c) ts) :
      Derives (.operand .predicate [.unary .negation c])
        (.bang :: .openParen :: ts ++ [.closeParen])
  | existence {c : Chain} {ts : List TokenKind} (spelling : String)
      (h : Derives (.expression .value 0 c) ts) :
      Derives (.operand .predicate [.unary .existence c])
        (.keyword .existsWord spelling :: .openParen :: ts ++ [.closeParen])
  | noExistence {c : Chain} {ts : List TokenKind} (spelling : String)
      (h : Derives (.expression .value 0 c) ts) :
      Derives (.operand .predicate [.unary .negation [.unary .existence c]])
        (.bang :: .keyword .existsWord spelling :: .openParen :: ts ++ [.closeParen])
  | unknownTest {c : Chain} {ts : List TokenKind} (is unknown : String)
      (h : Derives (.expression .predicate 0 c) ts) :
      Derives (.operand .predicate [.unary .isUnknown c])
        (.openParen :: ts ++ [.closeParen, .keyword .is is, .keyword .unknown unknown])
  | group {role : Role} {c : Chain} {ts : List TokenKind}
      (h : Derives (.expression role 0 c) ts) :
      Derives (.operand role c) (.openParen :: ts ++ [.closeParen])
  | groupChain {role : Role} {c : Chain} {nodes : List Node} {ts us : List TokenKind}
      (h : Derives (.expression role 0 c) ts) (ha : Derives (.accessors nodes) us)
      (hn : nodes ≠ []) :
      Derives (.operand .value (c ++ nodes)) (.openParen :: ts ++ .closeParen :: us)
  | chain {t : TokenKind} {head : Node} {nodes : List Node} {us : List TokenKind}
      (ht : HeadToken t head) (ha : Derives (.accessors nodes) us) :
      Derives (.operand .value (head :: nodes)) (t :: us)
  | noAccessors : Derives (.accessors []) []
  | member {node : Node} {nodes : List Node} {ts us : List TokenKind} (h : Member ts node)
      (ha : Derives (.accessors nodes) us) :
      Derives (.accessors (node :: nodes)) (.dot :: ts ++ us)
  | allElements {nodes : List Node} {us : List TokenKind} (ha : Derives (.accessors nodes) us) :
      Derives (.accessors (.constant .anyArray :: nodes))
        (.openBracket :: .star :: .closeBracket :: us)
  | elements {items : List Chain} {nodes : List Node} {ts us : List TokenKind}
      (h : Derives (.subscripts items) ts) (ha : Derives (.accessors nodes) us) :
      Derives (.accessors (.subscripts items :: nodes)) (.openBracket :: ts ++ .closeBracket :: us)
  | filter {c : Chain} {nodes : List Node} {ts us : List TokenKind}
      (h : Derives (.expression .predicate 0 c) ts) (ha : Derives (.accessors nodes) us) :
      Derives (.accessors (.unary .filter c :: nodes))
        (.question :: .openParen :: ts ++ .closeParen :: us)
  | index {c : Chain} {ts : List TokenKind} (h : Derives (.expression .value 0 c) ts) :
      Derives (.subscript [.subscript c []]) ts
  | range {first last : Chain} {ts us : List TokenKind} (spelling : String)
      (h : Derives (.expression .value 0 first) ts) (h' : Derives (.expression .value 0 last) us) :
      Derives (.subscript [.subscript first last]) (ts ++ .keyword .toWord spelling :: us)
  | lastItem {item : Chain} {ts : List TokenKind} (h : Derives (.subscript item) ts) :
      Derives (.subscripts [item]) ts
  | moreItems {item : Chain} {items : List Chain} {ts us : List TokenKind}
      (h : Derives (.subscript item) ts) (h' : Derives (.subscripts items) us) :
      Derives (.subscripts (item :: items)) (ts ++ .comma :: us)

/-! ## Roles are read off trees -/

/-- The role of a chain. -/
def Role.of (c : Chain) : Role := if c.isPredicate then .predicate else .value

@[simp] theorem Role.of_eq_predicate {c : Chain} :
    Role.of c = .predicate ↔ c.isPredicate = true := by
  unfold Role.of
  split <;> simp_all

@[simp] theorem Role.of_eq_value {c : Chain} : Role.of c = .value ↔ c.isPredicate = false := by
  unfold Role.of
  split <;> simp_all

/-- A chain that goes on with accessors is a value, whatever its head. -/
theorem isPredicate_append {c : Chain} {nodes : List Node} (hc : c ≠ []) (hn : nodes ≠ []) :
    Chain.isPredicate (c ++ nodes) = false := by
  obtain ⟨a, as, rfl⟩ := List.exists_cons_of_ne_nil hc
  obtain ⟨b, bs, rfl⟩ := List.exists_cons_of_ne_nil hn
  cases as <;> rfl

/-- A sign before anything makes a value. -/
theorem isPredicate_of_folded {sign : UnaryOperator} {c whole : Chain} (h : Folded sign c whole) :
    whole ≠ [] ∧ whole.isPredicate = false := by
  cases h <;> exact ⟨by simp, rfl⟩

/-- The tree of the phrase is there, and it has the role that the phrase claims. -/
def Phrase.Typed : Phrase → Prop
  | .expression role _ c => c ≠ [] ∧ Role.of c = role
  | .operand role c => c ≠ [] ∧ Role.of c = role
  | _ => True

/-- **A derived expression has the role of its tree.** -/
theorem Derives.typed {phrase : Phrase} {ts : List TokenKind} (h : Derives phrase ts) :
    phrase.Typed := by
  induction h with
  | alone _ ih => exact ih
  | dyadic ht => cases ht <;> exact ⟨by simp, rfl⟩
  | signed _ _ hc =>
    obtain ⟨hne, hv⟩ := isPredicate_of_folded hc
    exact ⟨hne, Role.of_eq_value.mpr hv⟩
  | group _ ih => exact ih
  | groupChain _ _ hn ih =>
    exact ⟨by simp [ih.1], Role.of_eq_value.mpr (isPredicate_append ih.1 hn)⟩
  | @chain _ head nodes _ ht _ _ =>
    refine ⟨by simp, Role.of_eq_value.mpr ?_⟩
    cases nodes with
    | nil => cases ht <;> rfl
    | cons => rfl
  | startsWith | likeRegex | negation | existence | noExistence | unknownTest =>
    exact ⟨by simp, rfl⟩
  | _ => trivial

/-- The tokens form a path with the mode and the tree. -/
inductive IsPath : Mode → Chain → List TokenKind → Prop
  | bare {role : Role} {root : Chain} {ts : List TokenKind}
      (h : Derives (.expression role 0 root) ts) : IsPath .lax root ts
  | lax {role : Role} {root : Chain} {ts : List TokenKind} (spelling : String)
      (h : Derives (.expression role 0 root) ts) : IsPath .lax root (.keyword .lax spelling :: ts)
  | strict {role : Role} {root : Chain} {ts : List TokenKind} (spelling : String)
      (h : Derives (.expression role 0 root) ts) :
      IsPath .strict root (.keyword .strict spelling :: ts)

end PathExpr
