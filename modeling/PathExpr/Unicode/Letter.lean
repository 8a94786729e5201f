import PathExpr.Unicode.Property

/-!
# PathExpr/Unicode/Letter — the character classes of path texts and messages

Names are made of letters, digits and underscores of any script; messages show a character as it is
only where it can be seen by itself.  Every class answers for ASCII by comparison and for the rest
by its table, so that facts about ASCII characters never open a table.
-/

namespace PathExpr

/-- The letters outside ASCII, and the signs that act as letters. -/
def foreignLetters : CharSet := (Property.members .alphabetic).normalize

/-- The digits and number signs outside ASCII. -/
def foreignNumbers : CharSet := (Category.unionOf [.nd, .nl, .no]).normalize

/-- The characters outside ASCII that a message never shows as they are: those without a shape of
their own, and those that join the character before them. -/
def foreignHidden : CharSet :=
  (Category.unionOf [.cc, .cf, .cs, .co, .cn, .zl, .zp, .zs] ++
    Property.members .graphemeExtend).normalize

/-- The blanks outside ASCII. -/
def foreignBlanks : CharSet := Property.members .whiteSpace

/-- Whether `c` is an ASCII character. -/
def isAscii (c : Char) : Bool := c.toNat < 0x80

/-- Whether `c` is a letter, or a sign that acts as one. -/
def isLetter (c : Char) : Bool := if isAscii c then c.isAlpha else foreignLetters.contains c

/-- Whether `c` is a letter, a digit or another sign for a number. -/
def isAlphanumeric (c : Char) : Bool :=
  if isAscii c then c.isAlphanum else foreignLetters.contains c || foreignNumbers.contains c

/-- Whether a message writes `c` by its code. -/
def isHidden (c : Char) : Bool :=
  if isAscii c then c.toNat < 0x20 || c.toNat = 0x7f else foreignHidden.contains c

/-- Whether `c` is a blank in any script. -/
def isBlankSpace (c : Char) : Bool :=
  if isAscii c then c = ' ' || (0x09 ≤ c.toNat && c.toNat ≤ 0x0d) else foreignBlanks.contains c

theorem isAlphanumeric_of_isLetter {c : Char} (h : isLetter c = true) :
    isAlphanumeric c = true := by
  unfold isLetter at h
  unfold isAlphanumeric
  split at h
  · simp_all [Char.isAlphanum]
  · simp_all

end PathExpr
