import PathExpr.Unicode.Property
import PathExpr.Unicode.Script

/-!
# PathExpr/Unicode/Segmentation — where texts divide

Three properties tell how a character takes part in dividing a text into user-perceived characters,
into words and into sentences.  Their values are put together from categories, properties and
scripts, as the standard does it.
-/

namespace PathExpr

/-- What a text is divided into. -/
inductive Segmentation
  | graphemes
  | words
  | sentences

namespace Segmentation

/-- The kind of division whose property has the given name. -/
def named? : String → Option Segmentation
  | "graphemeclusterbreak" => some graphemes
  | "gcb" => some graphemes
  | "wordbreak" => some words
  | "wb" => some words
  | "sentencebreak" => some sentences
  | "sb" => some sentences
  | _ => none

/-- The joiner of two characters. -/
def joiner : CharSet := .range 0x200d 0x200d

/-- Signs that stand before the character they belong to. -/
def prepended : CharSet :=
  CharSet.ofText
    "600-605 6dd 70f 890-891 8e2 d4e 110bd 110cd 111c2-111c3 1193f 11941 11a3a 11a84-11a89 11d46
    11f02"

/-- Spacing marks that never join the character before them. -/
def standingMarks : CharSet :=
  CharSet.ofText
    "102b-102c 1038 1062-1064 1067-106d 1083 1087-108c 108f 109a-109c 1a61 1a63-1a64 aa7b aa7d
    1171e 11720-11721"

/-- Letters of scripts that divide words by a dictionary only. -/
def dictionaryLetters : CharSet :=
  CharSet.ofText
    "e01-e30 e32-e33 e40-e46 e81-e82 e84 e86-e8a e8c-ea3 ea5 ea7-eb0 eb2-eb3 ebd ec0-ec4 ec6
    edc-edf 1000-102a 103f 1050-1055 105a-105d 1061 1065-1066 106e-1070 1075-1081 108e
    1780-17b3 17d7 17dc 1950-196d 1970-1974 1980-19ab 19b0-19c9 1a20-1a54 1aa7 a9e0-a9e4
    a9e6-a9ef a9fa-a9fe aa60-aa76 aa7a aa7e-aaaf aab1 aab5-aab6 aab9-aabd aac0 aac2 aadb-aadd
    11700-1171a 11740-11746"

/-- Signs that are no letters and act as letters within words. -/
def wordSigns : CharSet :=
  CharSet.ofText
    "2c2-2c5 2d2-2d7 2de-2df 2e5-2eb 2ed 2ef-2ff 55a-55c 55e 58a 5f3 a708-a716 a720-a721
    a789-a78a ab5b"

/-- The marks that join the word before them. -/
def wordExtenders : CharSet :=
  (Property.members .graphemeExtend ++ Category.members .mc ++
    Property.members .emojiModifier).diff joiner

/-- The marks that join the sentence before them. -/
def sentenceExtenders : CharSet :=
  Property.members .graphemeExtend ++ Category.members .mc ++ joiner

/-- The Hangul syllables without a final consonant. -/
def openSyllables : CharSet :=
  ⟨(List.range 399).map fun i => (0xac00 + 28 * i, 0xac00 + 28 * i)⟩

/-- The characters of the Katakana script and the signs that go with them. -/
def katakana : CharSet :=
  Script.katakana.members ++ CharSet.ofText "3031-3035 309b-309c 30a0 30fc ff70"

/-- The letters of the Hebrew script. -/
def hebrewLetters : CharSet := Script.hebrew.members.inter (Category.members .lo)

/-- The capitals of sentences; Georgian has none. -/
def sentenceUpper : CharSet :=
  (Property.members .uppercase ++ Category.members .lt).diff (CharSet.ofText "1c90-1cba 1cbd-1cbf")

/-- The small letters of sentences; Georgian has none. -/
def sentenceLower : CharSet :=
  (Property.members .lowercase ++ CharSet.ofText "295").diff
    (Property.members .graphemeExtend ++ CharSet.ofText "10d0-10fa 10fd-10ff")

/-- The values of the property for user-perceived characters. -/
def graphemeValue? : String → Option CharSet
  | "cr" => some (.range 0xd 0xd)
  | "lf" => some (.range 0xa 0xa)
  | "control" =>
    some ((Category.unionOf [.zl, .zp, .cc, .cf] ++
      (Category.members .cn).inter (Property.members .defaultIgnorableCodePoint)).diff
        (Property.members .graphemeExtend ++ prepended ++ CharSet.ofText "a d 200d"))
  | "extend" =>
    some ((Property.members .graphemeExtend ++ Property.members .emojiModifier).diff joiner)
  | "zwj" => some joiner
  | "regionalindicator" => some (Property.members .regionalIndicator)
  | "prepend" => some prepended
  | "spacingmark" =>
    some ((Category.members .mc ++ CharSet.ofText "e33 eb3").diff
      (Property.members .graphemeExtend ++ standingMarks))
  | "l" => some (CharSet.ofText "1100-115f a960-a97c")
  | "v" => some (CharSet.ofText "1160-11a7 d7b0-d7c6 16d63 16d67-16d6a")
  | "t" => some (CharSet.ofText "11a8-11ff d7cb-d7fb")
  | "lv" => some openSyllables
  | "lvt" => some ((CharSet.range 0xac00 0xd7a3).diff openSyllables)
  | _ => none

/-- The values of the property for words. -/
def wordValue? : String → Option CharSet
  | "cr" => some (.range 0xd 0xd)
  | "lf" => some (.range 0xa 0xa)
  | "newline" => some (CharSet.ofText "b-c 85 2028-2029")
  | "extend" => some wordExtenders
  | "zwj" => some joiner
  | "regionalindicator" => some (Property.members .regionalIndicator)
  | "format" =>
    some ((Category.members .cf).diff
      (CharSet.ofText "200b-200d" ++ Property.members .graphemeExtend))
  | "katakana" => some katakana
  | "hebrewletter" => some hebrewLetters
  | "aletter" =>
    some ((Property.members .alphabetic).diff
      (CharSet.unions [Property.members .ideographic, katakana, Script.hiragana.members,
        wordExtenders, hebrewLetters, dictionaryLetters]) ++ wordSigns)
  | "singlequote" => some (.range 0x27 0x27)
  | "doublequote" => some (.range 0x22 0x22)
  | "midletter" => some (CharSet.ofText "3a b7 387 55f 5f4 2027 fe13 fe55 ff1a")
  | "midnum" =>
    some (CharSet.ofText "2c 3b 37e 589 60c-60d 66c 7f8 2044 fe10 fe14 fe50 fe54 ff0c ff1b")
  | "midnumlet" => some (CharSet.ofText "2e 2018-2019 2024 fe52 ff07 ff0e")
  | "numeric" => some (Category.members .nd ++ CharSet.ofText "66b")
  | "extendnumlet" => some (Category.members .pc ++ CharSet.ofText "202f")
  | "wsegspace" => some (CharSet.ofText "20 1680 2000-2006 2008-200a 205f 3000")
  | _ => none

/-- The values of the property for sentences. -/
def sentenceValue? : String → Option CharSet
  | "cr" => some (.range 0xd 0xd)
  | "lf" => some (.range 0xa 0xa)
  | "sep" => some (CharSet.ofText "85 2028-2029")
  | "extend" => some sentenceExtenders
  | "format" => some ((Category.members .cf).diff (sentenceExtenders ++ CharSet.ofText "200c"))
  | "sp" => some ((Property.members .whiteSpace).diff (CharSet.ofText "a d 85 2028-2029"))
  | "lower" => some sentenceLower
  | "upper" => some sentenceUpper
  | "oletter" =>
    some ((Property.members .alphabetic ++ CharSet.ofText "5f3").diff
      (sentenceLower ++ sentenceUpper ++ sentenceExtenders))
  | "numeric" => some (Category.members .nd ++ CharSet.ofText "66b-66c")
  | "aterm" => some (CharSet.ofText "2e 2024 fe52 ff0e")
  | "scontinue" =>
    some (CharSet.ofText
      "2c-2d 3a 3b 37e 55d 60c-60d 7f8 1802 1808 2013-2014 3001 fe10-fe11 fe13-fe14 fe31-fe32
        fe50-fe51 fe54-fe55 fe58 fe63 ff0c-ff0d ff1a-ff1b ff64")
  | "sterm" =>
    some ((Property.members .sentenceTerminal).diff (CharSet.ofText "2e 2024 fe52 ff0e"))
  | "close" =>
    some (Category.unionOf [.ps, .pe, .pi, .pf] ++
      CharSet.ofText "22 27 275b-2760 2e00-2e01 2e06-2e08 2e0b 1f676-1f678")
  | _ => none

/-- The short names of values and the long ones. -/
def shortNames (s : Segmentation) : List (String × String) :=
  match s with
  | .graphemes =>
    [("cn", "control"), ("ex", "extend"), ("pp", "prepend"), ("ri", "regionalindicator"),
     ("sm", "spacingmark")]
  | .words =>
    [("le", "aletter"), ("dq", "doublequote"), ("ex", "extendnumlet"), ("fo", "format"),
     ("hl", "hebrewletter"), ("ka", "katakana"), ("ml", "midletter"), ("mn", "midnum"),
     ("mb", "midnumlet"), ("nl", "newline"), ("nu", "numeric"), ("ri", "regionalindicator"),
     ("sq", "singlequote")]
  | .sentences =>
    [("at", "aterm"), ("cl", "close"), ("ex", "extend"), ("fo", "format"), ("lo", "lower"),
     ("nu", "numeric"), ("le", "oletter"), ("sc", "scontinue"), ("se", "sep"), ("st", "sterm"),
     ("up", "upper")]

/-- The code points for which the property of a division has the named value. -/
def members? (s : Segmentation) (name : String) : Option CharSet :=
  let long := (s.shortNames.lookup name).getD name
  match s with
  | .graphemes => graphemeValue? long
  | .words => wordValue? long
  | .sentences => sentenceValue? long

end Segmentation

end PathExpr
