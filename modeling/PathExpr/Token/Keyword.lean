/-!
# PathExpr/Token/Keyword — the reserved words

Every reserved word can be written in capital or small letters, and `Keyword.word` is its spelling
in small ones.  `Keyword.ofName?` recognizes a word.
-/

namespace PathExpr

/-- A reserved word. -/
inductive Keyword
  | abs
  | bigint
  | boolean
  | ceiling
  | date
  | datetime
  | decimal
  | double
  | existsWord
  | flag
  | floor
  | integer
  | is
  | keyvalue
  | last
  | lax
  | likeRegex
  | number
  | size
  | starts
  | strict
  | string
  | time
  | timeTz
  | timestamp
  | timestampTz
  | toWord
  | type
  | unknown
  | withWord
deriving DecidableEq

namespace Keyword

/-- Every reserved word. -/
def all : List Keyword :=
  [abs, bigint, boolean, ceiling, date, datetime, decimal, double, existsWord, flag, floor, integer,
   is, keyvalue, last, lax, likeRegex, number, size, starts, strict, string, time, timeTz,
   timestamp, timestampTz, toWord, type, unknown, withWord]

/-- The word in small letters. -/
def word : Keyword → String
  | abs => "abs"
  | bigint => "bigint"
  | boolean => "boolean"
  | ceiling => "ceiling"
  | date => "date"
  | datetime => "datetime"
  | decimal => "decimal"
  | double => "double"
  | existsWord => "exists"
  | flag => "flag"
  | floor => "floor"
  | integer => "integer"
  | is => "is"
  | keyvalue => "keyvalue"
  | last => "last"
  | lax => "lax"
  | likeRegex => "like_regex"
  | number => "number"
  | size => "size"
  | starts => "starts"
  | strict => "strict"
  | string => "string"
  | time => "time"
  | timeTz => "time_tz"
  | timestamp => "timestamp"
  | timestampTz => "timestamp_tz"
  | toWord => "to"
  | type => "type"
  | unknown => "unknown"
  | withWord => "with"

/-- The reserved word that a name spells, whatever the case of its ASCII letters. -/
def ofName? (name : List Char) : Option Keyword :=
  all.find? fun k => k.word.toList = name.map Char.toLower

theorem mem_all (k : Keyword) : k ∈ all := by cases k <;> decide

end Keyword

end PathExpr
