import StreamPipeline.Text.Basic
import StreamPipeline.Text.WordChar

/-! # Interval shorthand

Durations such as `10min` become interval literals; every other text is passed on trimmed.
-/

namespace StreamPipeline.Sql

inductive IntervalUnit where
  | second
  | minute
  | hour
  | day
deriving Repr, DecidableEq

namespace IntervalUnit

def name : IntervalUnit → String
  | second => "SECOND"
  | minute => "MINUTE"
  | hour => "HOUR"
  | day => "DAY"

/-- The spellings of a unit, in lower case. -/
def spellings : IntervalUnit → List String
  | second => ["s", "sec", "secs", "second", "seconds"]
  | minute => ["m", "min", "mins", "minute", "minutes"]
  | hour => ["h", "hr", "hour", "hours"]
  | day => ["d", "day", "days"]

def allSpellings : List String :=
  second.spellings ++ minute.spellings ++ hour.spellings ++ day.spellings

/-- The simple case folding of the letters that spell a unit; the long s folds to s. -/
def fold (c : Char) : Char := if c.toNat = 0x17F then 's' else c.toLower

/-- Spellings are recognised up to case folding. -/
def isSpelling (cs : List Char) : Bool := allSpellings.contains (String.ofList (cs.map fold))

/-- The unit is chosen by the ASCII lower case alone; what that does not name is a day. -/
def ofSpelling (cs : List Char) : IntervalUnit :=
  let lower := String.ofList (cs.map Char.toLower)
  if second.spellings.contains lower then second
  else if minute.spellings.contains lower then minute
  else if hour.spellings.contains lower then hour
  else day

end IntervalUnit

/-- Digits and a unit, with blanks around and between them. -/
def shorthand? (value : String) : Option (List Char × List Char) :=
  let cs := Text.trimStartChars value.toList
  let digits := cs.takeWhile Text.isDigit
  let unit := Text.trimChars (cs.dropWhile Text.isDigit)
  if !digits.isEmpty && IntervalUnit.isSpelling unit then some (digits, unit) else none

def intervalExpr (value : String) : String :=
  match shorthand? value with
  | none => Text.trim value
  | some (digits, unit) =>
    "INTERVAL '" ++ String.ofList digits ++ "' " ++ (IntervalUnit.ofSpelling unit).name

end StreamPipeline.Sql
