import StreamPipeline.Decimal.Layout
import StreamPipeline.Json.Value
import StreamPipeline.Text.Basic

/-! # Drafts

A pipeline document as it was written. Every field may be missing, so that validation can report
each one by its name.
-/

namespace StreamPipeline

/-- A scalar where a document may write a text or a number. -/
inductive Scalar where
  | text (s : String)
  | int (n : Int)
  | float (x : Float)
  | bool (b : Bool)

namespace Scalar

def asText : Scalar → String
  | text s => s
  | int n => toString n
  | float x => Decimal.plain.write x
  | bool b => if b then "true" else "false"

/-- An integer of at most 64 bits, also when it is written as a text. -/
def asNat? : Scalar → Option Nat
  | int n => if 0 ≤ n then some n.toNat else none
  | text s => Text.unsignedUpTo? 18446744073709551615 (Text.trimChars s.toList)
  | float _ | bool _ => none

end Scalar

/-- A key as one text with commas, or as a list. -/
inductive KeyColumns where
  | one (s : String)
  | many (columns : List String)
deriving Repr, DecidableEq

namespace KeyColumns

def toList : KeyColumns → List String
  | one s => ((Text.split ',' s).map Text.trim).filter fun c => !c.isEmpty
  | many columns => columns

end KeyColumns

structure DraftLookup where
  cacheRows : Option Scalar := none
  cacheTtl : Option Scalar := none

structure DraftSource where
  name : Option String := none
  tag : Option String := none
  dataset : Option String := none
  filter : Option String := none
  parallelism : Option Scalar := none
  timecol : Option String := none
  size : Option Scalar := none
  slide : Option Scalar := none
  step : Option Scalar := none
  offset : Option Scalar := none
  lookup : Option DraftLookup := none

structure DraftTransform where
  name : Option String := none
  sql : Option String := none
  params : Option (List (String × Json)) := none

structure DraftConnection where
  host : Option String := none
  port : Option Scalar := none
  username : Option Scalar := none
  password : Option Scalar := none

structure DraftSink where
  name : Option String := none
  tag : Option String := none
  input : Option String := none
  database : Option String := none
  schema : Option String := none
  table : Option String := none
  primaryKey : Option KeyColumns := none
  fileName : Option String := none
  topic : Option String := none
  kafkaServers : Option String := none
  truststoreLocation : Option String := none
  truststorePassword : Option Scalar := none
  format : Option String := none
  queryPort : Option Scalar := none
  httpPort : Option Scalar := none
  config : Option DraftConnection := none

structure Draft where
  name : Option String := none
  specVersion : Option Scalar := none
  parallelism : Option Scalar := none
  checkpointDir : Option String := none
  savepointDir : Option String := none
  sources : List DraftSource := []
  transforms : List DraftTransform := []
  sinks : List DraftSink := []

end StreamPipeline
