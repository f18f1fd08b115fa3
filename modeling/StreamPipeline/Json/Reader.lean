import StreamPipeline.Decimal.Reader
import StreamPipeline.Json.Value
import StreamPipeline.Text.Basic

/-! # Reading JSON

A strict reader. Integers that fit 64 bits stay exact and every other number becomes a double; a
number beyond the doubles, a lone surrogate or more than 127 open brackets make the text unreadable.
-/

namespace StreamPipeline.Json

def isSpace (c : Char) : Bool := c == ' ' || c == '\n' || c == '\t' || c == '\r'

def skipSpace (cs : List Char) : List Char := cs.dropWhile isSpace

def hexValue? (c : Char) : Option Nat :=
  if '0' ≤ c ∧ c ≤ '9' then some (c.toNat - 48)
  else if 'a' ≤ c ∧ c ≤ 'f' then some (c.toNat - 87)
  else if 'A' ≤ c ∧ c ≤ 'F' then some (c.toNat - 55)
  else none

def hexUnit? : List Char → Option (Nat × List Char)
  | a :: b :: c :: d :: rest => do
    let a ← hexValue? a
    let b ← hexValue? b
    let c ← hexValue? c
    let d ← hexValue? d
    some (((a * 16 + b) * 16 + c) * 16 + d, rest)
  | _ => none

/-- The character after `\u`: one unit, or two that form a surrogate pair. -/
def hexChar? (cs : List Char) : Option (Char × List Char) := do
  let (unit, rest) ← hexUnit? cs
  if 0xD800 ≤ unit ∧ unit ≤ 0xDBFF then
    match rest with
    | '\\' :: 'u' :: rest =>
      let (low, rest) ← hexUnit? rest
      if 0xDC00 ≤ low ∧ low ≤ 0xDFFF then
        some (Char.ofNat (0x10000 + (unit - 0xD800) * 0x400 + (low - 0xDC00)), rest)
      else none
    | _ => none
  else if 0xDC00 ≤ unit ∧ unit ≤ 0xDFFF then none
  else some (Char.ofNat unit, rest)

def shortEscape? (c : Char) : Option Char :=
  match c with
  | '"' => some '"'
  | '\\' => some '\\'
  | '/' => some '/'
  | 'b' => some (Char.ofNat 8)
  | 'f' => some (Char.ofNat 12)
  | 'n' => some '\n'
  | 'r' => some '\r'
  | 't' => some '\t'
  | _ => none

/-- The rest of a string after its opening quote. -/
def readString (seen : List Char) : Nat → List Char → Option (String × List Char)
  | 0, _ => none
  | _ + 1, [] => none
  | fuel + 1, c :: rest =>
    if c = '"' then some (String.ofList seen.reverse, rest)
    else if c = '\\' then
      match rest with
      | [] => none
      | 'u' :: rest => do
        let (x, rest) ← hexChar? rest
        readString (x :: seen) fuel rest
      | e :: rest => do
        let x ← shortEscape? e
        readString (x :: seen) fuel rest
    else if c.toNat < 32 then none
    else readString (c :: seen) fuel rest

/-- Digits that fit 64 bits, and how many more there were. -/
def significand (ds : List Char) : Nat × Nat :=
  ds.foldl (fun (m, dropped) c =>
    if dropped = 0 ∧ m * 10 + (c.toNat - 48) < wordLimit then (m * 10 + (c.toNat - 48), 0)
    else (m, dropped + 1)) (0, 0)

def exponentOf (negative : Bool) (ds : List Char) : Int :=
  let n := Text.digitsValueUpTo 100000 ds
  if negative then -n else n

def readExponent : List Char → Option (Int × List Char)
  | [] => some (0, [])
  | c :: rest =>
    if c = 'e' ∨ c = 'E' then
      let (negative, rest) := match rest with
        | '-' :: rest => (true, rest)
        | '+' :: rest => (false, rest)
        | rest => (false, rest)
      let ds := rest.takeWhile Char.isDigit
      if ds.isEmpty then none else some (exponentOf negative ds, rest.dropWhile Char.isDigit)
    else some (0, c :: rest)

def readFraction : List Char → Option (List Char × List Char)
  | '.' :: rest =>
    let ds := rest.takeWhile Char.isDigit
    if ds.isEmpty then none else some (ds, rest.dropWhile Char.isDigit)
  | rest => some ([], rest)

def wholePart : List Char → Option (List Char × List Char)
  | '0' :: rest =>
    match rest with
    | c :: _ => if c.isDigit then none else some (['0'], rest)
    | [] => some (['0'], [])
  | cs =>
    let ds := cs.takeWhile Char.isDigit
    if ds.isEmpty then none else some (ds, cs.dropWhile Char.isDigit)

def withSign (negative : Bool) (x : Float) : Float := if negative then -x else x

def readNumber (negative : Bool) (cs : List Char) : Option (Json × List Char) := do
  let (whole, rest) ← wholePart cs
  let (fraction, rest) ← readFraction rest
  let plain := fraction.isEmpty && (match rest with
    | c :: _ => c != 'e' && c != 'E'
    | [] => true)
  let (e, rest) ← readExponent rest
  let n := Text.digitsValue whole
  if plain && !negative && n < wordLimit then some (.int n, rest)
  else if plain && negative && 0 < n && n ≤ signedLimit then some (.int (-n), rest)
  else
    let (m, dropped) := significand (whole ++ fraction)
    let x ← Decimal.scaled? m (e + dropped - fraction.length)
    some (.float (withSign negative x), rest)

def expect (word : List Char) (value : Json) (cs : List Char) : Option (Json × List Char) :=
  (Text.afterChars? word cs).map fun rest => (value, rest)

mutual

/-- One value; `fuel` bounds the characters and `depth` the open brackets. -/
def readValue : Nat → Nat → List Char → Option (Json × List Char)
  | 0, _, _ => none
  | fuel + 1, depth, cs =>
    match skipSpace cs with
    | [] => none
    | c :: rest =>
      if c = '"' then (readString [] (rest.length + 1) rest).map fun (s, r) => (.string s, r)
      else if c = '[' then
        match depth with
        | 0 => none
        | depth + 1 => (readItems fuel depth true rest).map fun (vs, r) => (.array vs, r)
      else if c = '\x7b' then
        match depth with
        | 0 => none
        | depth + 1 => (readFields fuel depth true rest).map fun (fs, r) => (.object fs, r)
      else if c = 'n' then expect ['u', 'l', 'l'] .null rest
      else if c = 't' then expect ['r', 'u', 'e'] (.bool true) rest
      else if c = 'f' then expect ['a', 'l', 's', 'e'] (.bool false) rest
      else if c = '-' then readNumber true rest
      else readNumber false (c :: rest)

def readItems : Nat → Nat → Bool → List Char → Option (List Json × List Char)
  | 0, _, _, _ => none
  | fuel + 1, depth, first, cs =>
    match skipSpace cs with
    | [] => none
    | c :: rest =>
      if c = ']' ∧ first then some ([], rest)
      else do
        let (v, rest) ← readValue fuel depth (c :: rest)
        match skipSpace rest with
        | ']' :: rest => some ([v], rest)
        | ',' :: rest =>
          let (vs, rest) ← readItems fuel depth false rest
          some (v :: vs, rest)
        | _ => none

def readFields : Nat → Nat → Bool → List Char → Option (List (String × Json) × List Char)
  | 0, _, _, _ => none
  | fuel + 1, depth, first, cs =>
    match skipSpace cs with
    | [] => none
    | c :: rest =>
      if c = '\x7d' ∧ first then some ([], rest)
      else if c = '"' then do
        let (k, rest) ← readString [] (rest.length + 1) rest
        match skipSpace rest with
        | ':' :: rest =>
          let (v, rest) ← readValue fuel depth rest
          match skipSpace rest with
          | [] => none
          | c :: rest =>
            if c = '\x7d' then some ([(k, v)], rest)
            else if c = ',' then
              let (fs, rest) ← readFields fuel depth false rest
              some ((k, v) :: fs, rest)
            else none
        | _ => none
      else none

end

/-- The most brackets that may be open at once. -/
def maxDepth : Nat := 127

/-- The value of a whole text. -/
def read? (s : String) : Option Json := do
  let cs := s.toList
  let (v, rest) ← readValue (2 * cs.length + 2) maxDepth cs
  if (skipSpace rest).isEmpty then some v else none

end StreamPipeline.Json
