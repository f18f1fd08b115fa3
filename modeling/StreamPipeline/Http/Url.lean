import StreamPipeline.Text.Basic

/-! # Locations on a server

An `http` or `https` location in its normal form: dots in the path are resolved and all other
characters that may not stand in a request are written as percent signs and digits.
-/

namespace StreamPipeline.Http

structure Url where
  secure : Bool
  authority : String
  path : String
  query : Option String
  fragment : Option String
deriving Repr, DecidableEq

namespace Url

/-! ### Percent signs -/

def upperHex (n : Nat) : Char := (Nat.digitChar n).toUpper

def percentByte (b : UInt8) : List Char :=
  ['%', upperHex (b.toNat / 16), upperHex (b.toNat % 16)]

def percentChar (c : Char) : List Char := (String.singleton c).toUTF8.toList.flatMap percentByte

def encode (mustEscape : Char → Bool) (cs : List Char) : List Char :=
  cs.flatMap fun c => if mustEscape c then percentChar c else [c]

/-- Control characters, the delete character and everything outside ASCII. -/
def isControl (c : Char) : Bool := c.toNat < 0x20 || 0x7E < c.toNat

def escapedInFragment (c : Char) : Bool :=
  isControl c || c == ' ' || c == '"' || c == '<' || c == '>' || c == '\x60'

def escapedInQuery (c : Char) : Bool :=
  isControl c || c == ' ' || c == '"' || c == '#' || c == '<' || c == '>' || c == '\''

def escapedInPath (c : Char) : Bool :=
  escapedInFragment c || c == '#' || c == '?' || c == '^' || c == '\x7b' || c == '\x7d'

/-! ### Paths -/

/-- The segments of a path; a backslash separates them as a slash does. -/
def segments (cs : List Char) : List (List Char) :=
  Text.splitChars '/' (cs.map fun c => if c == '\\' then '/' else c)

/-- A segment with its escaped dots written as dots. -/
def plainDots : List Char → List Char
  | '%' :: '2' :: x :: rest =>
    if x == 'e' || x == 'E' then '.' :: plainDots rest else '%' :: '2' :: x :: rest
  | c :: rest => c :: plainDots rest
  | [] => []

def isHere (segment : List Char) : Bool := plainDots segment == ['.']

def isUp (segment : List Char) : Bool := plainDots segment == ['.', '.']

/-- Resolves the segments that stand for this level or the one above, newest first. A path that
ends with one of them ends with a slash. -/
def resolve (seen : List (List Char)) : List (List Char) → List (List Char)
  | [] => seen
  | [last] =>
    if isUp last then [] :: seen.drop 1
    else if isHere last then [] :: seen
    else encode escapedInPath last :: seen
  | segment :: rest =>
    if isUp segment then resolve (seen.drop 1) rest
    else if isHere segment then resolve seen rest
    else resolve (encode escapedInPath segment :: seen) rest

/-- The path after the authority, always with a slash in front. -/
def normalPath (cs : List Char) : String :=
  let cs := match cs with
    | [] => []
    | _ :: rest => rest
  String.join ((resolve [] (segments cs)).reverse.map fun s => "/" ++ String.ofList s)

/-! ### Authorities -/

def isForbiddenInHost (c : Char) : Bool :=
  c.toNat ≤ 0x20 || c == '#' || c == '/' || c == '<' || c == '>' || c == '?' || c == '@' || c == '['
    || c == '\\' || c == ']' || c == '^' || c == '|' || c == '%' || c.toNat == 0x7F

/-- The port after the host, which is left out where it is the usual one. -/
def portText (secure : Bool) (digits : List Char) : Option String :=
  if !digits.all Char.isDigit then none
  else if digits.isEmpty then some ""
  else
    let n := Text.digitsValue digits
    if 65535 < n then none
    else if n = (if secure then 443 else 80) then some ""
    else some (":" ++ toString n)

/-- What stands behind the last at sign; credentials are no part of a location. -/
def withoutCredentials (cs : List Char) : List Char :=
  (cs.reverse.takeWhile (· != '@')).reverse

/-- A host in lower case and its port. -/
def normalAuthority (secure : Bool) (cs : List Char) : Option String := do
  let cs := withoutCredentials cs
  let (host, port) := match Text.splitFirstChars ':' cs with
    | some parts => parts
    | none => (cs, [])
  if host.isEmpty || host.any isForbiddenInHost then none
  else
    let port ← portText secure port
    some (String.ofList (host.map Char.toLower) ++ port)

/-! ### Whole locations -/

/-- What stands before the first character of a kind, and the rest from there on. -/
def cut (stop : Char → Bool) (cs : List Char) : List Char × List Char :=
  (cs.takeWhile fun c => !stop c, cs.dropWhile fun c => !stop c)

/-- Control characters and blanks around a location, and line breaks and tabs in it, are no part of
it. -/
def cleaned (s : String) : List Char :=
  let outer (c : Char) : Bool := c.toNat ≤ 0x20
  let cs := ((s.toList.dropWhile outer).reverse.dropWhile outer).reverse
  cs.filter fun c => !(c == '\t' || c == '\n' || c == '\r')

def scheme? (cs : List Char) : Option (Bool × List Char) := do
  let (name, rest) ← Text.splitFirstChars ':' cs
  let name := name.map Char.toLower
  if name == "http".toList then some (false, rest)
  else if name == "https".toList then some (true, rest)
  else none

def parse? (s : String) : Option Url := do
  let (secure, rest) ← scheme? (cleaned s)
  let isSlash (c : Char) : Bool := c == '/' || c == '\\'
  let (authority, rest) :=
    cut (fun c => isSlash c || c == '?' || c == '#') (rest.dropWhile isSlash)
  let authority ← normalAuthority secure authority
  let (before, fragment) := cut (· == '#') rest
  let (path, query) := cut (· == '?') before
  let part (mustEscape : Char → Bool) (cs : List Char) : Option String :=
    match cs with
    | [] => none
    | _ :: text => some (String.ofList (encode mustEscape text))
  some {
    secure := secure
    authority := authority
    path := normalPath path
    query := part escapedInQuery query
    fragment := part escapedInFragment fragment }

/-- What a request line names: the path and the query. -/
def target (u : Url) : String :=
  u.path ++ (match u.query with
    | some q => "?" ++ q
    | none => "")

def text (u : Url) : String :=
  (if u.secure then "https" else "http") ++ "://" ++ u.authority ++ u.target
    ++ (match u.fragment with
      | some f => "#" ++ f
      | none => "")

end Url

end StreamPipeline.Http
