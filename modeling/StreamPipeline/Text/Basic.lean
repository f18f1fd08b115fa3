import StreamPipeline.Text.Blank

/-! # Splitting, joining and searching

The operations on texts that the rest of the library needs, as recursions over their characters.
-/

namespace StreamPipeline.Text

/-- The pieces between the separators, at least one. -/
def splitChars (sep : Char) : List Char → List (List Char)
  | [] => [[]]
  | c :: rest =>
    if c = sep then [] :: splitChars sep rest
    else match splitChars sep rest with
      | [] => [[c]]
      | piece :: pieces => (c :: piece) :: pieces

def split (sep : Char) (s : String) : List String :=
  (splitChars sep s.toList).map String.ofList

/-- What stands before and after the first separator. -/
def splitFirstChars (sep : Char) : List Char → Option (List Char × List Char)
  | [] => none
  | c :: rest =>
    if c = sep then some ([], rest)
    else (splitFirstChars sep rest).map fun p => (c :: p.1, p.2)

def join (sep : String) : List String → String
  | [] => ""
  | [piece] => piece
  | piece :: next :: rest => piece ++ sep ++ join sep (next :: rest)

/-- What follows `start`, if the text begins with it. -/
def afterChars? : List Char → List Char → Option (List Char)
  | [], cs => some cs
  | _ :: _, [] => none
  | s :: start, c :: cs => if s = c then afterChars? start cs else none

def after? (start s : String) : Option String :=
  (afterChars? start.toList s.toList).map String.ofList

def startsWith (start s : String) : Bool := (afterChars? start.toList s.toList).isSome

def occursChars (needle : List Char) : List Char → Bool
  | [] => needle.isEmpty
  | c :: rest => (afterChars? needle (c :: rest)).isSome || occursChars needle rest

/-- Whether `needle` occurs somewhere in `s`; the empty text occurs everywhere. -/
def occursIn (needle s : String) : Bool := occursChars needle.toList s.toList

/-- Each `c` replaced by the given characters. -/
def replaceChar (c : Char) (written : List Char) (cs : List Char) : List Char :=
  cs.flatMap fun x => if x = c then written else [x]

/-- Each `c` written twice. -/
def doubling (c : Char) (cs : List Char) : List Char := replaceChar c [c, c] cs

def trimEndOf (c : Char) (s : String) : String :=
  String.ofList (s.toList.reverse.dropWhile (· == c)).reverse

def upperAscii (s : String) : String := String.ofList (s.toList.map Char.toUpper)

def lowerAscii (s : String) : String := String.ofList (s.toList.map Char.toLower)

/-- Equality up to the case of ASCII letters. -/
def eqIgnoreCase (a b : String) : Bool := lowerAscii a == lowerAscii b

/-- The value of a run of ASCII digits. -/
def digitsValue (cs : List Char) : Nat := cs.foldl (fun n c => 10 * n + (c.toNat - 48)) 0

/-- The value of a run of ASCII digits, cut off at `limit`. -/
def digitsValueUpTo (limit : Nat) (cs : List Char) : Nat :=
  cs.foldl (fun n c => min limit (10 * n + (c.toNat - 48))) 0

/-- An unsigned number of at most `limit`: an optional plus sign and at least one ASCII digit. -/
def unsignedUpTo? (limit : Nat) (cs : List Char) : Option Nat :=
  let body := match cs with
    | '+' :: rest => rest
    | cs => cs
  if body.isEmpty || !body.all Char.isDigit then none
  else
    let n := digitsValue body
    if n ≤ limit then some n else none

def padRight (width : Nat) (s : String) : String :=
  s ++ String.ofList (List.replicate (width - s.length) ' ')

end StreamPipeline.Text
