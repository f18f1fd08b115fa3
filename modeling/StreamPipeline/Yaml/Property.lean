import StreamPipeline.Json.Reader
import StreamPipeline.Yaml.Cursor

/-! # Node properties and directives

The texts of anchors, aliases, tags and directives. Reading fails by giving nothing.
-/

namespace StreamPipeline.Yaml

/-! ### Anchors and aliases -/

/-- What may come right after the name of an anchor or an alias. -/
def endsName (cs : List Char) : Bool :=
  match cs with
  | [] => true
  | c :: _ =>
    isBlankOrBreak c || c == '?' || c == ':' || c == ',' || c == ']' || c == '\x7d' || c == '%'
      || c == '@' || c == '\x60'

/-- A name after its mark. -/
def anchorName (c : Cursor) : Option (String × Cursor) :=
  let name := c.rest.takeWhile isNameChar
  let next := c.skipN name.length
  if name.isEmpty || !endsName next.rest then none else some (String.ofList name, next)

/-! ### Tags -/

/-- The characters of a tag, some of them only between angle brackets. -/
def isTagChar (verbatim : Bool) (c : Char) : Bool :=
  isNameChar c || c == ';' || c == '/' || c == '?' || c == ':' || c == '@' || c == '&' || c == '='
    || c == '+' || c == '$' || c == '.' || c == '!' || c == '~' || c == '*' || c == '\'' || c == '('
    || c == ')' || (verbatim && (c == ',' || c == '[' || c == ']'))

/-- A byte written as a percent sign and two hexadecimal digits. -/
def escapedByte : List Char → Option (Nat × List Char)
  | '%' :: a :: b :: rest => do
    let high ← Json.hexValue? a
    let low ← Json.hexValue? b
    some (16 * high + low, rest)
  | _ => none

/-- How many bytes a character has that starts with this one. -/
def sequenceLength? (byte : Nat) : Option Nat :=
  if byte < 0x80 then some 1
  else if 0xC0 ≤ byte ∧ byte < 0xE0 then some 2
  else if 0xE0 ≤ byte ∧ byte < 0xF0 then some 3
  else if 0xF0 ≤ byte ∧ byte < 0xF8 then some 4
  else none

def followingBytes : Nat → Nat → List Char → Option (Nat × List Char)
  | 0, code, cs => some (code, cs)
  | n + 1, code, cs => do
    let (byte, rest) ← escapedByte cs
    if 0x80 ≤ byte ∧ byte < 0xC0 then followingBytes n (64 * code + (byte - 0x80)) rest else none

/-- A character written as its escaped bytes. -/
def escapedTagChar (cs : List Char) : Option (Char × List Char) := do
  let (byte, rest) ← escapedByte cs
  let length ← sequenceLength? byte
  let lead := match length with
    | 1 => byte
    | 2 => byte - 0xC0
    | 3 => byte - 0xE0
    | _ => byte - 0xF0
  let (code, rest) ← followingBytes (length - 1) lead rest
  some (Char.ofNat code, rest)

/-- The longest run of tag characters. -/
def tagChars (verbatim : Bool) : Nat → List Char → Option (List Char × List Char)
  | 0, cs => some ([], cs)
  | fuel + 1, cs =>
    match cs with
    | [] => some ([], [])
    | '%' :: rest => do
      let (c, rest) ← escapedTagChar ('%' :: rest)
      let (more, rest) ← tagChars verbatim fuel rest
      some (c :: more, rest)
    | c :: rest =>
      if isTagChar verbatim c then do
        let (more, rest) ← tagChars verbatim fuel rest
        some (c :: more, rest)
      else some ([], c :: rest)

def tagText (verbatim : Bool) (c : Cursor) : Option (List Char × Cursor) := do
  let (text, rest) ← tagChars verbatim (c.rest.length + 1) c.rest
  some (text, c.skipN (c.rest.length - rest.length))

/-- An exclamation mark and a name, and whether a second mark closes it. -/
def tagHandle (c : Cursor) : Option (List Char × Bool × Cursor) :=
  if !c.looksAt '!' then none
  else
    let name := c.skip.rest.takeWhile isNameChar
    let next := c.skipN (1 + name.length)
    if next.looksAt '!' then some ('!' :: (name ++ ['!']), true, next.skip)
    else some ('!' :: name, false, next)

def verbatimTag (c : Cursor) : Option (Token × Cursor) := do
  let (text, c) ← tagText true c
  if text.isEmpty || !c.looksAt '>' then none else some (.tag "" (String.ofList text), c.skip)

/-- A tag with its handle. A lone mark has an empty handle. -/
def shorthandTag (c : Cursor) : Option (Token × Cursor) := do
  let (handle, closed, c) ← tagHandle c
  let (text, c) ← tagText false c
  if closed then
    if text.isEmpty then none else some (.tag (String.ofList handle) (String.ofList text), c)
  else
    match handle.drop 1 ++ text with
    | [] => some (.tag "" "!", c)
    | suffix => some (.tag "!" (String.ofList suffix), c)

/-- A tag, which a blank or, in a flow collection, a comma must follow. -/
def tag (inFlow : Bool) (c : Cursor) : Option (Token × Cursor) := do
  let (t, next) ← match c.rest with
    | '!' :: '<' :: _ => verbatimTag (c.skipN 2)
    | _ => shorthandTag c
  if next.atWordEnd || (inFlow && next.looksAt ',') then some (t, next) else none

/-! ### Directives -/

/-- A part of a version number, of at most nine digits. -/
def versionNumber (c : Cursor) : Option (Nat × Cursor) :=
  let digits := c.rest.takeWhile Char.isDigit
  if digits.isEmpty || 9 < digits.length then none
  else some (Text.digitsValue digits, c.skipN digits.length)

def versionDirective (c : Cursor) : Option (Token × Cursor) := do
  let (major, c) ← versionNumber (c.skipWhile isBlank)
  if !c.looksAt '.' then none
  else
    let (minor, c) ← versionNumber c.skip
    some (.versionDirective major minor, c)

def tagDirective (c : Cursor) : Option (Token × Cursor) := do
  let (handle, closed, c) ← tagHandle (c.skipWhile isBlank)
  if (!closed && handle.length != 1) || !c.atBlank then none
  else
    let (text, c) ← tagText true (c.skipWhile isBlank)
    if text.isEmpty || !c.atWordEnd then none
    else some (.tagDirective (String.ofList handle) (String.ofList text), c)

/-- A directive from its percent sign to the end of its line. -/
def directive (c : Cursor) : Option (Token × Cursor) := do
  let name := c.skip.rest.takeWhile isNameChar
  let after := c.skip.skipN name.length
  if !after.atWordEnd then none
  else
    let (t, c) ←
      if name == "YAML".toList then versionDirective after
      else if name == "TAG".toList then tagDirective after
      else none
    let c := c.skipWhile isBlank
    let c := if c.looksAt '#' then c.skipWhile (fun x => !isBreak x) else c
    if c.atLineEnd then some (t, c.skipBreak) else none

end StreamPipeline.Yaml
