import StreamPipeline.Json.Reader
import StreamPipeline.Yaml.Cursor

/-! # The text of YAML scalars

The folding of lines in quoted and plain scalars, the escapes of double quotes, and the chomping and
indentation of block scalars. Reading fails by giving nothing.
-/

namespace StreamPipeline.Yaml

/-- The white space between two words of a scalar: blanks of one line, or line breaks. -/
structure Fold where
  blanks : List Char
  first : List Char
  more : List Char
  broken : Bool

namespace Fold

def none : Fold := ⟨[], [], [], false⟩

/-- One line break becomes a space, and of several the first is dropped. -/
def text (f : Fold) : List Char :=
  if f.broken then
    if f.first == ['\n'] then if f.more.isEmpty then [' '] else f.more
    else f.first ++ f.more
  else f.blanks

def addBlank (c : Char) (f : Fold) : Fold :=
  if f.broken then f else { f with blanks := f.blanks ++ [c] }

def addBreak (b : List Char) (f : Fold) : Fold :=
  if f.broken then { f with more := f.more ++ b }
  else { f with blanks := [], first := b, broken := true }

end Fold

/-- Blanks and breaks between two words. -/
def foldSpace : Nat → Fold → Cursor → Fold × Cursor
  | 0, f, c => (f, c)
  | fuel + 1, f, c =>
    match c.rest with
    | [] => (f, c)
    | x :: _ =>
      if isBlank x then foldSpace fuel (f.addBlank x) c.skip
      else if isBreak x then
        let (b, next) := c.takeBreak
        foldSpace fuel (f.addBreak b) next
      else (f, c)

/-! ### Quoted scalars -/

def simpleEscape? (c : Char) : Option Char :=
  match c with
  | '0' => some (Char.ofNat 0)
  | 'a' => some (Char.ofNat 7)
  | 'b' => some (Char.ofNat 8)
  | 't' => some '\t'
  | '\t' => some '\t'
  | 'n' => some '\n'
  | 'v' => some (Char.ofNat 11)
  | 'f' => some (Char.ofNat 12)
  | 'r' => some '\r'
  | 'e' => some (Char.ofNat 27)
  | ' ' => some ' '
  | '"' => some '"'
  | '/' => some '/'
  | '\\' => some '\\'
  | 'N' => some (Char.ofNat 0x85)
  | '_' => some (Char.ofNat 0xA0)
  | 'L' => some (Char.ofNat 0x2028)
  | 'P' => some (Char.ofNat 0x2029)
  | _ => none

def escapeWidth? (c : Char) : Option Nat :=
  match c with
  | 'x' => some 2
  | 'u' => some 4
  | 'U' => some 8
  | _ => none

/-- The character with that number, unless it is a surrogate or out of range. -/
def charOfCode? (n : Nat) : Option Char :=
  if (0xD800 ≤ n ∧ n ≤ 0xDFFF) ∨ 0x10FFFF < n then none else some (Char.ofNat n)

def hexNumber? (digits : List Char) : Option Nat :=
  digits.foldlM (fun n d => (Json.hexValue? d).map fun v => 16 * n + v) 0

/-- An escape, after its backslash. -/
def escape? (c : Cursor) : Option (Char × Cursor) :=
  match c.rest with
  | [] => none
  | x :: rest =>
    match simpleEscape? x with
    | some y => some (y, c.skip)
    | none => do
      let width ← escapeWidth? x
      let digits := rest.take width
      if digits.length < width then none
      else
        let n ← hexNumber? digits
        let y ← charOfCode? n
        some (y, c.skipN (1 + width))

/-- The characters of one word of a quoted scalar, newest first. An escaped line break ends the word
and counts as a broken line. -/
def quotedWord (single : Bool) : Nat → List Char → Cursor → Option (List Char × Bool × Cursor)
  | 0, _, _ => none
  | fuel + 1, seen, c =>
    match c.rest with
    | [] => some (seen, false, c)
    | x :: rest =>
      if isBlankOrBreak x then some (seen, false, c)
      else if single then
        if x == '\'' then
          if rest.head? == some '\'' then quotedWord single fuel ('\'' :: seen) (c.skipN 2)
          else some (seen, false, c)
        else quotedWord single fuel (x :: seen) c.skip
      else if x == '"' then some (seen, false, c)
      else if x == '\\' then
        if c.skip.atBreak then some (seen, true, c.skip.skipBreak)
        else do
          let (y, next) ← escape? c.skip
          quotedWord single fuel (y :: seen) next
      else quotedWord single fuel (x :: seen) c.skip

/-- The rest of a quoted scalar after its opening quote. -/
def quotedText (single : Bool) : Nat → List Char → Cursor → Option (String × Cursor)
  | 0, _, _ => none
  | fuel + 1, seen, c =>
    if c.atDocumentMark || c.atEnd then none
    else do
      let (seen, broken, c) ← quotedWord single (c.rest.length + 1) seen c
      if c.looksAt (if single then '\'' else '"') then
        some (String.ofList seen.reverse, c.skip)
      else
        let (f, c) := foldSpace (c.rest.length + 1) { Fold.none with broken := broken } c
        quotedText single fuel (f.text.reverse ++ seen) c

/-! ### Plain scalars -/

def isFlowMark (c : Char) : Bool :=
  c == ',' || c == '[' || c == ']' || c == '\x7b' || c == '\x7d'

/-- A colon that ends a plain scalar, or any flow mark inside a flow collection. -/
def endsPlain (inFlow : Bool) (x : Char) (rest : List Char) : Bool :=
  (x == ':' && endsWord rest) || (inFlow && isFlowMark x)

/-- A colon before a flow mark, which a flow collection does not allow. -/
def badColon (inFlow : Bool) (x : Char) (rest : List Char) : Bool :=
  inFlow && x == ':' && (match rest with
    | y :: _ => isFlowMark y || y == '?'
    | [] => false)

/-- The characters of one word of a plain scalar, newest first. -/
def plainWord (inFlow : Bool) : Nat → List Char → Cursor → Option (List Char × Cursor)
  | 0, _, _ => none
  | fuel + 1, seen, c =>
    match c.rest with
    | [] => some (seen, c)
    | x :: rest =>
      if isBlankOrBreak x then some (seen, c)
      else if badColon inFlow x rest then none
      else if endsPlain inFlow x rest then some (seen, c)
      else plainWord inFlow fuel (x :: seen) c.skip

/-- Blanks and breaks between two words of a plain scalar. A tab may not stand for indentation. -/
def plainSpace (indent : Nat) : Nat → Fold → Cursor → Option (Fold × Cursor)
  | 0, _, _ => none
  | fuel + 1, f, c =>
    match c.rest with
    | [] => some (f, c)
    | x :: _ =>
      if isBlank x then
        if f.broken && c.column < indent && x == '\t' then none
        else plainSpace indent fuel (f.addBlank x) c.skip
      else if isBreak x then
        let (b, next) := c.takeBreak
        plainSpace indent fuel (f.addBreak b) next
      else some (f, c)

/-- The rest of a plain scalar: its text, whether it ended after a line break, and the cursor. White
space is written only when another word follows it. -/
def plainText (inFlow : Bool) (indent : Nat) :
    Nat → List Char → Fold → Cursor → Option (String × Bool × Cursor)
  | 0, _, _, _ => none
  | fuel + 1, seen, f, c =>
    let done : Option (String × Bool × Cursor) :=
      some (String.ofList seen.reverse, f.broken, c)
    if c.atDocumentMark || c.looksAt '#' then done
    else do
      let (word, next) ← plainWord inFlow (c.rest.length + 1) [] c
      let (seen, f) := if word.isEmpty then (seen, f) else (word ++ (f.text.reverse ++ seen), Fold.none)
      if !(next.atBlank || next.atBreak) then
        some (String.ofList seen.reverse, f.broken, next)
      else
        let (f, c) ← plainSpace indent (next.rest.length + 1) f next
        if !inFlow && c.column < indent then some (String.ofList seen.reverse, f.broken, c)
        else plainText inFlow indent fuel seen f c

/-! ### Block scalars -/

/-- What is kept of the line breaks at the end of a block scalar. -/
inductive Chomping where
  | strip
  | clip
  | keep
deriving Repr, DecidableEq

def chomping? (c : Cursor) : Option (Chomping × Cursor) :=
  match c.rest with
  | '+' :: _ => some (.keep, c.skip)
  | '-' :: _ => some (.strip, c.skip)
  | _ => none

/-- An explicit indentation from one to nine. -/
def increment? (c : Cursor) : Option (Option (Nat × Cursor)) :=
  match c.rest with
  | x :: _ =>
    if x == '0' then none
    else if x.isDigit then some (some (x.toNat - 48, c.skip))
    else some none
  | [] => some none

/-- The marks after the indicator of a block scalar, in either order. -/
def blockHeader (c : Cursor) : Option (Chomping × Nat × Cursor) := do
  match chomping? c with
  | some (chomping, c) =>
    match ← increment? c with
    | some (n, c) => some (chomping, n, c)
    | none => some (chomping, 0, c)
  | none =>
    match ← increment? c with
    | some (n, c) =>
      match chomping? c with
      | some (chomping, c) => some (chomping, n, c)
      | none => some (.clip, n, c)
    | none => some (.clip, 0, c)

/-- Empty lines before the next line of a block scalar. While the indentation is not known, the
deepest line of them counts. -/
def blockBreaks (indent : Nat) : Nat → Nat → List Char → Cursor →
    Option (Nat × List Char × Cursor)
  | 0, _, _, _ => none
  | fuel + 1, deepest, breaks, c =>
    let spaces := (c.rest.takeWhile (· == ' ')).length
    let c := if indent == 0 then c.skipN spaces else c.skipN (min spaces (indent - c.column))
    let deepest := max deepest c.column
    if (indent == 0 || c.column < indent) && c.looksAt '\t' then none
    else if c.atBreak then
      let (b, next) := c.takeBreak
      blockBreaks indent fuel deepest (breaks ++ b) next
    else some (deepest, breaks, c)

/-- The lines of a block scalar. `last` is the break after the previous line, `breaks` the empty
lines after it, and `blankBefore` tells whether that line started with a blank. -/
def blockLines (literal : Bool) (indent : Nat) :
    Nat → List Char → List Char → List Char → Bool → Cursor →
    Option (List Char × List Char × List Char × Cursor)
  | 0, _, _, _, _, _ => none
  | fuel + 1, seen, last, breaks, blankBefore, c =>
    if c.column == indent && !c.atEnd then
      let blankNow := c.atBlank
      let joint :=
        if !literal && last == ['\n'] && !blankBefore && !blankNow then
          if breaks.isEmpty then [' '] else breaks
        else last ++ breaks
      let line := c.rest.takeWhile fun x => !isBreak x
      let (b, next) := (c.skipN line.length).takeBreak
      match blockBreaks indent (next.rest.length + 1) 0 [] next with
      | none => none
      | some (_, breaks, next) =>
        blockLines literal indent fuel (line.reverse ++ (joint.reverse ++ seen)) b breaks blankNow
          next
    else some (seen, last, breaks, c)

/-- A block scalar after its indicator, inside a collection indented by `parent`. -/
def blockText (literal : Bool) (parent : Int) (c : Cursor) : Option (String × Cursor) := do
  let (chomping, increment, c) ← blockHeader c
  let c := c.skipWhile isBlank
  let c := if c.looksAt '#' then c.skipWhile (fun x => !isBreak x) else c
  if !c.atLineEnd then none
  else
    let c := c.skipBreak
    let given : Nat :=
      if increment == 0 then 0 else if 0 ≤ parent then parent.toNat + increment else increment
    let (deepest, breaks, c) ← blockBreaks given (c.rest.length + 1) 0 [] c
    let indent := if given == 0 then max (max deepest (parent + 1).toNat) 1 else given
    let (seen, last, breaks, c) ←
      blockLines literal indent (c.rest.length + 1) [] [] breaks false c
    let tail := match chomping with
      | .strip => []
      | .clip => last
      | .keep => last ++ breaks
    some (String.ofList (seen.reverse ++ tail), c)

end StreamPipeline.Yaml
