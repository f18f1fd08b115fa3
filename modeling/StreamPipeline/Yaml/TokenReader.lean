import StreamPipeline.Yaml.Property
import StreamPipeline.Yaml.ScalarText

/-! # Reading YAML tokens

Reads a whole text into its tokens. Indentation opens and closes block collections. Whether a node
is a key shows only at the colon after it, so each flow level keeps the place where a key could have
started, and the colon puts its mark there.
-/

namespace StreamPipeline.Yaml

/-- A node that may turn out to be a key, and the number of tokens before it. -/
structure PendingKey where
  required : Bool
  position : Nat
  line : Nat
  index : Nat
  column : Nat

/-- The state of the reader. `indents` holds the columns of the open block collections, innermost
first, and `keys` one pending key for each flow level and one for the block level. -/
structure TokenReader where
  cursor : Cursor
  tokens : Array Token
  indents : List Nat
  keyAllowed : Bool
  keys : List (Option PendingKey)

namespace TokenReader

def start (cs : List Char) : TokenReader := ⟨.start cs, #[], [], true, [none]⟩

def inFlow (r : TokenReader) : Bool := 1 < r.keys.length

/-- The column of the innermost block collection. -/
def indent (r : TokenReader) : Int :=
  match r.indents with
  | [] => -1
  | n :: _ => n

/-- Puts a token of the text and goes on after it. -/
def pushAt (t : Token) (next : Cursor) (r : TokenReader) : TokenReader :=
  { r with tokens := r.tokens.push t, cursor := next }

def allowKey (allowed : Bool) (r : TokenReader) : TokenReader := { r with keyAllowed := allowed }

/-! ### Pending keys -/

/-- Gives up the pending key of this level. One that must be a key may not be given up. -/
def dropKey (r : TokenReader) : Option TokenReader :=
  match r.keys with
  | some k :: rest => if k.required then none else some { r with keys := none :: rest }
  | _ => some r

/-- Remembers that the next node may be a key. -/
def saveKey (r : TokenReader) : Option TokenReader :=
  if !r.keyAllowed then some r
  else do
    let r ← r.dropKey
    let c := r.cursor
    let key : PendingKey :=
      ⟨!r.inFlow && r.indent == (c.column : Int), r.tokens.size, c.line, c.index, c.column⟩
    some { r with keys := some key :: r.keys.drop 1 }

/-- A key is on one line and at most 1024 characters long. -/
def isStale (c : Cursor) (k : PendingKey) : Bool := k.line < c.line || k.index + 1024 < c.index

def dropStale (c : Cursor) : List (Option PendingKey) → Option (List (Option PendingKey))
  | [] => some []
  | none :: rest => (dropStale c rest).map (none :: ·)
  | some k :: rest =>
    if isStale c k then if k.required then none else (dropStale c rest).map (none :: ·)
    else (dropStale c rest).map (some k :: ·)

def dropStaleKeys (r : TokenReader) : Option TokenReader :=
  (dropStale r.cursor r.keys).map fun keys => { r with keys := keys }

/-! ### Indentation -/

/-- Opens a block collection at a column, unless one is open there already. -/
def openBlock (column : Nat) (position : Nat) (t : Token) (r : TokenReader) : TokenReader :=
  if r.inFlow || (column : Int) ≤ r.indent then r
  else { r with
    indents := column :: r.indents
    tokens := r.tokens.insertIdxIfInBounds position t }

def closeDeeper (column : Int) : List Nat → Array Token → List Nat × Array Token
  | [], tokens => ([], tokens)
  | n :: rest, tokens =>
    if column < (n : Int) then closeDeeper column rest (tokens.push .blockEnd)
    else (n :: rest, tokens)

/-- Closes the block collections that are deeper than a column. -/
def closeBlocks (column : Int) (r : TokenReader) : TokenReader :=
  if r.inFlow then r
  else
    let (indents, tokens) := closeDeeper column r.indents r.tokens
    { r with indents := indents, tokens := tokens }

/-! ### White space -/

/-- A tab separates tokens only where no key may start. -/
def isSeparator (r : TokenReader) (c : Char) : Bool :=
  c == ' ' || (c == '\t' && (r.inFlow || !r.keyAllowed))

/-- Blanks, comments and line breaks up to the next token. -/
def skipSpace : Nat → TokenReader → TokenReader
  | 0, r => r
  | fuel + 1, r =>
    let c := if r.cursor.index == 0 && r.cursor.looksAt '\uFEFF' then r.cursor.skip else r.cursor
    let c := c.skipWhile r.isSeparator
    let c := if c.looksAt '#' then c.skipWhile (fun x => !isBreak x) else c
    if c.atBreak then
      skipSpace fuel { r with cursor := c.skipBreak, keyAllowed := !r.inFlow || r.keyAllowed }
    else { r with cursor := c }

/-! ### Tokens -/

/-- A directive or a mark at the border of a document. -/
def border (r : TokenReader) : Option TokenReader := do
  let r ← (r.closeBlocks (-1)).dropKey
  some (r.allowKey false)

def flowStart (t : Token) (r : TokenReader) : Option TokenReader := do
  let r ← r.saveKey
  some ({ r with keys := none :: r.keys }.pushAt t r.cursor.skip |>.allowKey true)

def flowEnd (t : Token) (r : TokenReader) : Option TokenReader := do
  let r ← r.dropKey
  let keys := if r.inFlow then r.keys.drop 1 else r.keys
  some ({ r with keys := keys }.pushAt t r.cursor.skip |>.allowKey false)

def flowEntry (r : TokenReader) : Option TokenReader := do
  let r ← r.dropKey
  some (r.pushAt .flowEntry r.cursor.skip |>.allowKey true)

/-- Opens a block collection for a mark at the cursor, which must stand where a key may start. -/
def openHere (t : Token) (r : TokenReader) : Option TokenReader :=
  if r.inFlow then some r
  else if !r.keyAllowed then none
  else some (r.openBlock r.cursor.column r.tokens.size t)

def blockEntry (r : TokenReader) : Option TokenReader := do
  let r ← (← r.openHere .blockSequenceStart).dropKey
  some (r.pushAt .blockEntry r.cursor.skip |>.allowKey true)

def keyMark (r : TokenReader) : Option TokenReader := do
  let r ← (← r.openHere .blockMappingStart).dropKey
  some (r.pushAt .key r.cursor.skip |>.allowKey (!r.inFlow))

/-- A colon. It makes the pending node a key, or stands for an empty key. -/
def valueMark (r : TokenReader) : Option TokenReader :=
  match r.keys with
  | some k :: rest =>
    let r := { r with
      tokens := r.tokens.insertIdxIfInBounds k.position .key
      keys := none :: rest }
    let r := r.openBlock k.column k.position .blockMappingStart
    some (r.pushAt .value r.cursor.skip |>.allowKey false)
  | _ => do
    let r ← r.openHere .blockMappingStart
    some (r.pushAt .value r.cursor.skip |>.allowKey (!r.inFlow))

/-- A node that may be a key and is read by `read`. -/
def property (read : Cursor → Option (Token × Cursor)) (r : TokenReader) : Option TokenReader := do
  let r ← r.saveKey
  let (t, next) ← read r.cursor
  some (r.pushAt t next |>.allowKey false)

def blockScalar (literal : Bool) (r : TokenReader) : Option TokenReader := do
  let r ← r.dropKey
  let (text, next) ← blockText literal r.indent r.cursor.skip
  some (r.pushAt (.scalar .block text) next |>.allowKey true)

def quotedScalar (single : Bool) (r : TokenReader) : Option TokenReader :=
  r.property fun c => do
    let (text, next) ← quotedText single (c.rest.length + 1) [] c.skip
    some (.scalar .quoted text, next)

/-- After a plain scalar that ends with a line break a key may start. -/
def plainScalar (r : TokenReader) : Option TokenReader := do
  let r ← r.saveKey
  let c := r.cursor
  let (text, broken, next) ←
    plainText r.inFlow (r.indent + 1).toNat (c.rest.length + 1) [] .none c
  some (r.pushAt (.scalar .plain text) next |>.allowKey broken)

def isIndicator (c : Char) : Bool :=
  "-?:,[]\x7b\x7d#&*!|>'\"%@\x60".toList.contains c

/-- Whether a plain scalar may start here. -/
def startsPlain (inFlow : Bool) (c : Char) (rest : List Char) : Bool :=
  !(isBlankOrBreak c || isIndicator c)
    || (c == '-' && !(match rest with
      | x :: _ => isBlank x
      | [] => false))
    || (!inFlow && (c == '?' || c == ':') && !endsWord rest)

/-- Reads the token at a character. -/
def dispatch (r : TokenReader) (c : Char) (rest : List Char) : Option TokenReader :=
  let ends := endsWord rest
  let name (make : String → Token) : Option TokenReader :=
    r.property fun cur => (anchorName cur.skip).map fun p => (make p.1, p.2)
  if r.cursor.column == 0 && c == '%' then do
    let r ← r.border
    let (t, next) ← directive r.cursor
    some (r.pushAt t next)
  else if r.cursor.atMark '-' then
    r.border.map fun r => r.pushAt .documentStart (r.cursor.skipN 3)
  else if r.cursor.atMark '.' then
    r.border.map fun r => r.pushAt .documentEnd (r.cursor.skipN 3)
  else if c == '[' then r.flowStart .flowSequenceStart
  else if c == '\x7b' then r.flowStart .flowMappingStart
  else if c == ']' then r.flowEnd .flowSequenceEnd
  else if c == '\x7d' then r.flowEnd .flowMappingEnd
  else if c == ',' then r.flowEntry
  else if c == '-' && ends then r.blockEntry
  else if c == '?' && (r.inFlow || ends) then r.keyMark
  else if c == ':' && (r.inFlow || ends) then r.valueMark
  else if c == '*' then name .reference
  else if c == '&' then name .anchor
  else if c == '!' then r.property (tag r.inFlow)
  else if c == '|' && !r.inFlow then r.blockScalar true
  else if c == '>' && !r.inFlow then r.blockScalar false
  else if c == '\'' then r.quotedScalar true
  else if c == '"' then r.quotedScalar false
  else if startsPlain r.inFlow c rest then r.plainScalar
  else none

/-- All tokens up to the end of the text. Every token takes at least one character. -/
def readAll : Nat → TokenReader → Option (List Token)
  | 0, _ => none
  | fuel + 1, r => do
    let r ← (r.skipSpace (r.cursor.rest.length + 1)).dropStaleKeys
    let r := r.closeBlocks r.cursor.column
    match r.cursor.rest with
    | [] => do
      let r ← (r.closeBlocks (-1)).dropKey
      some r.tokens.toList
    | c :: rest => do
      let r ← r.dispatch c rest
      readAll fuel r

end TokenReader

/-- The tokens of a text; a byte order mark at its start is not part of it. -/
def Token.ofText? (s : String) : Option (List Token) :=
  let cs := match s.toList with
    | '\uFEFF' :: rest => rest
    | cs => cs
  if cs.all isAllowed then TokenReader.readAll (cs.length + 2) (.start cs) else none

end StreamPipeline.Yaml
