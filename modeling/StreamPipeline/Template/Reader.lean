import StreamPipeline.Template.Tag

/-! # Reading templates

The tags of a text are put together into nested elements. A tag that stands alone on a line takes
the line with it, and a tilde takes all blanks up to the next text.
-/

namespace StreamPipeline.Template

/-- What encloses the elements that are being collected. -/
inductive Enclosing where
  | block (finished : List (Head × List Element)) (closing : String) (current : Option Head)
  | raw (head : Head)
  | decorator (head : Head)
  | insertion (name : InsertName) (params : List Param) (hash : List (String × Param))
      (margin : Margin)

/-- The elements collected so far, newest first, inside what encloses them. -/
structure Builder where
  elements : List Element
  outer : List (Enclosing × List Element)
  trimNext : Bool
  dropLine : Bool

namespace Margin

/-- The rest of the line is blank and a line end follows, or nothing at all follows. -/
def lineEndsBlank (after : List Char) : Bool :=
  match after.dropWhile isLineBlank with
  | [] => after.isEmpty
  | c :: _ => isLineEnd c

/-- Only blanks stand before on this line; `before` is reversed. -/
def lineStartsBlank (before : List Char) : Bool :=
  match before.dropWhile isLineBlank with
  | [] => true
  | c :: _ => isLineEnd c

/-- The margin of a tag between these two parts of its text. -/
def between (before after : List Char) : Margin :=
  ⟨lineStartsBlank before && lineEndsBlank after,
    String.ofList (before.takeWhile isLineBlank).reverse⟩

end Margin

namespace Builder

def empty : Builder := ⟨[], [], false, false⟩

def push (e : Element) (b : Builder) : Builder := { b with elements := e :: b.elements }

def dropFirstLineEnd : List Char → List Char
  | '\r' :: '\n' :: rest => rest
  | '\n' :: rest => rest
  | cs => cs

/-- Adds a text. One that consists of blanks only vanishes where blanks are trimmed. -/
def addText (onlyBlanks : Bool) (cs : List Char) (b : Builder) : Builder :=
  if b.trimNext then
    if onlyBlanks then b
    else { b.push (.text (String.ofList (Text.trimStartChars cs))) with dropLine := false }
  else
    let cs := if b.dropLine then dropFirstLineEnd (cs.dropWhile isLineBlank) else cs
    { b.push (.text (String.ofList cs)) with dropLine := false }

def mapLastText (f : List Char → List Char) (b : Builder) : Builder :=
  match b.elements with
  | .text s :: rest => { b with elements := .text (String.ofList (f s.toList)) :: rest }
  | _ => b

def trimEndBy (p : Char → Bool) (cs : List Char) : List Char := (cs.reverse.dropWhile p).reverse

/-- A tag alone on its line drops the blanks before it and the rest of the line. -/
def standAlone (m : Margin) (b : Builder) : Builder :=
  if m.ownLine then { b.mapLastText (trimEndBy isLineBlank) with dropLine := true }
  else { b with dropLine := false }

def enter (e : Enclosing) (b : Builder) : Builder :=
  { b with elements := [], outer := (e, b.elements) :: b.outer }

/-- A chain of conditions becomes a block whose inverse holds the next one. -/
def chain (inverse : Option (List Element)) : List (Head × List Element) → Option (List Element)
  | [] => inverse
  | (head, body) :: earlier => chain (some [.block head body inverse]) earlier

/-- Closes the innermost enclosing part if the closing tag names it: by the name of its block, or
by the name of its insertion, which may be left out. -/
def close (raw : Bool) (block insertion : Option String) (b : Builder) : Option Builder :=
  let body := b.elements.reverse
  match b.outer with
  | [] => none
  | (enclosing, before) :: outer =>
    let leave (made : List Element) : Builder :=
      { b with elements := made.reverse ++ before, outer := outer }
    match enclosing with
    | .block finished closing current =>
      if raw || block != some closing then none
      else
        (match current with
          | some head => chain none ((head, body) :: finished)
          | none => chain (some body) finished).map leave
    | .raw head =>
      if raw && block == some head.name then some (leave [.block head body none]) else none
    | .decorator head =>
      if !raw && block == some head.name then some (leave [.decorator head (some body)]) else none
    | .insertion name params hash margin =>
      let named := match name with
        | .plain n => insertion == some n
        | .computed _ => false
      if !raw && (named || insertion == some "") then
        some (leave [.insertion name params hash margin (some body)])
      else none

/-- Starts the next branch of the innermost block. -/
def branch (next : Option Head) (b : Builder) : Option Builder :=
  match b.outer with
  | (.block finished closing (some head), before) :: outer =>
    some { b with
      elements := []
      outer := (.block ((head, b.elements.reverse) :: finished) closing next, before) :: outer }
  | _ => none

/-- A tag that swallows the blanks before it has no margin. -/
def addTag (t : Tag) (m : Margin) (b : Builder) : Option Builder :=
  let b := if t.trimBefore then b.mapLastText Text.trimEndChars else b
  let trimmed := { b with trimNext := t.trimAfter }
  let alone := trimmed.standAlone m
  let margin := if t.trimBefore then .none else m
  let placed (head : Head) : Head := { head with ownLine := margin.ownLine }
  match t.kind with
  | .value name => some (trimmed.push (.value name))
  | .call head => some (trimmed.push (.call head))
  | .comment => some ((b.standAlone m).push .comment)
  | .blockOpen head => some (alone.enter (.block [] head.name (some (placed head))))
  | .rawOpen head => some (alone.enter (.raw (placed head)))
  | .decoratorOpen head => some (alone.enter (.decorator head))
  | .insertionOpen name params hash =>
    some (alone.enter (.insertion name params hash { margin with indent := "" }))
  | .otherwise => alone.branch none
  | .otherwiseCall head => alone.branch (some (placed head))
  | .close block insertion => alone.close false block insertion
  | .decorator head => some (alone.push (.decorator head none))
  | .insertion name params hash => some (alone.push (.insertion name params hash margin none))

end Builder

def startsWithBraces (n : Nat) (cs : List Char) : Bool :=
  (Text.afterChars? (Tag.opening n).toList cs).isSome

/-- The text up to the next tag of `n` braces, and the rest. One backslash before two braces makes
them text; of more backslashes before a tag one is dropped. -/
def textPiece (n : Nat) : Nat → List Char → List Char × List Char
  | 0, cs => ([], cs)
  | _ + 1, [] => ([], [])
  | fuel + 1, c :: rest =>
    if startsWithBraces n (c :: rest) then ([], c :: rest)
    else if c = '\\' then
      let slashes := rest.takeWhile (· == '\\')
      let after := rest.dropWhile (· == '\\')
      if startsWithBraces 2 after then
        if slashes.isEmpty then
          let width := if startsWithBraces 4 after then 4 else 2
          let (text, left) := textPiece n fuel (after.drop width)
          (after.take width ++ text, left)
        else
          let (text, left) := textPiece n fuel after
          (slashes ++ text, left)
      else
        let (text, left) := textPiece n fuel after
        ('\\' :: (slashes ++ text), left)
    else
      let (text, left) := textPiece n fuel rest
      (c :: text, left)

def advance (before cs rest : List Char) : List Char := (Tag.spanned cs rest).reverse ++ before

/-- The content of a raw block up to and with its closing tag. -/
def readRaw (before cs : List Char) (b : Builder) : Option (Builder × List Char × List Char) := do
  let start := Tag.skip cs
  let (text, rest) := textPiece 4 (start.length + 1) start
  let kept := b.dropLine
  let b := { b.addText false text with dropLine := kept }
  let (found, after) ← Tag.readRawClose rest
  let here := advance before cs rest
  match found with
  | .good ⟨.close block insertion, trimBefore, trimAfter⟩ =>
    let b := if trimBefore then b.mapLastText Text.trimEndChars else b
    let b := { b with trimNext := trimAfter }
    let b ← (b.standAlone (.between here after)).close true block insertion
    some (b, advance here rest after, after)
  | _ => none

/-- Reads pieces until the text ends. -/
def readPieces : Nat → List Char → List Char → Builder → Option Builder
  | 0, _, _, _ => none
  | _ + 1, _, [], b => some b
  | fuel + 1, before, cs, b => do
    let (text, rest) := textPiece 2 (cs.length + 1) cs
    let source := Tag.spanned cs rest
    let b := if source.isEmpty then b else b.addText (source.all Tag.isSpace) text
    let before := source.reverse ++ before
    match rest with
    | [] => some b
    | _ :: _ =>
      let (found, after) ← Tag.read rest
      match found with
      | .bad => none
      | .good tag =>
        let b ← b.addTag tag (.between before after)
        let before := advance before rest after
        match tag.kind with
        | .rawOpen _ =>
          let (b, before, after) ← readRaw before after b
          readPieces fuel before after b
        | _ => readPieces fuel before after b

/-- The elements of a template text. -/
def read? (source : String) : Option (List Element) := do
  let cs := source.toList
  let b ← readPieces (cs.length + 1) [] cs .empty
  if b.outer.isEmpty then some b.elements.reverse else none

end StreamPipeline.Template
