import StreamPipeline.Yaml.Token

/-! # Positions in a YAML text

A cursor is what is left of a text with the number of characters read, the line and the column.
-/

namespace StreamPipeline.Yaml

structure Cursor where
  rest : List Char
  index : Nat
  line : Nat
  column : Nat

namespace Cursor

def start (cs : List Char) : Cursor := ⟨cs, 0, 0, 0⟩

def peek (c : Cursor) : Option Char := c.rest.head?

def looksAt (x : Char) (c : Cursor) : Bool := c.rest.head? == some x

/-- Past one character of the current line. -/
def skip (c : Cursor) : Cursor :=
  { c with rest := c.rest.drop 1, index := c.index + 1, column := c.column + 1 }

def skipN (n : Nat) (c : Cursor) : Cursor :=
  { c with rest := c.rest.drop n, index := c.index + n, column := c.column + n }

/-- Past a run of characters of the current line. -/
def skipWhile (p : Char → Bool) (c : Cursor) : Cursor :=
  c.skipN (c.rest.takeWhile p).length

/-- A line break as text, and the cursor after it. Carriage returns and the next-line character are
line feeds; the two other separators stand for themselves. -/
def takeBreak (c : Cursor) : List Char × Cursor :=
  let next (n : Nat) : Cursor := ⟨c.rest.drop n, c.index + n, c.line + 1, 0⟩
  match c.rest with
  | '\r' :: '\n' :: _ => (['\n'], next 2)
  | x :: _ =>
    if x == '\r' || x == '\n' || x.toNat == 0x85 then (['\n'], next 1)
    else if isBreak x then ([x], next 1)
    else ([], c)
  | [] => ([], c)

def skipBreak (c : Cursor) : Cursor := c.takeBreak.2

def atBreak (c : Cursor) : Bool :=
  match c.rest with
  | x :: _ => isBreak x
  | [] => false

def atBlank (c : Cursor) : Bool :=
  match c.rest with
  | x :: _ => isBlank x
  | [] => false

def atEnd (c : Cursor) : Bool := c.rest.isEmpty

/-- At the end, a blank or a line break. -/
def atWordEnd (c : Cursor) : Bool := endsWord c.rest

def atLineEnd (c : Cursor) : Bool := c.atEnd || c.atBreak

/-- Three marks at the start of a line, standing alone. -/
def atMark (mark : Char) (c : Cursor) : Bool :=
  c.column == 0 && (match c.rest with
    | x :: y :: z :: rest => x == mark && y == mark && z == mark && endsWord rest
    | _ => false)

/-- At a mark that starts or ends a document. -/
def atDocumentMark (c : Cursor) : Bool := c.atMark '-' || c.atMark '.'

end Cursor

end StreamPipeline.Yaml
