import StreamPipeline.Pipeline.Error
import StreamPipeline.Text.WordChar

/-! # Placeholders

A document may name variables of the environment as `<<<NAME>>>`. Each placeholder is replaced once,
from left to right, and what is put in is not read again.
-/

namespace StreamPipeline

/-- A piece of a document text. -/
inductive Piece where
  | char (c : Char)
  | placeholder (name : String)
deriving Repr, DecidableEq

namespace Piece

/-- The name of a placeholder right at the start of the text, and what follows it. -/
def placeholder? : List Char → Option (String × List Char)
  | '<' :: '<' :: '<' :: rest =>
    let name := rest.takeWhile Text.isWord
    match rest.dropWhile Text.isWord with
    | '>' :: '>' :: '>' :: after => if name.isEmpty then none else some (String.ofList name, after)
    | _ => none
  | _ => none

def ofChars : Nat → List Char → List Piece
  | 0, _ => []
  | _ + 1, [] => []
  | fuel + 1, c :: rest =>
    match placeholder? (c :: rest) with
    | some (name, after) => .placeholder name :: ofChars fuel after
    | none => .char c :: ofChars fuel rest

/-- The leftmost placeholders that do not overlap, and the characters between them. -/
def ofText (text : String) : List Piece := ofChars text.length text.toList

def name? : Piece → Option String
  | char _ => none
  | placeholder name => some name

def write (value : String → Option String) : Piece → String
  | char c => String.singleton c
  | placeholder name => (value name).getD ""

end Piece

/-- The variables of the environment. -/
abbrev Environment := List (String × String)

def Environment.value? (env : Environment) (name : String) : Option String := env.lookup name

/-- Each name once, in the order in which they first occur. -/
def firstOccurrences (names : List String) : List String :=
  names.foldl (fun seen n => if seen.contains n then seen else seen ++ [n]) []

/-- The text with its placeholders replaced, or the names that no variable has. -/
def substitute (env : Environment) (text : String) : Except ConfigError String :=
  let pieces := Piece.ofText text
  match firstOccurrences ((pieces.filterMap Piece.name?).filter fun n => (env.value? n).isNone) with
  | [] => .ok (String.join (pieces.map (Piece.write env.value?)))
  | missing => .error (.unresolvedPlaceholders missing)

end StreamPipeline
