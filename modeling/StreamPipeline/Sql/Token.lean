import StreamPipeline.Text.Basic
import StreamPipeline.Text.WordChar

/-! # SQL tokens

Words, names in back quotes and single marks of a query. Literals and comments leave no token. The
scanner reads one character at a time, so what follows a text depends on the state at its end only.
-/

namespace StreamPipeline.Sql

inductive SqlToken where
  | word (text : String)
  | name (text : String)
  | mark (c : Char)
deriving Repr, DecidableEq

/-- Where the scanner stands; the characters of an open word are kept newest first. -/
inductive Scan where
  | plain
  | word (seen : List Char)
  | literal (quote : Char)
  | literalQuote (quote : Char)
  | name (seen : List Char)
  | nameQuote (seen : List Char)
  | dash
  | slash
  | lineComment
  | blockComment
  | blockStar
deriving Repr, DecidableEq

namespace Scan

def isWordChar (c : Char) : Bool := Text.isAlphanumeric c || c == '_'

def textOf (seen : List Char) : String := String.ofList seen.reverse

/-- A character outside literals, comments and words. -/
def enter (c : Char) : Scan × List SqlToken :=
  if c == '\'' || c == '"' then (.literal c, [])
  else if c == '-' then (.dash, [])
  else if c == '/' then (.slash, [])
  else if c == '\x60' then (.name [], [])
  else if isWordChar c then (.word [c], [])
  else if Text.isBlank c then (.plain, [])
  else (.plain, [.mark c])

/-- Closes a token and reads the next character after it. -/
def emit (t : SqlToken) (next : Scan × List SqlToken) : Scan × List SqlToken :=
  (next.1, t :: next.2)

/-- The next state, and the tokens that are complete. -/
def step : Scan → Char → Scan × List SqlToken
  | .plain, c => enter c
  | .word seen, c =>
    if isWordChar c then (.word (c :: seen), []) else emit (.word (textOf seen)) (enter c)
  | .literal q, c => if c == q then (.literalQuote q, []) else (.literal q, [])
  | .literalQuote q, c => if c == q then (.literal q, []) else enter c
  | .name seen, c => if c == '\x60' then (.nameQuote seen, []) else (.name (c :: seen), [])
  | .nameQuote seen, c =>
    if c == '\x60' then (.name (c :: seen), []) else emit (.name (textOf seen)) (enter c)
  | .dash, c => if c == '-' then (.lineComment, []) else emit (.mark '-') (enter c)
  | .slash, c => if c == '*' then (.blockComment, []) else emit (.mark '/') (enter c)
  | .lineComment, c => if c == '\n' then (.plain, []) else (.lineComment, [])
  | .blockComment, c => if c == '*' then (.blockStar, []) else (.blockComment, [])
  | .blockStar, c =>
    if c == '/' then (.plain, []) else if c == '*' then (.blockStar, []) else (.blockComment, [])

/-- The token that the end of the text completes. -/
def finish : Scan → List SqlToken
  | .word seen => [.word (textOf seen)]
  | .name seen | .nameQuote seen => [.name (textOf seen)]
  | .dash => [.mark '-']
  | .slash => [.mark '/']
  | _ => []

def run : Scan → List Char → List SqlToken
  | s, [] => s.finish
  | s, c :: rest => (s.step c).2 ++ run (s.step c).1 rest

end Scan

namespace SqlToken

def ofText (sql : String) : List SqlToken := Scan.run .plain sql.toList

/-- One of the words, in any case. A name in back quotes is no keyword. -/
def isKeyword (words : List String) : SqlToken → Bool
  | word text => words.any (Text.eqIgnoreCase text)
  | _ => false

end SqlToken

end StreamPipeline.Sql
