import StreamPipeline.Text.Basic
import StreamPipeline.Text.WordChar

/-! # Masking secret options

A secret option is a quoted key that ends in `password`, or the login configuration of a message
broker, followed by an equals sign and a literal. Masking replaces the literal and nothing else.
-/

namespace StreamPipeline.Sql

def isKeyChar (c : Char) : Bool := Text.isWord c || c == '.' || c == '-'

def passwordWord : List Char := "password".toList

def loginKey : List Char := "properties.sasl.jaas.config".toList

def isSecretKey (key : List Char) : Bool :=
  (Text.afterChars? passwordWord.reverse key.reverse).isSome || key == loginKey

/-- What follows the literal whose opening quote has been read. A doubled quote belongs to the
literal, unless nothing after it closes the literal: then its first half does. -/
def afterLiteral? : List Char → Option (List Char)
  | [] => none
  | [c] => if c = '\'' then some [] else none
  | c :: d :: rest =>
    if c = '\'' then
      if d = '\'' then (afterLiteral? rest).or (some (d :: rest)) else some (d :: rest)
    else afterLiteral? (d :: rest)

/-- The key, the equals sign and the blanks around it, and what follows the opening quote of the
value. The opening quote of the key has been read. -/
def secretHead? (cs : List Char) : Option (List Char × List Char) :=
  let key := cs.takeWhile isKeyChar
  match cs.dropWhile isKeyChar with
  | '\'' :: rest =>
    if isSecretKey key then
      let before := rest.takeWhile Text.isBlank
      match rest.dropWhile Text.isBlank with
      | '=' :: rest =>
        let after := rest.takeWhile Text.isBlank
        match rest.dropWhile Text.isBlank with
        | '\'' :: rest => some (key ++ '\'' :: (before ++ '=' :: after), rest)
        | _ => none
      | _ => none
    else none
  | _ => none

/-- A secret option at the start of the text: its characters up to the value, and what follows. -/
def secretOption? : List Char → Option (List Char × List Char)
  | '\'' :: rest => do
    let (head, rest) ← secretHead? rest
    let rest ← afterLiteral? rest
    some ('\'' :: head, rest)
  | _ => none

def mask : List Char := "'***'".toList

/-- Each step drops at least one character, so the length of the text is fuel enough. -/
def redactChars : Nat → List Char → List Char
  | 0, _ => []
  | _ + 1, [] => []
  | fuel + 1, c :: rest =>
    match secretOption? (c :: rest) with
    | some (head, rest) => head ++ mask ++ redactChars fuel rest
    | none => c :: redactChars fuel rest

/-- The statement with the values of its secret options masked. -/
def redact (sql : String) : String := String.ofList (redactChars sql.length sql.toList)

end StreamPipeline.Sql
