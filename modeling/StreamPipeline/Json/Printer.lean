import StreamPipeline.Json.Value

/-! # Printing JSON

The compact form on one line, and the indented form with one item or field to a line.
-/

namespace StreamPipeline.Json

def hexDigit (n : Nat) : Char := (Nat.digitChar n)

def escapedChar (c : Char) : List Char :=
  if c = '"' then ['\\', '"']
  else if c = '\\' then ['\\', '\\']
  else if c = '\n' then ['\\', 'n']
  else if c = '\r' then ['\\', 'r']
  else if c = '\t' then ['\\', 't']
  else if c.toNat = 8 then ['\\', 'b']
  else if c.toNat = 12 then ['\\', 'f']
  else if c.toNat < 32 then
    ['\\', 'u', '0', '0', hexDigit (c.toNat / 16), hexDigit (c.toNat % 16)]
  else [c]

def printString (s : String) : String :=
  String.ofList ('"' :: (s.toList.flatMap escapedChar ++ ['"']))

def openBrace : String := "\x7b"

def closeBrace : String := "\x7d"

mutual

def compact : Json → String
  | .null => "null"
  | .bool b => if b then "true" else "false"
  | .int n => toString n
  | .float x => Decimal.json.write x
  | .string s => printString s
  | .array items => "[" ++ compactItems items ++ "]"
  | .object fields => openBrace ++ compactFields fields ++ closeBrace

def compactItems : List Json → String
  | [] => ""
  | [v] => compact v
  | v :: w :: rest => compact v ++ "," ++ compactItems (w :: rest)

def compactFields : List (String × Json) → String
  | [] => ""
  | [(k, v)] => printString k ++ ":" ++ compact v
  | (k, v) :: w :: rest => printString k ++ ":" ++ compact v ++ "," ++ compactFields (w :: rest)

end

def newLine (depth : Nat) : String := "\n" ++ String.ofList (List.replicate (2 * depth) ' ')

mutual

/-- One item or field to a line, two spaces to a level. -/
def indented (depth : Nat) : Json → String
  | .array [] => "[]"
  | .array (v :: rest) =>
    "[" ++ newLine (depth + 1) ++ indented (depth + 1) v ++ indentedItems (depth + 1) rest
      ++ newLine depth ++ "]"
  | .object [] => openBrace ++ closeBrace
  | .object ((k, v) :: rest) =>
    openBrace ++ newLine (depth + 1) ++ printString k ++ ": " ++ indented (depth + 1) v
      ++ indentedFields (depth + 1) rest ++ newLine depth ++ closeBrace
  | .null => "null"
  | .bool b => if b then "true" else "false"
  | .int n => toString n
  | .float x => Decimal.json.write x
  | .string s => printString s

def indentedItems (depth : Nat) : List Json → String
  | [] => ""
  | v :: rest => "," ++ newLine depth ++ indented depth v ++ indentedItems depth rest

def indentedFields (depth : Nat) : List (String × Json) → String
  | [] => ""
  | (k, v) :: rest =>
    "," ++ newLine depth ++ printString k ++ ": " ++ indented depth v ++ indentedFields depth rest

end

def pretty (v : Json) : String := indented 0 v

end StreamPipeline.Json
