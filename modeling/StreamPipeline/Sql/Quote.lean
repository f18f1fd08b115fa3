import StreamPipeline.Text.Basic

/-! # Quoting

Identifiers, paths, string literals and option lists of the streaming runtime. A quote inside a
quoted text is written twice, so the text can always be read back.
-/

namespace StreamPipeline.Sql

/-- The characters between two quotes, each quote among them doubled. -/
def enclose (quote : Char) (cs : List Char) : List Char :=
  quote :: (Text.doubling quote cs ++ [quote])

def quoteIdent (name : String) : String := String.ofList (enclose '\x60' name.toList)

/-- A dotted reference, part by part. -/
def quotePath (path : String) : String := Text.join "." ((Text.split '.' path).map quoteIdent)

def literal (value : String) : String := String.ofList (enclose '\'' value.toList)

def renderOption (pair : String × String) : String := literal pair.1 ++ " = " ++ literal pair.2

/-- The pairs of a `WITH` clause or of an `OPTIONS` hint. -/
def renderOptions (pairs : List (String × String)) : String :=
  Text.join ", " (pairs.map renderOption)

end StreamPipeline.Sql
