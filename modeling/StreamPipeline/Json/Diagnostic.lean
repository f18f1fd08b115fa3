import StreamPipeline.Json.Printer
import StreamPipeline.Text.Quoted

/-! # Diagnostic form of JSON values

Every value with the name of its kind, as error texts show the cells of a result row.
-/

namespace StreamPipeline.Json

mutual

def diagnostic : Json → String
  | .null => "Null"
  | .bool b => if b then "Bool(true)" else "Bool(false)"
  | .int n => "Number(" ++ toString n ++ ")"
  | .float x => "Number(" ++ Decimal.json.write x ++ ")"
  | .string s => "String(" ++ Text.quoted s ++ ")"
  | .array items => "Array [" ++ diagnosticItems items ++ "]"
  | .object fields => "Object " ++ openBrace ++ diagnosticFields fields ++ closeBrace

def diagnosticItems : List Json → String
  | [] => ""
  | [v] => diagnostic v
  | v :: w :: rest => diagnostic v ++ ", " ++ diagnosticItems (w :: rest)

def diagnosticFields : List (String × Json) → String
  | [] => ""
  | [(k, v)] => Text.quoted k ++ ": " ++ diagnostic v
  | (k, v) :: w :: rest =>
    Text.quoted k ++ ": " ++ diagnostic v ++ ", " ++ diagnosticFields (w :: rest)

end

end StreamPipeline.Json
