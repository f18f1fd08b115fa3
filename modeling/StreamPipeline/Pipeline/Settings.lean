import StreamPipeline.Text.Basic

/-! # Settings

What a deployment decides and no document says: the servers, the catalog, the root directory of file
sinks, and the functions to register.
-/

namespace StreamPipeline

/-- A function known to the runtime under a name. -/
structure FunctionDef where
  name : String
  className : String
deriving Repr, DecidableEq

namespace FunctionDef

def invalid (pair : String) : String :=
  "invalid function '" ++ pair ++ "', expected NAME=CLASS"

/-- Reads `NAME=CLASS`; neither side may be blank. -/
def parse (pair : String) : Except String FunctionDef :=
  match Text.splitFirstChars '=' pair.toList with
  | none => .error (invalid pair)
  | some (name, className) =>
    let name := Text.trimChars name
    let className := Text.trimChars className
    if name.isEmpty || className.isEmpty then .error (invalid pair)
    else .ok ⟨String.ofList name, String.ofList className⟩

end FunctionDef

structure Settings where
  gatewayUrl : String := "http://localhost:8083"
  jobmanagerUrl : String := "http://localhost:8081"
  catalog : String := "paimon"
  warehouse : String := "file:///opt/flink/warehouse"
  sinkRoot : String := "/opt/flink/sink_file_path"
  functions : List FunctionDef := []
deriving Repr, DecidableEq

end StreamPipeline
