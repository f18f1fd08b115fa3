import StreamPipeline.Draft.Placeholder
import StreamPipeline.Pipeline.Settings

/-! # Options of the command line

Two commands, each with the location of a document. An option wins over the environment, and the
environment over the default.
-/

namespace StreamPipeline

/-- What the command line asks for. -/
inductive Command where
  | check (location : String)
  | run (location : String) (dryRun : Bool) (settings : Settings) (pollInterval : Nat)
deriving Repr, DecidableEq

namespace Command

inductive UsageError where
  | noCommand
  | unknownCommand (word : String)
  | noLocation
  | unexpected (argument : String)
  | missingValue (option : String)
  | repeated (option : String)
  | invalidValue (option value reason : String)
deriving Repr, DecidableEq

def UsageError.message : UsageError → String
  | noCommand => "a command is required: run or check"
  | unknownCommand word => "unrecognized command '" ++ word ++ "'"
  | noLocation => "the location of a pipeline document is required"
  | unexpected argument => "unexpected argument '" ++ argument ++ "' found"
  | missingValue option => "a value is required for '--" ++ option ++ "' but none was supplied"
  | repeated option => "the option '--" ++ option ++ "' cannot be used multiple times"
  | invalidValue option value reason =>
    "invalid value '" ++ value ++ "' for '--" ++ option ++ "': " ++ reason

/-! ### Arguments -/

/-- An argument in its place: a word, a flag, or an option with its value. -/
inductive Argument where
  | word (text : String)
  | flag (name : String)
  | option (name value : String)
deriving Repr, DecidableEq

/-- The options that take a value, and whether they may be given more than once. -/
def valued : List (String × Bool) :=
  [("gateway-url", false), ("jobmanager-url", false), ("catalog", false), ("warehouse", false),
    ("sink-root", false), ("function", true), ("poll-interval-ms", false), ("log-level", false)]

/-- The name of an option and the value that is written into the same argument, if any. -/
def optionParts (text : String) : String × Option String :=
  match Text.splitFirstChars '=' text.toList with
  | some (name, value) => (String.ofList name, some (String.ofList value))
  | none => (text, none)

/-- Words and options in their order; everything behind two hyphens is a word. -/
def arguments : List String → Except UsageError (List Argument)
  | [] => .ok []
  | "--" :: rest => .ok (rest.map .word)
  | [first] =>
    match Text.after? "--" first with
    | none => .ok [.word first]
    | some text =>
      match optionParts text with
      | (name, some value) =>
        if (valued.lookup name).isSome then .ok [.option name value] else .error (.unexpected first)
      | (name, none) =>
        if (valued.lookup name).isSome then .error (.missingValue name) else .ok [.flag name]
  | first :: next :: rest =>
    match Text.after? "--" first with
    | none => do return .word first :: (← arguments (next :: rest))
    | some text =>
      match optionParts text with
      | (name, some value) =>
        if (valued.lookup name).isSome then
          do return .option name value :: (← arguments (next :: rest))
        else .error (.unexpected first)
      | (name, none) =>
        if (valued.lookup name).isSome then do return .option name next :: (← arguments rest)
        else do return .flag name :: (← arguments (next :: rest))

def words (args : List Argument) : List String :=
  args.filterMap fun a => match a with
    | .word text => some text
    | _ => none

def flags (args : List Argument) : List String :=
  args.filterMap fun a => match a with
    | .flag name => some name
    | _ => none

def values (name : String) (args : List Argument) : List String :=
  args.filterMap fun a => match a with
    | .option n value => if n = name then some value else none
    | _ => none

/-- The options that are given, each once. -/
def optionNames (args : List Argument) : List String :=
  (args.filterMap fun a => match a with
    | .option n _ => some n
    | _ => none).eraseDups

/-! ### Commands -/

/-- The value of an option, or that of a variable, or the default. -/
def setting (env : Environment) (args : List Argument) (name : String) (variableName : Option String)
    (default : String) : String :=
  (values name args).head?.getD ((variableName.bind env.value?).getD default)

def functions (args : List Argument) : Except UsageError (List FunctionDef) :=
  (values "function" args).mapM fun pair =>
    (FunctionDef.parse pair).mapError (.invalidValue "function" pair)

def settingsOf (env : Environment) (args : List Argument) : Except UsageError Settings := do
  let base : Settings := {}
  return {
    gatewayUrl := setting env args "gateway-url" (some "MANUSCRIPT_GATEWAY_URL") base.gatewayUrl
    jobmanagerUrl :=
      setting env args "jobmanager-url" (some "MANUSCRIPT_JOBMANAGER_URL") base.jobmanagerUrl
    catalog := setting env args "catalog" none base.catalog
    warehouse := setting env args "warehouse" (some "MANUSCRIPT_WAREHOUSE") base.warehouse
    sinkRoot := setting env args "sink-root" (some "MANUSCRIPT_SINK_ROOT") base.sinkRoot
    functions := ← functions args }

/-- Milliseconds between two polls of the same operation. -/
def pollInterval (args : List Argument) : Except UsageError Nat :=
  match values "poll-interval-ms" args with
  | [] => .ok 500
  | value :: _ =>
    match Text.unsignedUpTo? 18446744073709551615 value.toList with
    | some n => .ok n
    | none => .error (.invalidValue "poll-interval-ms" value "invalid number")

/-- No option but `function` may be given twice, and a command takes only its own. -/
def allowed (options : List String) (flagNames : List String) (args : List Argument) :
    Except UsageError Unit := do
  for name in optionNames args do
    if !options.contains name then throw (.unexpected ("--" ++ name))
    if valued.lookup name = some false && 1 < (values name args).length then throw (.repeated name)
  for name in flags args do
    if !flagNames.contains name then throw (.unexpected ("--" ++ name))
  if 1 < (flags args).length then throw (.repeated "dry-run")

def parse (env : Environment) (args : List String) : Except UsageError Command := do
  let args ← arguments args
  match words args with
  | [] => throw .noCommand
  | "check" :: rest =>
    allowed ["log-level"] [] args
    match rest with
    | [] => throw .noLocation
    | [location] => return .check location
    | _ :: extra :: _ => throw (.unexpected extra)
  | "run" :: rest =>
    allowed (valued.map (·.1)) ["dry-run"] args
    match rest with
    | [] => throw .noLocation
    | [location] =>
      return .run location ((flags args).contains "dry-run") (← settingsOf env args)
        (← pollInterval args)
    | _ :: extra :: _ => throw (.unexpected extra)
  | word :: _ => throw (.unknownCommand word)

end Command

end StreamPipeline
