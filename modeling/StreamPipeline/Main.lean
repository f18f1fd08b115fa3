import Std.Async.DNS
import Std.Async.TCP
import Std.Internal.UV.System
import Std.Time.DateTime.Timestamp
import StreamPipeline.Command.Options
import StreamPipeline.Command.Run
import StreamPipeline.Http.Wire
import StreamPipeline.Postgres.Wire

/-! # The command line

Reads the arguments, the environment and the document, carries bytes to and from the servers, and
prints what a command leaves. What is sent and what is printed is decided elsewhere.
-/

namespace StreamPipeline.Terminal

open Std.Async Std.Net

/-! ### Sockets -/

abbrev Socket := TCP.Socket.Client

def socketAddress (port : UInt16) : IPAddr → SocketAddress
  | .v4 address => .v4 ⟨address, port⟩
  | .v6 address => .v6 ⟨address, port⟩

/-- A connection to the first address of a host that takes it. -/
def connectTo (host : String) (port : UInt16) : IO Socket := do
  for address in ← (DNS.getAddrInfo host "").block do
    try
      let socket ← TCP.Socket.Client.mk
      (socket.connect (socketAddress port address)).block
      return socket
    catch _ => pure ()
  throw (IO.userError ("no connection to " ++ host))

def sendBytes (socket : Socket) (bytes : ByteArray) : IO Unit := (socket.send bytes).block

def receive? (socket : Socket) : IO (Option ByteArray) := (socket.recv? 65536).block

/-- What is known while a command runs: the poll interval in milliseconds, the connection to a
relational server, and when the first insert was sent. -/
structure Connections where
  interval : Nat
  current : IO.Ref (Option Socket)
  compiled : IO.Ref (Option Nat)

def Connections.start (interval : Nat) : IO Connections := do
  return ⟨interval, ← IO.mkRef none, ← IO.mkRef none⟩

/-! ### The gateway -/

/-- Everything that arrives until the connection is closed. -/
partial def receiveAll (socket : Socket) (sofar : ByteArray) : IO ByteArray := do
  match ← receive? socket with
  | some bytes => receiveAll socket (sofar ++ bytes)
  | none => return sofar

/-- The host and the port of a location. -/
def endpoint (u : Http.Url) : String × UInt16 :=
  match Text.splitFirstChars ':' u.authority.toList with
  | some (host, port) => (String.ofList host, UInt16.ofNat (Text.digitsValue port))
  | none => (u.authority, if u.secure then 443 else 80)

/-- Only plain connections can be opened. -/
def fetch (r : Http.Request) : IO Http.Reply := do
  if r.url.secure then return .dropped
  try
    let (host, port) := endpoint r.url
    let socket ← connectTo host port
    sendBytes socket r.wire.toUTF8
    return .ofBytes (← receiveAll socket .empty).toList
  catch _ => return .dropped

/-- Compiling ends with the first insert. -/
def Connections.note (c : Connections) (r : Http.Request) : IO Unit := do
  match (r.body.bind (Json.field? "statement")).bind Json.string? with
  | some sql =>
    if Text.startsWith "INSERT INTO " sql && (← c.compiled.get).isNone then
      c.compiled.set (some (← IO.monoMsNow))
  | none => pure ()

/-- Goes on with the replies that have arrived until an exchange has its result. A request that is
made again waits for the poll interval first. -/
partial def converse {α : Type} (c : Connections) (x : Http.Exchange α) (sent : List Http.Url)
    (pauses : Nat) (replies : Array Http.Reply) : IO α := do
  match x.pending? replies.toList, x replies.toList with
  | some request, _ =>
    let again := pauses < sent.count request.url
    if again then IO.sleep (UInt32.ofNat c.interval)
    c.note request
    let reply ← fetch request
    converse c x (request.url :: sent) (if again then pauses + 1 else pauses)
      (replies.push reply)
  | none, (_, some (a, _)) => return a
  | none, (_, none) => throw (IO.userError "an exchange without an end")

/-! ### Relational servers -/

/-- Reads until the answer to a message has arrived. -/
partial def awaitAnswer (socket : Socket) (m : Postgres.Message) (sofar : ByteArray) :
    IO m.Answer := do
  match m.answer? (Postgres.framesOf sofar.toList) with
  | some answer => return answer
  | none =>
    match ← receive? socket with
    | some bytes => awaitAnswer socket m (sofar ++ bytes)
    | none => return m.closed

/-- A message that starts a conversation opens a connection for it. -/
def deliver (current : IO.Ref (Option Socket)) (sink : PostgresSink) (m : Postgres.Message) :
    IO m.Answer := do
  try
    match m with
    | .startup _ _ => current.set (some (← connectTo sink.host sink.port))
    | _ => pure ()
    match ← current.get with
    | some socket =>
      sendBytes socket ⟨m.wire.toArray⟩
      awaitAnswer socket m .empty
    | none => return m.closed
  catch _ => return m.closed

/-- The inserts are awaited one after the other, so no wait is left when one has failed. -/
def network (c : Connections) : Command.Network IO where
  http x := converse c x [] 0 #[]
  postgres := deliver c.current
  turns := []
  lingering aborted := return ⟨0, aborted.succ_pos⟩

/-! ### Files and the environment -/

/-- The text that the operating system has for an error; some codes come with a minus sign. -/
def errorText (e : IO.Error) : String :=
  let shown (code : UInt32) (details : String) : String :=
    let code := if code < 0x80000000 then code else 0 - code
    details.capitalize ++ " (os error " ++ toString code ++ ")"
  match e with
  | .noFileOrDirectory _ code details | .interrupted _ code details => shown code details
  | .alreadyExists _ code details | .invalidArgument _ code details
  | .permissionDenied _ code details | .resourceExhausted _ code details
  | .inappropriateType _ code details | .noSuchThing _ code details => shown code details
  | .otherError code details | .resourceBusy code details | .resourceVanished code details
  | .unsupportedOperation code details | .hardwareFault code details
  | .unsatisfiedConstraints code details | .illegalOperation code details
  | .protocolError code details | .timeExpired code details => shown code details
  | .unexpectedEof | .userError _ => toString e

/-- The one file that a location names, read ahead. -/
def filesFor (location : String) : IO Files := do
  match Location.parse location with
  | .ok (.file path) =>
    try
      let bytes ← IO.FS.readBinFile path
      return fun _ => .ok bytes
    catch e => return fun _ => .error (errorText e)
  | _ => return fun _ => .error "not read"

/-! ### Commands -/

def display (p : Command.Printout) : IO UInt32 := do
  for text in p.texts do IO.println text
  match p.complaint with
  | some complaint => IO.eprintln complaint.text
  | none => pure ()
  return p.exitCode

def perform (env : Environment) : Command → IO UInt32
  | .check location => do
    let net := network (← Connections.start 0)
    display (← net.http (Command.checkDocument env (← filesFor location) location))
  | .run location dryRun settings interval => do
    let started ← IO.monoMsNow
    let now := (← Std.Time.Timestamp.now).toMillisecondsSinceUnixEpoch.val
    let task := ⟨location, dryRun, env, ← filesFor location, ⟨settings, now⟩⟩
    let connections ← Connections.start interval
    let result ← (Command.runTask (network connections) task).run
    let ended ← IO.monoMsNow
    let compiled := (← connections.compiled.get).getD ended
    display (Command.runPrintout ⟨compiled - started, ended - started⟩ result)

end StreamPipeline.Terminal

open StreamPipeline in
def main (args : List String) : IO UInt32 := do
  let env := (← Std.Internal.UV.System.osEnviron).toList
  match Command.parse env args with
  | .ok command => Terminal.perform env command
  | .error e =>
    IO.eprintln ("error: " ++ e.message)
    return 2
