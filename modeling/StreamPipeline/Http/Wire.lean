import StreamPipeline.Http.Exchange
import StreamPipeline.Json.Printer
import StreamPipeline.Json.Reader

/-! # Requests and replies as bytes

A connection serves one request: the server closes it behind its reply. The body of a reply is
framed by its length, by chunks, or by the end of the connection.
-/

namespace StreamPipeline.Http

def Method.word : Method → String
  | get => "GET"
  | post => "POST"
  | delete => "DELETE"

def lineEnd : String := "\r\n"

namespace Request

def headers (r : Request) : List (String × String) :=
  [("Host", r.url.authority), ("Accept", "*/*"), ("Connection", "close")]
  ++ (match r.body with
    | some body =>
      [("Content-Type", "application/json"),
        ("Content-Length", toString body.compact.utf8ByteSize)]
    | none => [])

def wire (r : Request) : String :=
  r.method.word ++ " " ++ r.url.target ++ " HTTP/1.1" ++ lineEnd
    ++ String.join (r.headers.map fun h => h.1 ++ ": " ++ h.2 ++ lineEnd) ++ lineEnd
    ++ (match r.body with
      | some body => body.compact
      | none => "")

end Request

/-! ### Replies -/

/-- What stands before the first line end, and what follows it. -/
def cutLine : List UInt8 → Option (List UInt8 × List UInt8)
  | [] => none
  | 13 :: 10 :: rest => some ([], rest)
  | b :: rest => (cutLine rest).map fun p => (b :: p.1, p.2)

theorem length_of_cutLine {bytes line rest : List UInt8} (h : cutLine bytes = some (line, rest)) :
    rest.length < bytes.length := by
  induction bytes using cutLine.induct generalizing line with
  | case1 => simp [cutLine] at h
  | case2 tail =>
    simp only [cutLine, Option.some.injEq, Prod.mk.injEq] at h
    rw [← h.2]
    simp only [List.length_cons]
    omega
  | case3 b tail hne ih =>
    rw [cutLine] at h
    · simp only [Option.map_eq_some_iff, Prod.mk.injEq] at h
      obtain ⟨⟨l, r⟩, hl, -, rfl⟩ := h
      exact Nat.lt_succ_of_lt (ih hl)
    · exact hne

def textOf (bytes : List UInt8) : Option String := String.fromUTF8? ⟨bytes.toArray⟩

/-- A header with its name in lower case. -/
def readHeader (line : List UInt8) : Option (String × String) := do
  let (name, value) ← Text.splitFirstChars ':' (← textOf line).toList
  return (Text.lowerAscii (String.ofList name), String.ofList (Text.trimChars value))

/-- The headers up to the empty line, and the rest. -/
def readHeaders (bytes : List UInt8) : Option (List (String × String) × List UInt8) :=
  match h : cutLine bytes with
  | none => none
  | some ([], rest) => some ([], rest)
  | some (line, rest) => do
    have := length_of_cutLine h
    let header ← readHeader line
    let (headers, body) ← readHeaders rest
    return (header :: headers, body)
termination_by bytes.length

/-- The size that begins the line of a chunk. -/
def chunkSize (line : List UInt8) : Option Nat := do
  let digits := ((← textOf line).toList.takeWhile (· != ';')) |> Text.trimChars
  if digits.isEmpty then none
  digits.foldlM (fun n c => do return 16 * n + (← Json.hexValue? c)) 0

/-- The bytes of all chunks. -/
def joinChunks (bytes : List UInt8) : Option (List UInt8) :=
  match h : cutLine bytes with
  | none => none
  | some (line, rest) => do
    have := length_of_cutLine h
    let size ← chunkSize line
    if size = 0 then return []
    if rest.length < size then none
    have : (rest.drop (size + 2)).length < bytes.length := by
      rw [List.length_drop]
      omega
    return rest.take size ++ (← joinChunks (rest.drop (size + 2)))
termination_by bytes.length

/-- The body of a message, framed as its headers say. -/
def bodyBytes (headers : List (String × String)) (bytes : List UInt8) : Option (List UInt8) :=
  if (headers.lookup "transfer-encoding").any fun e => Text.occursIn "chunked" (Text.lowerAscii e) then
    joinChunks bytes
  else match headers.lookup "content-length" with
    | none => some bytes
    | some n => do
      let n ← Text.unsignedUpTo? bytes.length n.toList
      return bytes.take n

/-- The status in the first line of a reply. -/
def statusOf (line : List UInt8) : Option Nat := do
  match Text.split ' ' (← textOf line) with
  | _ :: status :: _ => Text.unsignedUpTo? 999 status.toList
  | _ => none

def readReply (bytes : List UInt8) : Option Reply := do
  let (first, rest) ← cutLine bytes
  let status ← statusOf first
  let (headers, rest) ← readHeaders rest
  return .response status (← textOf (← bodyBytes headers rest))

/-- The reply that a connection brought until it was closed. -/
def Reply.ofBytes (bytes : List UInt8) : Reply := (readReply bytes).getD .dropped

end StreamPipeline.Http
