import StreamPipeline.Postgres.Message

/-! # Postgres messages as bytes

Each message of a client asks for frames of the server, and is answered once enough of them have
arrived. Only servers that want no password, or one in clear text, can be talked to.
-/

namespace StreamPipeline.Postgres

/-! ### Numbers and texts -/

def int16 (n : Nat) : List UInt8 := [UInt8.ofNat (n / 256), UInt8.ofNat n]

def int32 (n : Nat) : List UInt8 := int16 (n / 65536) ++ int16 n

def natOf (bytes : List UInt8) : Nat := bytes.foldl (fun n b => 256 * n + b.toNat) 0

def plain (s : String) : List UInt8 := s.toUTF8.toList

/-- A text with the null byte that ends it. -/
def ended (s : String) : List UInt8 := plain s ++ [0]

def textOf (bytes : List UInt8) : String := (String.fromUTF8? ⟨bytes.toArray⟩).getD ""

/-! ### Messages -/

def packet (tag : Char) (body : List UInt8) : List UInt8 :=
  UInt8.ofNat tag.toNat :: int32 (body.length + 4) ++ body

def sync : List UInt8 := packet 'S' []

/-- The bytes of a message, with those that make the server answer it. -/
def Message.wire : Message → List UInt8
  | startup user database =>
    let settings := ["user", user, "database", database, "client_encoding", "UTF8"]
    let body := int32 196608 ++ settings.flatMap ended ++ [0]
    int32 (body.length + 4) ++ body
  | password text => packet 'p' (ended text)
  | query sql => packet 'Q' (ended sql)
  | parse sql => packet 'P' (ended "" ++ ended sql ++ int16 0) ++ sync
  | bind value =>
    let parameter := int32 (plain value).length ++ plain value
    packet 'B' (ended "" ++ ended "" ++ int16 0 ++ int16 1 ++ parameter ++ int16 0)
      ++ packet 'E' (ended "" ++ int32 0) ++ sync

/-! ### Frames -/

/-- What a server sends at a time. -/
structure Frame where
  tag : Char
  body : List UInt8
deriving Repr, DecidableEq

/-- The frames that have arrived as a whole. -/
def framesOf : List UInt8 → List Frame
  | [] => []
  | tag :: bytes =>
    let size := natOf (bytes.take 4)
    if 4 ≤ size ∧ size ≤ bytes.length then
      ⟨Char.ofNat tag.toNat, (bytes.take size).drop 4⟩ :: framesOf (bytes.drop size)
    else []
termination_by bytes => bytes.length
decreasing_by simp only [List.length_drop, List.length_cons]; omega

/-- The texts between null bytes. -/
def pieces : List UInt8 → List (List UInt8)
  | [] => [[]]
  | 0 :: rest => [] :: pieces rest
  | b :: rest =>
    match pieces rest with
    | [] => [[b]]
    | piece :: more => (b :: piece) :: more

/-- The fields of an error, each with the letter that names it. -/
def errorFields (body : List UInt8) : List (Char × String) :=
  (pieces body).filterMap fun piece =>
    match piece with
    | [] => none
    | letter :: text => some (Char.ofNat letter.toNat, textOf text)

def ServerError.ofFrame (f : Frame) : ServerError :=
  let fields := errorFields f.body
  { severity := (fields.lookup 'S').getD ""
    code := (fields.lookup 'C').getD ""
    message := (fields.lookup 'M').getD ""
    detail := fields.lookup 'D'
    hint := fields.lookup 'H' }

/-! ### Answers -/

def errorIn? (frames : List Frame) : Option ServerError :=
  (frames.find? fun f => f.tag == 'E').map .ofFrame

def isReady (frames : List Frame) : Bool := frames.any fun f => f.tag == 'Z'

/-- Whether a client is let in: at once, or with a password, if it comes in clear text. -/
def admission? (frames : List Frame) : Option Admission :=
  match errorIn? frames with
  | some cause => some (.refused (.error cause))
  | none =>
    match frames.find? fun f => f.tag == 'R' && natOf f.body != 0 with
    | some f => some (if natOf f.body = 3 then .passwordWanted else .refused .closed)
    | none => if isReady frames then some .accepted else none

/-- Whether a statement succeeded, once the server is ready for the next one. -/
def outcome? (frames : List Frame) : Option (Except Refusal Unit) :=
  if isReady frames then
    some (match errorIn? frames with
      | some cause => .error (.error cause)
      | none => .ok ())
  else none

/-- The answer to a message, if enough has arrived. -/
def Message.answer? : (m : Message) → List Frame → Option m.Answer
  | startup _ _, frames | password _, frames => admission? frames
  | query _, frames | parse _, frames => outcome? frames
  | bind _, frames => (outcome? frames).map fun result =>
      result.map fun _ => frames.countP fun f => f.tag == 'D'

end StreamPipeline.Postgres
