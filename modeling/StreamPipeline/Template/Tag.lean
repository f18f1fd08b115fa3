import StreamPipeline.Json.Reader
import StreamPipeline.Template.Basic

/-! # Tags

A template text is cut into texts and tags. A tag is read by the first form that fits it; blanks
may stand between any two of its parts.
-/

namespace StreamPipeline.Template

/-- What a tag does, without its place in the text. A closing tag names a block, an insertion or,
where both read it alike, either. -/
inductive TagKind where
  | value (name : Param)
  | call (head : Head)
  | blockOpen (head : Head)
  | rawOpen (head : Head)
  | decoratorOpen (head : Head)
  | insertionOpen (name : InsertName) (params : List Param) (hash : List (String × Param))
  | otherwise
  | otherwiseCall (head : Head)
  | close (block insertion : Option String)
  | decorator (head : Head)
  | insertion (name : InsertName) (params : List Param) (hash : List (String × Param))
  | comment

/-- A tag, and whether it swallows the blanks before and after it. -/
structure Tag where
  kind : TagKind
  trimBefore : Bool
  trimAfter : Bool

/-- A reading of the front of a text. -/
abbrev Read (α : Type) := List Char → Option (α × List Char)

namespace Tag

def isSpace (c : Char) : Bool := c == ' ' || c == '\t' || c == '\n' || c == '\r'

def skip (cs : List Char) : List Char := cs.dropWhile isSpace

def isLetter (c : Char) : Bool := c.isAlphanum || c == '_' || c == '-' || decide (128 ≤ c.toNat)

/-- The characters of a plain name: letters, digits, `_ - $ :`, and all beyond ASCII. -/
def isSymbol (c : Char) : Bool := isLetter c || c == '$' || c == ':'

/-- The characters of the name of an insertion: letters, digits, `_ - / . @`, and all beyond
ASCII. -/
def isInsertSymbol (c : Char) : Bool := isLetter c || c == '/' || c == '.' || c == '@'

def word (w : String) : Read Unit := fun cs =>
  (Text.afterChars? w.toList cs).map fun rest => ((), rest)

/-- The word after any blanks. -/
def token (w : String) : Read Unit := fun cs => word w (skip cs)

def run (p : Char → Bool) : Read String := fun cs =>
  let name := cs.takeWhile p
  if name.isEmpty then none else some (String.ofList name, cs.dropWhile p)

def identifier : Read String := run isSymbol

def optional (r : Read Unit) (cs : List Char) : List Char :=
  match r cs with
  | some (_, rest) => rest
  | none => cs

/-- Not followed by a character of a name. -/
def endsName : List Char → Bool
  | [] => true
  | c :: _ => !isSymbol c

/-- What was read, given what was there before and what is left. -/
def spanned (before after : List Char) : List Char := before.take (before.length - after.length)

/-! ### Paths -/

def separator : Read Unit
  | '/' :: rest => some ((), rest)
  | '.' :: rest => some ((), rest)
  | _ => none

/-- A first step that stays where it is. -/
def current : Read Unit := fun cs =>
  ((word "this" cs).bind fun (_, rest) => separator rest).or (word "./" cs)

def ups : Nat → List Char → List Segment × List Char
  | 0, cs => ([], cs)
  | fuel + 1, cs =>
    match (word ".." cs).bind fun (_, r) => separator r with
    | some (_, rest) =>
      let (more, rest) := ups fuel rest
      (.up :: more, rest)
    | none => ([], cs)

def pathItem : Read String
  | '[' :: rest =>
    match rest.dropWhile (· != ']') with
    | ']' :: after => some (String.ofList (rest.takeWhile (· != ']')), after)
    | _ => none
  | cs => run isSymbol cs

def pathItems : Nat → List Char → List String × List Char
  | 0, cs => ([], cs)
  | fuel + 1, cs =>
    match (separator cs).bind fun (_, r) => pathItem r with
    | some (item, rest) =>
      let (more, rest) := pathItems fuel rest
      (item :: more, rest)
    | none => ([], cs)

/-- A step named `this` stays where it is. -/
def named (items : List String) : List Segment :=
  (items.filter (· != "this")).map Segment.named

def path : Read Path := fun cs => do
  let fuel := cs.length
  let rest := optional current cs
  let (root, rest) := match (word "@root" rest).bind fun (_, r) => separator r with
    | some (_, rest) => ([Segment.root], rest)
    | none => ([], rest)
  let (mark, rest) := match rest with
    | '@' :: rest => ([Segment.variable], rest)
    | rest => ([], rest)
  let (up, rest) := ups fuel rest
  let (first, rest) ← pathItem rest
  let (more, rest) := pathItems fuel rest
  some (⟨String.ofList (spanned cs rest), root ++ mark ++ up ++ named (first :: more)⟩, rest)

/-! ### Literals -/

/-- The content of a quoted literal; only the escapes of JSON may follow a backslash. -/
def quotedContent (quote : Char) : List Char → Option (List Char × List Char)
  | [] => none
  | c :: rest =>
    if c = quote then some ([], rest)
    else if c = '\\' then
      match rest with
      | [] => none
      | e :: rest =>
        if e = quote ∨ e ∈ ['\\', '/', 'b', 'f', 'n', 'r', 't'] then
          (quotedContent quote rest).map fun (s, r) => ('\\' :: e :: s, r)
        else if e = 'u' then
          match rest with
          | a :: b :: c :: d :: rest =>
            if [a, b, c, d].all fun x => (Json.hexValue? x).isSome then
              (quotedContent quote rest).map fun (s, r) =>
                ('\\' :: 'u' :: a :: b :: c :: d :: s, r)
            else none
          | _ => none
        else none
    else (quotedContent quote rest).map fun (s, r) => (c :: s, r)

def takeDigits (cs : List Char) : List Char := cs.dropWhile Char.isDigit

def numberEnd? (cs : List Char) : Option (List Char) :=
  let body := optional (word "-") cs
  let rest := takeDigits body
  if rest.length = body.length then none
  else
    let rest := takeDigits (optional (word ".") rest)
    let rest := match rest with
      | 'E' :: e =>
        let digits := optional (word "-") e
        let after := takeDigits digits
        if after.length = digits.length then rest else after
      | rest => rest
    if endsName rest then some rest else none

def keywordEnd? (w : String) (cs : List Char) : Option (List Char) :=
  (word w cs).bind fun (_, rest) => if endsName rest then some rest else none

mutual

/-- Where a literal at the front ends. -/
def literalEnd? : Nat → List Char → Option (List Char)
  | 0, _ => none
  | fuel + 1, cs =>
    match cs with
    | '"' :: rest => (quotedContent '"' rest).map Prod.snd
    | '\'' :: rest => (quotedContent '\'' rest).map Prod.snd
    | '[' :: rest =>
      let rest := (literalEnd? fuel (skip rest)).getD rest
      arrayEnd? fuel rest
    | c :: rest =>
      if c = '\x7b' then
        let rest := (pairEnd? fuel (skip rest)).getD rest
        objectEnd? fuel rest
      else
        (numberEnd? (c :: rest)).or <| (keywordEnd? "null" (c :: rest)).or <|
          (keywordEnd? "true" (c :: rest)).or (keywordEnd? "false" (c :: rest))
    | [] => none

def arrayEnd? : Nat → List Char → Option (List Char)
  | 0, _ => none
  | fuel + 1, cs =>
    match skip cs with
    | ',' :: rest =>
      match literalEnd? fuel (skip rest) with
      | some rest => arrayEnd? fuel rest
      | none => none
    | ']' :: rest => some rest
    | _ => none

def pairEnd? : Nat → List Char → Option (List Char)
  | 0, _ => none
  | fuel + 1, cs =>
    let key := match cs with
      | '"' :: rest => (quotedContent '"' rest).map Prod.snd
      | '\'' :: rest => (quotedContent '\'' rest).map Prod.snd
      | _ => none
    key.bind fun rest => (token ":" rest).bind fun (_, rest) => literalEnd? fuel (skip rest)

def objectEnd? : Nat → List Char → Option (List Char)
  | 0, _ => none
  | fuel + 1, cs =>
    match skip cs with
    | [] => none
    | c :: rest =>
      if c = ',' then
        match pairEnd? fuel (skip rest) with
        | some rest => objectEnd? fuel rest
        | none => none
      else if c = '\x7d' then some rest
      else none

end

/-- Single quotes become double quotes before the text is read as JSON. -/
def requoted : List Char → List Char
  | [] => []
  | '\\' :: '\'' :: rest => '\'' :: requoted rest
  | '"' :: rest => '\\' :: '"' :: requoted rest
  | c :: rest => c :: requoted rest

/-- A parameter that was recognised; a literal that is no JSON makes the whole template invalid. -/
inductive Found (α : Type) where
  | good (value : α)
  | bad

def literalValue (text : List Char) : Found Json :=
  let source := match text with
    | '\'' :: content => '"' :: (requoted content.dropLast ++ ['"'])
    | text => text
  match Json.read? (String.ofList source) with
  | some v => .good v.canonical
  | none => .bad

/-! ### Parameters

Reading is an option of a result: nothing where the form does not fit, and a bad result where it
fits but holds an invalid literal. -/

/-- A reserved word that is not part of a longer one. -/
def reserved (w : String) (cs : List Char) : Bool :=
  match word w cs with
  | some (_, rest) => endsName (skip rest)
  | none => false

def Found.map {α β : Type} (f : α → β) : Found α → Found β
  | .good a => .good (f a)
  | .bad => .bad

def Found.both {α β γ : Type} (f : α → β → γ) : Found α → Found β → Found γ
  | .good a, .good b => .good (f a b)
  | _, _ => .bad

/-- Parameters and named parameters in the order in which they were written. -/
structure Args where
  params : List Param
  hash : List (String × Param)

def Args.addParam (p : Param) (a : Args) : Args := { a with params := p :: a.params }

def Args.addHash (k : String) (p : Param) (a : Args) : Args := { a with hash := (k, p) :: a.hash }

mutual

def param : Nat → List Char → Option (Found Param × List Char)
  | 0, _ => none
  | fuel + 1, cs =>
    if reserved "as" cs || reserved "else" cs then none
    else
      match literalEnd? (cs.length + 1) cs with
      | some rest => some ((literalValue (spanned cs rest)).map Param.literal, rest)
      | none =>
        match path cs with
        | some (p, rest) => some (.good (.path p), rest)
        | none => subexpression fuel cs

def subexpression : Nat → List Char → Option (Found Param × List Char)
  | 0, _ => none
  | fuel + 1, cs =>
    match cs with
    | '(' :: rest =>
      let rest := skip rest
      let applied := (identifier rest).bind fun (name, r) =>
        (args fuel r).bind fun (a, r) => some (a.map fun a => Param.call name a.params a.hash, r)
      let named := (path rest).map fun (p, r) => (Found.good (Param.call p.raw [] []), r)
      (applied.or named).bind fun (p, r) => (token ")" r).map fun (_, r) => (p, r)
    | _ => none

/-- At least one parameter. -/
def args : Nat → List Char → Option (Found Args × List Char)
  | 0, _ => none
  | fuel + 1, cs =>
    let cs := skip cs
    match hashPair fuel cs with
    | some (pair, rest) =>
      match args fuel rest with
      | some (more, rest) => some (.both (fun (k, p) a => a.addHash k p) pair more, rest)
      | none => some (pair.map fun (k, p) => ⟨[], [(k, p)]⟩, rest)
    | none =>
      match param fuel cs with
      | some (p, rest) =>
        match args fuel rest with
        | some (more, rest) => some (.both (fun p a => a.addParam p) p more, rest)
        | none => some (p.map fun p => ⟨[p], []⟩, rest)
      | none => none

def hashPair : Nat → List Char → Option (Found (String × Param) × List Char)
  | 0, _ => none
  | fuel + 1, cs =>
    (identifier cs).bind fun (k, r) => (token "=" r).bind fun (_, r) =>
      (param fuel (skip r)).map fun (p, r) => (p.map fun p => (k, p), r)

end

def argsFuel (cs : List Char) : Nat := 4 * cs.length + 4

def args? (cs : List Char) : Option (Found Args × List Char) := args (argsFuel cs) cs

/-- Any number of parameters. -/
def someArgs (cs : List Char) : Found Args × List Char :=
  match args? cs with
  | some r => r
  | none => (.good ⟨[], []⟩, cs)

/-- The last of two named parameters of one name is kept. -/
def lastOfEach : List (String × Param) → List (String × Param)
  | [] => []
  | (k, p) :: rest => if rest.any (·.1 == k) then lastOfEach rest else (k, p) :: lastOfEach rest

def head (name : String) (blockParams : List String) (a : Args) : Head :=
  ⟨name, a.params, lastOfEach a.hash, blockParams, false⟩

/-- `as |name|` or `as |name name|`. -/
def blockParams : Read (List String) := fun cs => do
  let (_, rest) ← token "as" cs
  let (_, rest) ← token "|" rest
  let (first, rest) ← identifier (skip rest)
  let (second, rest) := match identifier (skip rest) with
    | some (name, rest) => ([name], rest)
    | none => ([], rest)
  let (_, rest) ← token "|" rest
  some (first :: second, rest)

/-- A helper name with any number of parameters and perhaps block parameters. -/
def line (cs : List Char) : Option (Found Head × List Char) := do
  let (name, rest) ← identifier (skip cs)
  let (a, rest) := someArgs rest
  let (names, rest) := match blockParams rest with
    | some r => r
    | none => ([], rest)
  some (a.map (head name names), rest)

/-- A name that stands for a value: a path or a call in parentheses. -/
def name? (cs : List Char) : Option (Found Param × List Char) :=
  let cs := skip cs
  (subexpression (argsFuel cs) cs).or <| (path cs).map fun (p, rest) => (.good (.path p), rest)

/-- A helper call, or else a name alone. -/
def expression (cs : List Char) : Option (Found TagKind × List Char) :=
  let call := (identifier (skip cs)).bind fun (name, r) =>
    (args? r).map fun (a, r) => (a.map fun a => TagKind.call (head name [] a), r)
  call.or <| (name? cs).map fun (p, r) => (p.map TagKind.value, r)

/-- Where a quoted name ends; a quote after a backslash belongs to the name. -/
def quotedNameEnd? : List Char → Option (List Char)
  | [] => none
  | '\'' :: rest => some rest
  | '\\' :: '\'' :: rest => quotedNameEnd? rest
  | _ :: rest => quotedNameEnd? rest

/-- The quotes stay part of the name, which is not empty. -/
def quotedName : Read String
  | '\'' :: rest =>
    match rest with
    | '\'' :: _ => none
    | _ => (quotedNameEnd? rest).map fun after =>
      (String.ofList (spanned ('\'' :: rest) after), after)
  | _ => none

def plainInsertName : Read String := fun cs => (run isInsertSymbol cs).or (quotedName cs)

def insertName (cs : List Char) : Option (Found InsertName × List Char) :=
  let cs := skip cs
  match plainInsertName cs with
  | some (name, rest) => some (.good (.plain name), rest)
  | none => (name? cs).map fun (p, rest) =>
    (p.map fun p => match p with
      | .path p => .plain p.raw
      | p => .computed p, rest)

def insertLine (make : InsertName → List Param → List (String × Param) → TagKind)
    (cs : List Char) : Option (Found TagKind × List Char) :=
  (insertName cs).map fun (name, rest) =>
    let (a, rest) := someArgs rest
    (.both (fun name a => make name a.params (lastOfEach a.hash)) name a, rest)

/-! ### Whole tags -/

/-- An optional tilde. -/
def tilde (cs : List Char) : Bool × List Char :=
  match token "~" cs with
  | some (_, rest) => (true, rest)
  | none => (false, cs)

/-- A tag between braces: the opening word, a tilde, a mark, the content, a tilde and the close. -/
def between (opening mark closing : String)
    (content : List Char → Option (Found TagKind × List Char)) (cs : List Char) :
    Option (Found Tag × List Char) := do
  let (_, rest) ← word opening cs
  let (before, rest) := tilde rest
  let (_, rest) ← token mark rest
  let (kind, rest) ← content rest
  let (after, rest) := tilde rest
  let (_, rest) ← token closing rest
  some (kind.map fun k => ⟨k, before, after⟩, rest)

def braces (n : Nat) (c : Char) : String := String.ofList (List.replicate n c)

def opening (n : Nat) : String := braces n '\x7b'

def closing (n : Nat) : String := braces n '\x7d'

def double (mark : String) (content : List Char → Option (Found TagKind × List Char)) :
    List Char → Option (Found Tag × List Char) :=
  between (opening 2) mark (closing 2) content

def onLine (make : Head → TagKind) (cs : List Char) : Option (Found TagKind × List Char) :=
  (line cs).map fun (h, rest) => (h.map make, rest)

/-- `else` or its short form, alone or with a helper of its own. -/
def otherwise (cs : List Char) : Option (Found Tag × List Char) :=
  ["else", "^"].findSome? fun mark =>
    (double mark (fun cs => some (.good .otherwise, cs)) cs).or
      (double mark (onLine .otherwiseCall) cs)

def bracketed (cs : List Char) : Option (Found TagKind × List Char) :=
  (expression cs).bind fun (kind, rest) =>
    (token (closing 1) rest).map fun (_, rest) => (kind, rest)

/-- Everything up to the first occurrence of `stop`, which is dropped. -/
def upTo (stop : List Char) : List Char → Option (List Char)
  | [] => none
  | c :: rest => (Text.afterChars? stop (c :: rest)).or (upTo stop rest)

def comment (cs : List Char) : Option (Found Tag × List Char) := do
  let (_, rest) ← word (opening 2 ++ "!") cs
  let long := (token "--" rest).bind fun (_, rest) => upTo ("--" ++ closing 2).toList rest
  let rest ← long.or (upTo (closing 2).toList rest)
  some (.good ⟨.comment, false, false⟩, rest)

def blockClose (cs : List Char) : Option (Found TagKind × List Char) :=
  (identifier (skip cs)).map fun (name, rest) =>
    let insertion := if name.toList.all isInsertSymbol then some name else none
    (.good (.close (some name) insertion), rest)

/-- The close of an insertion may leave its name out. -/
def insertClose (cs : List Char) : Option (Found TagKind × List Char) :=
  match plainInsertName (skip cs) with
  | some (name, rest) => some (.good (.close none (some name)), rest)
  | none => some (.good (.close none (some "")), cs)

/-- The tag at the front of a text that starts with two braces. -/
def read (cs : List Char) : Option (Found Tag × List Char) :=
  [otherwise,
    double "" expression,
    between (opening 3) "" (closing 3) expression,
    double (opening 1) bracketed,
    double "&" (fun cs => (name? cs).map fun (p, rest) => (p.map TagKind.value, rest)),
    double "#" (onLine .blockOpen),
    between (opening 4) "" (closing 4) (onLine .rawOpen),
    comment,
    double "*" (onLine .decorator),
    double "#" (fun cs => match token "*" cs with
      | some (_, rest) => onLine .decoratorOpen rest
      | none => none),
    double ">" (fun cs => insertLine .insertion cs),
    double "#" (fun cs => match token ">" cs with
      | some (_, rest) => insertLine .insertionOpen rest
      | none => none),
    double "/" blockClose,
    double "/" insertClose].findSome? fun form => form cs

/-- The closing tag of a raw block. -/
def readRawClose (cs : List Char) : Option (Found Tag × List Char) :=
  between (opening 4) "/" (closing 4) blockClose cs

end Tag

end StreamPipeline.Template
