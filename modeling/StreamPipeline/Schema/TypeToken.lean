import StreamPipeline.Text.Basic
import StreamPipeline.Text.Quoted

/-! # Tokens of type texts

A type text is cut into lexemes. Each keeps the characters it was read from and the blanks before
it, so that the lexemes tile the text and any run of them can be given back as it was written.
-/

namespace StreamPipeline

inductive TypeToken where
  | word (upper : String)
  | ident (name : String)
  | number (n : UInt32)
  | literal
  | marker (upper : String)
  | lparen
  | rparen
  | comma
  | lt
  | gt
deriving Repr, DecidableEq

namespace TypeToken

/-- The token as error texts show it. -/
def describe : TypeToken → String
  | word w => "Word(" ++ Text.quoted w ++ ")"
  | ident name => "Ident(" ++ Text.quoted name ++ ")"
  | number n => "Number(" ++ toString n.toNat ++ ")"
  | literal => "Str"
  | marker m => "Marker(" ++ Text.quoted m ++ ")"
  | lparen => "LParen"
  | rparen => "RParen"
  | comma => "Comma"
  | lt => "Lt"
  | gt => "Gt"

end TypeToken

/-- A token, the characters it was read from, and the blanks in front of them. -/
structure Lexeme where
  gap : List Char
  text : List Char
  token : TypeToken
deriving Repr, DecidableEq

/-- The reasons for which a type text is no type. -/
inductive TypeError where
  | unterminatedIdentifier
  | unterminatedLiteral
  | unterminatedMarker
  | numberTooLarge
  | unexpectedCharacter (c : Char)
  | expected (token : TypeToken) (found : Option TypeToken)
  | expectedNumber
  | precisionOutOfRange (n : UInt32)
  | expectedTypeName (found : Option TypeToken)
  | expectedRowBracket
  | expectedFieldName
  | unterminatedRow
  | unknownMarker (name : String)
  | trailing (token : TypeToken)
deriving Repr, DecidableEq

namespace TypeError

def message : TypeError → String
  | unterminatedIdentifier => "unterminated quoted identifier"
  | unterminatedLiteral => "unterminated string literal"
  | unterminatedMarker => "unterminated time attribute marker"
  | numberTooLarge => "invalid number: number too large to fit in target type"
  | unexpectedCharacter c => "unexpected character '" ++ String.singleton c ++ "'"
  | expected t (some found) => "expected " ++ t.describe ++ ", found " ++ found.describe
  | expected t none => "expected " ++ t.describe ++ ", found end"
  | expectedNumber => "expected a number"
  | precisionOutOfRange n => "precision " ++ toString n.toNat ++ " out of range"
  | expectedTypeName (some found) => "expected a type name, found " ++ found.describe
  | expectedTypeName none => "expected a type name"
  | expectedRowBracket => "expected '<' or '(' after ROW"
  | expectedFieldName => "expected a ROW field name"
  | unterminatedRow => "unterminated ROW type"
  | unknownMarker name => "unknown marker '*" ++ name ++ "*'"
  | trailing t => "unexpected trailing " ++ t.describe

end TypeError

namespace Lexeme

/-- The blanks between tokens: space, tab, line feed, form feed and carriage return. -/
def isGap (c : Char) : Bool :=
  c == ' ' || c == '\t' || c == '\n' || c == '\x0c' || c == '\r'

/-- The first byte of a character's encoding, read as a character of its own. -/
def leadByte (c : Char) : Char :=
  let n := c.toNat
  if n < 0x80 then c
  else if n < 0x800 then Char.ofNat (0xC0 + n / 0x40)
  else if n < 0x10000 then Char.ofNat (0xE0 + n / 0x1000)
  else Char.ofNat (0xF0 + n / 0x40000)

/-- Reads up to the closing quote. A doubled quote stands for one; the result holds the content,
the characters read, and what follows. -/
def untilQuote (quote : Char) : List Char → Option (List Char × List Char × List Char)
  | [] => none
  | [c] => if c = quote then some ([], [c], []) else none
  | c :: d :: rest =>
    if c = quote then
      if d = quote then
        (untilQuote quote rest).map fun (content, read, r) =>
          (quote :: content, quote :: quote :: read, r)
      else some ([], [c], d :: rest)
    else
      (untilQuote quote (d :: rest)).map fun (content, read, r) => (c :: content, c :: read, r)

def isWordChar (c : Char) : Bool := c.isAlphanum || c == '_'

/-- One token at the start of the text: its characters, itself, and the rest. -/
def next : List Char → Except TypeError (Option (List Char × TypeToken × List Char))
  | [] => .ok none
  | c :: rest =>
    if c = '(' then .ok (some ([c], .lparen, rest))
    else if c = ')' then .ok (some ([c], .rparen, rest))
    else if c = ',' then .ok (some ([c], .comma, rest))
    else if c = '<' then .ok (some ([c], .lt, rest))
    else if c = '>' then .ok (some ([c], .gt, rest))
    else if c = '\x60' then
      match untilQuote c rest with
      | none => .error .unterminatedIdentifier
      | some (name, read, r) => .ok (some (c :: read, .ident (String.ofList name), r))
    else if c = '\'' then
      match untilQuote c rest with
      | none => .error .unterminatedLiteral
      | some (_, read, r) => .ok (some (c :: read, .literal, r))
    else if c = '*' then
      match Text.splitFirstChars '*' rest with
      | none => .error .unterminatedMarker
      | some (name, r) =>
        .ok (some (c :: (name ++ ['*']), .marker (Text.upperAscii (String.ofList name)), r))
    else if c.isDigit then
      let digits := c :: rest.takeWhile Char.isDigit
      match Text.unsignedUpTo? 4294967295 digits with
      | none => .error .numberTooLarge
      | some n => .ok (some (digits, .number (UInt32.ofNat n), rest.dropWhile Char.isDigit))
    else if c.isAlpha || c == '_' then
      let word := c :: rest.takeWhile isWordChar
      .ok (some (word, .word (Text.upperAscii (String.ofList word)), rest.dropWhile isWordChar))
    else .error (.unexpectedCharacter (leadByte c))

theorem untilQuote_append {quote : Char} {cs content read rest : List Char}
    (h : untilQuote quote cs = some (content, read, rest)) : cs = read ++ rest := by
  fun_induction untilQuote quote cs generalizing content read rest with
  | case1 => simp at h
  | case2 => simp_all
  | case3 => simp at h
  | case4 r ih =>
    obtain ⟨⟨u, v, w⟩, hu, he⟩ := Option.map_eq_some_iff.1 h
    simp only [Prod.mk.injEq] at he
    obtain ⟨-, rfl, rfl⟩ := he
    simp [ih hu]
  | case5 =>
    simp only [Option.some.injEq, Prod.mk.injEq] at h
    obtain ⟨-, rfl, rfl⟩ := h
    rfl
  | case6 c d r hc ih =>
    obtain ⟨⟨u, v, w⟩, hu, he⟩ := Option.map_eq_some_iff.1 h
    simp only [Prod.mk.injEq] at he
    obtain ⟨-, rfl, rfl⟩ := he
    simp [ih hu]

end Lexeme

namespace Lexeme

/-- The lexemes of a text. Each step reads at least one character, so the length of the text is
fuel enough. -/
def scan : Nat → List Char → Except TypeError (List Lexeme)
  | 0, _ => .ok []
  | fuel + 1, cs =>
    match next (cs.dropWhile isGap) with
    | .error e => .error e
    | .ok none => .ok []
    | .ok (some (text, token, rest)) =>
      match scan fuel rest with
      | .error e => .error e
      | .ok lexemes => .ok (⟨cs.takeWhile isGap, text, token⟩ :: lexemes)

def ofText (raw : String) : Except TypeError (List Lexeme) := scan raw.length raw.toList

/-- The text of a run of lexemes, without the blanks before the first. -/
def spelled : List Lexeme → List Char
  | [] => []
  | l :: rest => l.text ++ rest.flatMap fun m => m.gap ++ m.text

end Lexeme

end StreamPipeline
