import StreamPipeline.Text.Basic

/-! # Reading decimals

Two readings of a decimal as a double. The nearest one is exact; the scaled one rounds the digits
first and then multiplies or divides by a rounded power of ten.
-/

namespace StreamPipeline.Decimal

/-- `m * 10 ^ e` to the nearest double. Exponents out of all proportion are decided at once. -/
def nearest (m : Nat) (e : Int) : Float :=
  let size := ((Nat.toDigits 10 m).length : Int) + e
  if m = 0 then 0
  else if 400 < size then 1.0 / 0.0
  else if size < -400 then 0
  else if 0 ≤ e then Float.ofScientific m false e.toNat
  else Float.ofScientific m true (-e).toNat

def powerOfTen (e : Nat) : Float := Float.ofScientific 1 false e

/-- Division by the greatest power of ten, again and again, until the exponent is in reach. -/
def scaleDown (f : Float) (e : Nat) : Nat → Float
  | 0 => 0
  | fuel + 1 =>
    if e ≤ 308 then f / powerOfTen e
    else if f == 0 then f
    else scaleDown (f / powerOfTen 308) (e - 308) fuel

/-- `m * 10 ^ e` scaled in doubles; nothing if the result is out of range. -/
def scaled? (m : Nat) (e : Int) : Option Float :=
  let f := Float.ofNat m
  if e < 0 then some (scaleDown f (-e).toNat 4)
  else if 308 < e then if m = 0 then some f else none
  else
    let r := f * powerOfTen e.toNat
    if r.isInf then none else some r

/-- A run of digits cut off at the front, and the rest. -/
def takeDigits (cs : List Char) : List Char × List Char :=
  (cs.takeWhile Char.isDigit, cs.dropWhile Char.isDigit)

/-- An exponent with its mark, or nothing if there is none. -/
def exponent? : List Char → Option Int
  | [] => some 0
  | c :: rest =>
    if c = 'e' ∨ c = 'E' then
      let (negative, digits) := match rest with
        | '-' :: digits => (true, digits)
        | '+' :: digits => (false, digits)
        | digits => (false, digits)
      if digits.isEmpty || !digits.all Char.isDigit then none
      else
        let n : Int := Text.digitsValueUpTo 100000 digits
        some (if negative then -n else n)
    else none

/-- Digits with an optional point and exponent. -/
def unsigned? (cs : List Char) : Option Float :=
  let (whole, rest) := takeDigits cs
  let (fraction, rest) := match rest with
    | '.' :: rest => takeDigits rest
    | rest => ([], rest)
  if whole.isEmpty && fraction.isEmpty then none
  else (exponent? rest).map fun e =>
    nearest (Text.digitsValue (whole ++ fraction)) (e - fraction.length)

/-- A decimal, an infinity or no number at all, in any letter case and with an optional sign. -/
def parse? (cs : List Char) : Option Float :=
  let (negative, body) := match cs with
    | '-' :: body => (true, body)
    | '+' :: body => (false, body)
    | body => (false, body)
  let word := Text.lowerAscii (String.ofList body)
  let magnitude :=
    if word == "inf" || word == "infinity" then some (1.0 / 0.0)
    else if word == "nan" then some (0.0 / 0.0)
    else unsigned? body
  magnitude.map fun x => if negative then -x else x

end StreamPipeline.Decimal
