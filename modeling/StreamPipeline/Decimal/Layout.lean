import StreamPipeline.Decimal.Shortest

/-! # Layout of decimals

How the digits of a number become text: where positional notation ends, and what an integral value
and the values that are no numbers look like.
-/

namespace StreamPipeline.Decimal

/-- The decisions of a number format. Positional notation is used for a leading digit at places
`least` to `greatest`, and always if there are no such bounds. -/
structure Layout where
  tie : Tie
  bounds : Option (Int × Int)
  wholeMark : String
  nan : String
  infinity : String

def digitText (ds : List Nat) : String := String.ofList (ds.map fun d => Char.ofNat (48 + d))

def zeros (n : Nat) : String := String.ofList (List.replicate n '0')

def positional (wholeMark : String) (d : Digits) : String :=
  let n := d.digits.length
  if d.point ≤ 0 then "0." ++ zeros (-d.point).toNat ++ digitText d.digits
  else
    let k := d.point.toNat
    if n ≤ k then digitText d.digits ++ zeros (k - n) ++ wholeMark
    else digitText (d.digits.take k) ++ "." ++ digitText (d.digits.drop k)

def scientific (d : Digits) : String :=
  let e := d.point - 1
  let head := digitText (d.digits.take 1)
  let tail := d.digits.drop 1
  let mantissa := if tail.isEmpty then head else head ++ "." ++ digitText tail
  if e < 0 then mantissa ++ "e-" ++ toString (-e).toNat
  else mantissa ++ "e+" ++ toString e.toNat

def Layout.digits (l : Layout) (d : Digits) : String :=
  match l.bounds with
  | none => positional l.wholeMark d
  | some (least, greatest) =>
    if least ≤ d.point - 1 ∧ d.point - 1 ≤ greatest then positional l.wholeMark d
    else scientific d

def sign (negative : Bool) : String := if negative then "-" else ""

def Layout.parts (l : Layout) : Parts → String
  | .nan => l.nan
  | .infinity negative => sign negative ++ l.infinity
  | .zero negative => sign negative ++ "0" ++ l.wholeMark
  | .finite negative m q lowest => sign negative ++ l.digits (shortest l.tie m q lowest)

def Layout.write (l : Layout) (x : Float) : String := l.parts (.ofFloat x)

/-- The form of JSON: a fraction or an exponent always shows that the number is no integer. -/
def json : Layout :=
  { tie := .toEven, bounds := some (-5, 15), wholeMark := ".0", nan := "null", infinity := "null" }

/-- The plain form: positional whatever the size, and nothing after an integral value. -/
def plain : Layout :=
  { tie := .toEven, bounds := none, wholeMark := "", nan := "NaN", infinity := "inf" }

end StreamPipeline.Decimal
