/-! # Shortest decimals

The fewest decimal digits that still lie closer to a binary number than to its neighbours. The
number is `m * 2 ^ q`; all arithmetic is exact.
-/

namespace StreamPipeline.Decimal

/-- A decimal `0.d₁d₂… * 10 ^ point`. -/
structure Digits where
  digits : List Nat
  point : Int
deriving Repr, DecidableEq

/-- Which of two equally near candidates is taken. -/
inductive Tie where
  | toEven
  | up
deriving Repr, DecidableEq

def digitList (n : Nat) : List Nat := (Nat.toDigits 10 n).map fun c => c.toNat - 48

/-- The least `k` with `num / den < 10 ^ k`, for a positive quotient. -/
def magnitude (num den : Nat) : Int :=
  if den ≤ num then ((Nat.toDigits 10 (num / den)).length : Int)
  else
    let places := (Nat.toDigits 10 (den / num)).length
    if num * Nat.pow 10 (places - 1) < den then 1 - (places : Int) else 2 - (places : Int)

/-- A quotient of naturals for `c * 2 ^ e / 10 ^ g`. -/
def onGrid (c : Nat) (e g : Int) : Nat × Nat :=
  (c * Nat.pow 2 e.toNat * Nat.pow 10 (-g).toNat, Nat.pow 2 (-e).toNat * Nat.pow 10 g.toNat)

/-- The points around a number that round back to it: a quarter grid keeps the ends whole. -/
structure Interval where
  low : Nat
  mid : Nat
  high : Nat
  exponent : Int
  closed : Bool

/-- `lowest` holds where the neighbour below is only half as far. -/
def Interval.ofBinary (m : Nat) (q : Int) (lowest : Bool) : Interval :=
  { low := 4 * m - (if lowest then 1 else 2)
    mid := 4 * m
    high := 4 * m + 2
    exponent := q - 2
    closed := m % 2 == 0 }

/-- The point of the grid `10 ^ g` that lies in the interval and is nearest to its middle. -/
def Interval.hit? (i : Interval) (tie : Tie) (g : Int) : Option Nat :=
  let (num, den) := onGrid i.mid i.exponent g
  let (low, _) := onGrid i.low i.exponent g
  let (high, _) := onGrid i.high i.exponent g
  let inside (d : Nat) : Bool :=
    if i.closed then decide (low ≤ d * den) && decide (d * den ≤ high)
    else decide (low < d * den) && decide (d * den < high)
  let below := num / den
  let above := below + 1
  match inside below, inside above with
  | false, false => none
  | true, false => some below
  | false, true => some above
  | true, true =>
    let down := num - below * den
    let up := above * den - num
    if down < up then some below
    else if up < down then some above
    else match tie with
      | .up => some above
      | .toEven => if below % 2 = 0 then some below else some above

def Interval.search (i : Interval) (tie : Tie) (size : Int) : Nat → Nat → Digits
  | 0, n =>
    let (num, den) := onGrid i.mid i.exponent (size - n)
    ⟨digitList (num / den), size⟩
  | fuel + 1, n =>
    match i.hit? tie (size - n) with
    | some d =>
      let ds := digitList d
      ⟨ds, size + ((ds.length : Int) - n)⟩
    | none => i.search tie size fuel (n + 1)

def dropTrailingZeros (ds : List Nat) : List Nat := (ds.reverse.dropWhile (· == 0)).reverse

/-- The shortest digits of the positive number `m * 2 ^ q`. -/
def shortest (tie : Tie) (m : Nat) (q : Int) (lowest : Bool) : Digits :=
  let i := Interval.ofBinary m q lowest
  let (num, den) := onGrid i.mid i.exponent 0
  let found := i.search tie (magnitude num den) 17 1
  { found with digits := dropTrailingZeros found.digits }

/-- A double taken apart. -/
inductive Parts where
  | nan
  | infinity (negative : Bool)
  | zero (negative : Bool)
  | finite (negative : Bool) (m : Nat) (q : Int) (lowest : Bool)

/-- The least significand of a normal double, which is 2 to the power of 52. -/
def hiddenBit : Nat := 4503599627370496

def Parts.ofBits (bits : Nat) : Parts :=
  let negative := bits / hiddenBit / 2048 % 2 == 1
  let exponent : Nat := bits / hiddenBit % 2048
  let fraction : Nat := bits % hiddenBit
  if exponent = 2047 then if fraction = 0 then .infinity negative else .nan
  else if exponent = 0 then
    if fraction = 0 then .zero negative else .finite negative fraction (-1074) false
  else .finite negative (hiddenBit + fraction) ((exponent : Int) - 1075)
    (fraction == 0 && decide (1 < exponent))

def Parts.ofFloat (x : Float) : Parts := .ofBits x.toBits.toNat

end StreamPipeline.Decimal
