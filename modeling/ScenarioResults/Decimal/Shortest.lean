import ScenarioResults.Decimal.Binary64

/-!
# The fewest digits that read back

All quotients that round to one binary number form an interval around it. The digits written for the
number are those of the coarsest decimal grid that meets the interval, and of its points the one
nearest to the number. Only the two neighbours of the number on a grid can be nearest, so only they
are tried. Two points equally near are a matter of the format that asks.
-/

namespace ScenarioResults.Decimal

/-- Significant digits with the place of the point: the value is a point, the digits, and a power of
ten with exponent `point`. -/
structure Significant where
  digits : List Char
  point : Int
  deriving DecidableEq, Repr

/-- Which of two equally near points of a grid is written. -/
inductive Tie where
  | even
  | away
  deriving DecidableEq, Repr

/-- A positive binary number with the ends of the interval of what rounds to it, all three over one
denominator. The ends belong to the interval if the mantissa is even. -/
structure Interval where
  value : Nat
  lower : Nat
  upper : Nat
  denominator : Nat
  closed : Bool
  deriving Repr

/-- The number below a power of two is half as far from it as the number above. -/
def Interval.of (mantissa : Nat) (exponent : Int) : Interval :=
  let below := if mantissa = Nat.pow 2 52 ∧ Binary64.minExponent < exponent then 1 else 2
  let factor := Nat.pow 2 (exponent - 2).toNat
  { value := 4 * mantissa * factor
    lower := (4 * mantissa - below) * factor
    upper := (4 * mantissa + 2) * factor
    denominator := Nat.pow 2 (2 - exponent).toNat
    closed := mantissa % 2 == 0 }

/-- The greatest exponent of a power of ten that does not exceed a positive quotient. -/
def magnitude (num den : Nat) : Int :=
  if den ≤ num then Int.ofNat ((Nat.toDigits 10 (num / den)).length - 1)
  else
    let places := (Nat.toDigits 10 (den / num)).length
    if den ≤ num * Nat.pow 10 (places - 1) then -Int.ofNat (places - 1) else -Int.ofNat places

/-- The point of the grid of multiples of ten to the `exponent` that is written for the number, if
one lies in the interval. -/
def Interval.onGrid (i : Interval) (tie : Tie) (exponent : Int) : Option Nat :=
  let unit := i.denominator * Nat.pow 10 exponent.toNat
  let scale := Nat.pow 10 (-exponent).toNat
  let value := i.value * scale
  let below := value / unit
  let inside (c : Nat) : Bool :=
    if i.closed then i.lower * scale ≤ c * unit && c * unit ≤ i.upper * scale
    else i.lower * scale < c * unit && c * unit < i.upper * scale
  match inside below, inside (below + 1) with
  | false, false => none
  | true, false => some below
  | false, true => some (below + 1)
  | true, true =>
    let down := value - below * unit
    let up := (below + 1) * unit - value
    if down < up then some below
    else if up < down then some (below + 1)
    else match tie with
      | .even => some (if below % 2 = 0 then below else below + 1)
      | .away => some (below + 1)

/-- The digits of the coarsest grid with a point in the interval. Seventeen digits suffice. -/
def shortest (tie : Tie) (mantissa : Nat) (exponent : Int) : Significant :=
  let i := Interval.of mantissa exponent
  let top := magnitude i.value i.denominator
  let found := (List.range 17).findSome? fun n =>
    (i.onGrid tie (top - Int.ofNat n)).map fun c => (c, top - Int.ofNat n)
  let (c, place) := found.getD (i.value / i.denominator, 0)
  let written := Nat.toDigits 10 c
  { digits := (written.reverse.dropWhile (· == '0')).reverse
    point := Int.ofNat written.length + place }

end ScenarioResults.Decimal
