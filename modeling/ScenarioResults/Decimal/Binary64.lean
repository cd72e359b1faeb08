/-!
# Binary numbers of double width

A finite number is a whole mantissa times a power of two. This module takes a number apart and finds
the number nearest to a given quotient, a quotient halfway between two numbers going to the one with
the even mantissa.
-/

namespace ScenarioResults.Decimal

/-- A binary number taken apart. A finite one is the mantissa times two to the exponent, signed. -/
inductive Binary64 where
  | nan
  | infinite (negative : Bool)
  | finite (negative : Bool) (mantissa : Nat) (exponent : Int)
  deriving DecidableEq, Repr

namespace Binary64

/-- The least exponent, which zero and the numbers too small for a full mantissa share. -/
def minExponent : Int := -1074

def ofFloat (x : Float) : Binary64 :=
  let bits := x.toBits.toNat
  let negative := bits / Nat.pow 2 63 == 1
  let biased := bits / Nat.pow 2 52 % Nat.pow 2 11
  let fraction := bits % Nat.pow 2 52
  if biased = 2047 then
    if fraction = 0 then .infinite negative else .nan
  else if biased = 0 then .finite negative fraction minExponent
  else .finite negative (fraction + Nat.pow 2 52) (Int.ofNat biased - 1075)

/-- The whole number nearest to a quotient, an even one where two are equally near. -/
def roundHalfEven (num den : Nat) : Nat :=
  let q := num / den
  let twice := 2 * (num % den)
  if twice < den then q
  else if den < twice then q + 1
  else if q % 2 = 0 then q else q + 1

/-- The bits of the number nearest to a positive quotient. The mantissa is added to the shifted
exponent, so that one that rounds up to the next power of two carries into it. -/
def nearestBits (num den : Nat) : Nat :=
  let guess : Int := max minExponent (Int.ofNat num.log2 - Int.ofNat den.log2 - 53)
  let scaled (e : Int) : Nat × Nat := (num * Nat.pow 2 (-e).toNat, den * Nat.pow 2 e.toNat)
  let e := if (scaled guess).1 < Nat.pow 2 53 * (scaled guess).2 then guess else guess + 1
  min ((e - minExponent).toNat * Nat.pow 2 52 + roundHalfEven (scaled e).1 (scaled e).2)
    (2047 * Nat.pow 2 52)

def nearest (negative : Bool) (num den : Nat) : Float :=
  let magnitude := if num = 0 ∨ den = 0 then 0 else nearestBits num den
  Float.ofBits (UInt64.ofNat ((if negative then Nat.pow 2 63 else 0) + magnitude))

/-- The number nearest to `digits` times ten to the `exponent`. Powers of ten out of all range are
not multiplied out: below 10^-400 all is zero, from 10^400 on all is infinite. -/
def ofDecimal (negative : Bool) (digits : Nat) (exponent : Int) : Float :=
  let size : Int := Int.ofNat (Nat.toDigits 10 digits).length + exponent
  if digits = 0 ∨ size < -400 then nearest negative 0 1
  else if 400 < size then nearest negative (Nat.pow 10 400) 1
  else nearest negative (digits * Nat.pow 10 exponent.toNat) (Nat.pow 10 (-exponent).toNat)

end Binary64

end ScenarioResults.Decimal
