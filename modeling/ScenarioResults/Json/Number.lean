import ScenarioResults.Decimal.Layout
import ScenarioResults.Json.Value
import ScenarioResults.Text.Digits

/-!
# Numbers in JSON text

A numeral has no leading zeros, a digit on each side of its point, and digits in its exponent. One
without point and exponent is whole if a 64-bit word holds it. Any other is worth its leading
digits, as many as an unsigned word holds, multiplied or divided by a power of ten in binary
arithmetic; it is out of range if that overflows.
-/

namespace ScenarioResults.Json

open Text Decimal

/-- The parts of a numeral. `places` are the digits behind the point, none if there is no point. -/
structure Numeral where
  negative : Bool
  whole : List Char
  places : Option (List Char)
  exponent : Option (Bool × List Char)
  deriving DecidableEq, Repr

namespace Numeral

def splitPlaces : List Char → Option (Option (List Char) × List Char)
  | '.' :: rest =>
    let places := rest.takeWhile Char.isDigit
    if places.isEmpty then none else some (some places, rest.dropWhile Char.isDigit)
  | cs => some (none, cs)

def exponent? : List Char → Option (Option (Bool × List Char))
  | [] => some none
  | c :: rest =>
    if c = 'e' ∨ c = 'E' then
      let (negative, digits) := match rest with
        | '-' :: digits => (true, digits)
        | '+' :: digits => (false, digits)
        | digits => (false, digits)
      if digits.isEmpty || !digits.all Char.isDigit then none else some (some (negative, digits))
    else none

def ofText? (cs : List Char) : Option Numeral := do
  let (negative, cs) := match cs with
    | '-' :: rest => (true, rest)
    | _ => (false, cs)
  let whole := cs.takeWhile Char.isDigit
  if whole.isEmpty || (whole.head? == some '0' && whole.length != 1) then none
  let (places, rest) ← splitPlaces (cs.dropWhile Char.isDigit)
  let exponent ← exponent? rest
  some { negative, whole, places, exponent }

/-- The leading digits that an unsigned word holds when they are written after `value`, and how many
digits are left over. -/
def leading (value : Nat) : List Char → Nat × Nat
  | [] => (value, 0)
  | c :: rest =>
    let next := 10 * value + (c.toNat - '0'.toNat)
    if next ≤ maxWord then leading next rest else (value, rest.length + 1)

def powerOfTen (n : Nat) : Float := Binary64.ofDecimal false 1 (Int.ofNat n)

/-- A word multiplied or divided by a power of ten. An exponent below the least power of ten is
reached in two divisions; after a third nothing is left. -/
def scaled (significand : Nat) (exponent : Int) : Option Float :=
  let x := Binary64.nearest false significand 1
  if significand = 0 then some x
  else if 308 < exponent then none
  else if 0 ≤ exponent then
    let y := x * powerOfTen exponent.toNat
    if y.isInf then none else some y
  else if -308 ≤ exponent then some (x / powerOfTen (-exponent).toNat)
  else if -616 ≤ exponent then some (x / powerOfTen 308 / powerOfTen (-exponent - 308).toNat)
  else some (Binary64.nearest false 0 1)

/-- The digits that count with the power of ten that belongs to them. Digits of the whole part that
a word cannot hold raise the power, digits behind the point that it cannot hold are dropped. -/
def significand (numeral : Numeral) : Nat × Int :=
  let (value, beyond) := leading 0 numeral.whole
  let places := numeral.places.getD []
  let (all, dropped) := leading value places
  (all, Int.ofNat beyond - Int.ofNat (places.length - dropped))

def magnitude? (numeral : Numeral) : Option Float :=
  let (value, power) := numeral.significand
  match numeral.exponent with
  | none => scaled value power
  | some (negative, digits) =>
    let e := Int.ofNat (digitsOnto 0 digits)
    if negative then scaled value (power - e) else scaled value (power + e)

def number? (numeral : Numeral) : Option Number :=
  let n := digitsOnto 0 numeral.whole
  let value : Int := if numeral.negative then -Int.ofNat n else Int.ofNat n
  let bare := numeral.places.isNone && numeral.exponent.isNone
  if bare && fitsWord value && !(numeral.negative && n == 0) then some (.whole value)
  else numeral.magnitude?.map fun x => .binary (if numeral.negative then -x else x)

end Numeral

/-- A binary number in the fewest digits, a tie going to the even one: positional with a point from
10^-5 to 10^16, else with an exponent. What is no number is null. -/
def binaryText (x : Float) : List Char :=
  match Binary64.ofFloat x with
  | .nan | .infinite _ => ['n', 'u', 'l', 'l']
  | .finite negative 0 _ => signed negative ['0', '.', '0']
  | .finite negative m e =>
    let s := shortest .even m e
    signed negative <|
      if s.point < -4 ∨ 16 < s.point then s.scientific
      else if Int.ofNat s.digits.length ≤ s.point then s.positional ++ ['.', '0']
      else s.positional

def Number.text : Number → List Char
  | .whole n => (toString n).toList
  | .binary x => binaryText x

def Number.toFloat : Number → Float
  | .whole n => Binary64.nearest (decide (n < 0)) n.natAbs 1
  | .binary x => x

end ScenarioResults.Json
