import ScenarioResults.Decimal.Shortest

/-!
# How significant digits are laid out

Positional layout fills up with zeros as far as the point; exponent layout puts the point after the
first digit. A written number is never given more digits than it needs to be read back.
-/

namespace ScenarioResults.Decimal

def zeros (n : Nat) : List Char := List.replicate n '0'

def Significant.positional (s : Significant) : List Char :=
  if s.point ≤ 0 then '0' :: '.' :: (zeros (-s.point).toNat ++ s.digits)
  else if Int.ofNat s.digits.length ≤ s.point then
    s.digits ++ zeros (s.point.toNat - s.digits.length)
  else s.digits.take s.point.toNat ++ '.' :: s.digits.drop s.point.toNat

def Significant.scientific (s : Significant) : List Char :=
  let exponent := s.point - 1
  let fraction := s.digits.drop 1
  s.digits.take 1 ++ (if fraction.isEmpty then [] else '.' :: fraction) ++
    'e' :: (if exponent < 0 then '-' else '+') :: Nat.toDigits 10 exponent.natAbs

def signed (negative : Bool) (cs : List Char) : List Char := if negative then '-' :: cs else cs

/-- The number as a person writes it: positional whatever its size, without a point where it is
whole, a tie of digits going up. -/
def display (x : Float) : String :=
  match Binary64.ofFloat x with
  | .nan => "NaN"
  | .infinite negative => String.ofList (signed negative ['i', 'n', 'f'])
  | .finite negative 0 _ => String.ofList (signed negative ['0'])
  | .finite negative m e => String.ofList (signed negative (shortest .away m e).positional)

end ScenarioResults.Decimal
