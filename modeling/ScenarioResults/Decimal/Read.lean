import ScenarioResults.Decimal.Binary64
import ScenarioResults.Text.Digits

/-!
# Numbers as people write them

A number is an optional sign and either one of the words for infinity and for no number, in any
case, or digits with an optional point among, before or after them and an optional exponent. There
is at least one digit, and in an exponent as well. The value is the binary number nearest to what is
written.
-/

namespace ScenarioResults.Decimal

open Text

/-- Digits with a point somewhere among them: the digits as one whole number and how many of them
stand behind the point. -/
structure Numeral where
  digits : Nat
  places : Nat
  deriving DecidableEq, Repr

def Numeral.split (cs : List Char) : Option (Numeral × List Char) :=
  let whole := cs.takeWhile Char.isDigit
  let rest := cs.dropWhile Char.isDigit
  let fraction := match rest with
    | '.' :: after => after.takeWhile Char.isDigit
    | _ => []
  let rest := match rest with
    | '.' :: after => after.dropWhile Char.isDigit
    | _ => rest
  if whole.isEmpty && fraction.isEmpty then none
  else some (⟨digitsOnto (digitsOnto 0 whole) fraction, fraction.length⟩, rest)

def splitSign : List Char → Bool × List Char
  | '-' :: rest => (true, rest)
  | '+' :: rest => (false, rest)
  | cs => (false, cs)

def exponent? : List Char → Option Int
  | [] => some 0
  | c :: rest =>
    if c == 'e' || c == 'E' then
      let (negative, cs) := splitSign rest
      if cs.isEmpty || !cs.all Char.isDigit then none
      else
        let n := Int.ofNat (digitsOnto 0 cs)
        some (if negative then -n else n)
    else none

def read? (s : String) : Option Float :=
  let (negative, cs) := splitSign s.toList
  let word := String.ofList (cs.map Char.toLower)
  if word == "inf" || word == "infinity" then some (Binary64.nearest negative (Nat.pow 10 400) 1)
  else if word == "nan" then some (0.0 / 0.0)
  else do
    let (numeral, rest) ← Numeral.split cs
    let e ← exponent? rest
    some (Binary64.ofDecimal negative numeral.digits (e - Int.ofNat numeral.places))

end ScenarioResults.Decimal
