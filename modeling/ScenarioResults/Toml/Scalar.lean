import ScenarioResults.Decimal.Read
import ScenarioResults.Text.Percent
import ScenarioResults.Toml.Moment
import ScenarioResults.Toml.Value

/-!
# Bare scalars of TOML

A scalar without quotes is a truth value, a whole number, a binary number or a moment. Digits may be
grouped by single underscores, each between two digits, and a whole part has no leading zero. Whole
numbers that fit no signed 64-bit word are out of range, and so are those that are too large for a
binary number of double width.
-/

namespace ScenarioResults.Toml

open Text Decimal

namespace Scalar

/-- Digits of a class without the underscores between them, if there is at least one digit. -/
def ungrouped? (isDigit : Char → Bool) : List Char → Option (List Char)
  | [] => none
  | [c] => if isDigit c then some [c] else none
  | c :: '_' :: d :: rest =>
    if isDigit c then (ungrouped? isDigit (d :: rest)).map (c :: ·) else none
  | c :: d :: rest =>
    if isDigit c then (ungrouped? isDigit (d :: rest)).map (c :: ·) else none

/-- The digits of a whole part: a zero stands alone. -/
def wholeDigits? (cs : List Char) : Option (List Char) :=
  match cs with
  | '0' :: _ :: _ => none
  | _ => ungrouped? Char.isDigit cs

def isWordInteger (n : Int) : Bool := -0x8000000000000000 ≤ n && n < 0x8000000000000000

def signed (negative : Bool) (n : Nat) : Int := if negative then -Int.ofNat n else Int.ofNat n

def valueIn (base : Nat) (cs : List Char) : Nat :=
  cs.foldl (fun n c => base * n + (hexValue? c).getD 0) 0

def isDigitIn (base : Nat) (c : Char) : Bool := (hexValue? c).any fun d => d < base

def baseOf? : Char → Option Nat
  | 'x' => some 16
  | 'o' => some 8
  | 'b' => some 2
  | _ => none

def integer? (cs : List Char) : Option Int :=
  match cs with
  | '-' :: rest => (wholeDigits? rest).map fun digits => signed true (digitsOnto 0 digits)
  | '+' :: rest => (wholeDigits? rest).map fun digits => signed false (digitsOnto 0 digits)
  | '0' :: mark :: rest => do
    let base ← baseOf? mark
    let digits ← ungrouped? (isDigitIn base) rest
    some (Int.ofNat (valueIn base digits))
  | _ => (wholeDigits? cs).map fun digits => signed false (digitsOnto 0 digits)

def fractionDigits? : List Char → Option (List Char × List Char)
  | '.' :: rest => do
    let inFraction (c : Char) : Bool := c.isDigit || c == '_'
    let digits ← ungrouped? Char.isDigit (rest.takeWhile inFraction)
    some (digits, rest.dropWhile inFraction)
  | cs => some ([], cs)

def isExponentMark (c : Char) : Bool := c == 'e' || c == 'E'

def exponentDigits? : List Char → Option Int
  | [] => some 0
  | mark :: rest =>
    if isExponentMark mark then
      let (negative, cs) := splitSign rest
      (ungrouped? Char.isDigit cs).map fun digits => signed negative (digitsOnto 0 digits)
    else none

/-- A number without its sign: digits, and at least one of a fraction and an exponent. One that is too
large is infinite. -/
def decimal? (negative : Bool) (cs : List Char) : Option Float := do
  let inWhole (c : Char) : Bool := c.isDigit || c == '_'
  let whole ← wholeDigits? (cs.takeWhile inWhole)
  let rest := cs.dropWhile inWhole
  if rest.isEmpty then none
  let (fraction, rest) ← fractionDigits? rest
  let exponent ← exponentDigits? rest
  some (Binary64.ofDecimal negative (digitsOnto 0 (whole ++ fraction))
    (exponent - Int.ofNat fraction.length))

/-- Infinity or no number, by name. -/
def namedFloat? (negative : Bool) (cs : List Char) : Option Float :=
  if cs = ['i', 'n', 'f'] then some (Binary64.nearest negative (Nat.pow 10 400) 1)
  else if cs = ['n', 'a', 'n'] then some (0.0 / 0.0)
  else none

def ofInteger (n : Int) : Value := if isWordInteger n then .integer n else .outOfRange

def ofDecimal (x : Float) : Value := if x.isInf then .outOfRange else .float x

def float? (cs : List Char) : Option Value :=
  let (negative, rest) := splitSign cs
  (namedFloat? negative rest).map .float <|> (decimal? negative rest).map ofDecimal

end Scalar

def Value.ofScalar? (word : String) : Option Value :=
  let cs := word.toList
  if word = "true" then some (.boolean true)
  else if word = "false" then some (.boolean false)
  else (Scalar.integer? cs).map Scalar.ofInteger
    <|> Scalar.float? cs
    <|> (Moment.spelling? cs).map .moment

end ScenarioResults.Toml
