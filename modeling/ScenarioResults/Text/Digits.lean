/-!
# Whole numbers in decimal digits

Reading is by ASCII digits only, with a bound on the value. The first character at which the text
stops being a number within the bound decides the error.
-/

namespace ScenarioResults.Text

inductive NumeralError where
  | nothing
  | notADigit
  | tooLarge
  deriving DecidableEq, Repr

def NumeralError.message : NumeralError → String
  | .nothing => "cannot parse integer from empty string"
  | .notADigit => "invalid digit found in string"
  | .tooLarge => "number too large to fit in target type"

def digit? (c : Char) : Option Nat := if c.isDigit then some (c.toNat - '0'.toNat) else none

/-- The value that `value` grows to when these digits are written after it. -/
def digitsOnto (value : Nat) (cs : List Char) : Nat :=
  cs.foldl (fun n c => 10 * n + (c.toNat - '0'.toNat)) value

def readDigits (bound : Nat) : Nat → List Char → Except NumeralError Nat
  | value, [] => .ok value
  | value, c :: rest =>
    match digit? c with
    | none => .error .notADigit
    | some d =>
      if 10 * value + d ≤ bound then readDigits bound (10 * value + d) rest else .error .tooLarge

/-- A whole number of at most `bound`: an optional plus sign and at least one digit. -/
def readNumeral (bound : Nat) : List Char → Except NumeralError Nat
  | [] => .error .nothing
  | ['+'] => .error .notADigit
  | '+' :: rest => readDigits bound 0 rest
  | cs => readDigits bound 0 cs

def maxWord : Nat := 0xFFFFFFFFFFFFFFFF

end ScenarioResults.Text
