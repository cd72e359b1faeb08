import ScenarioResults.Error
import ScenarioResults.Text.Blank
import ScenarioResults.Text.Digits

/-!
# Scenario ids

A scenario is known by a number that a signed 64-bit word holds. An id in an address is positive and
written in decimal digits, with blanks around it and a plus sign before it allowed.
-/

namespace ScenarioResults

structure ScenarioId where
  number : Int64
  deriving DecidableEq, Repr

namespace ScenarioId

def display (id : ScenarioId) : String := toString id.number.toInt

def maxNumber : Nat := 0x7FFFFFFFFFFFFFFF

/-- The id in an address. A refused text is reported as it was given, blanks and all. -/
def ofRoute (raw : String) : Except ViewError ScenarioId :=
  match Text.readNumeral maxNumber (Text.dropAround Text.isBlank raw.toList) with
  | .ok n => if 0 < n then .ok ⟨Int64.ofNat n⟩ else .error (.invalidScenario raw)
  | .error _ => .error (.invalidScenario raw)

end ScenarioId

end ScenarioResults
