/-!
# Tables of characters

A class of characters is a list of ranges of their numbers, ends included. A table gives every
character of a range the same value.
-/

namespace ScenarioResults.Text

def inRanges (ranges : List (Nat × Nat)) (c : Char) : Bool :=
  ranges.any fun range => range.1 ≤ c.toNat && c.toNat ≤ range.2

def valueIn? {α : Type} (table : List (Nat × Nat × α)) (c : Char) : Option α :=
  (table.find? fun entry => entry.1 ≤ c.toNat && c.toNat ≤ entry.2.1).map fun entry => entry.2.2

end ScenarioResults.Text
