import ScenarioResults.Text.Ranges

/-!
# Blank characters

The property White_Space decides what surrounds a value without belonging to it. It is wider than
the ASCII blanks (the no-break space and the ideographic space have it) and narrower than "prints
nothing" (the zero-width space has it not).
-/

namespace ScenarioResults.Text

def blankRanges : List (Nat × Nat) :=
  [(0x9, 0xd), (0x20, 0x20), (0x85, 0x85), (0xa0, 0xa0), (0x1680, 0x1680), (0x2000, 0x200a),
   (0x2028, 0x2029), (0x202f, 0x202f), (0x205f, 0x205f), (0x3000, 0x3000)]

def isBlank (c : Char) : Bool := inRanges blankRanges c

def dropEndWhile (p : Char → Bool) (cs : List Char) : List Char :=
  (cs.reverse.dropWhile p).reverse

def dropAround (p : Char → Bool) (cs : List Char) : List Char :=
  dropEndWhile p (cs.dropWhile p)

def trim (s : String) : String := String.ofList (dropAround isBlank s.toList)

/-- Nothing but blank characters, or nothing at all. -/
def isAllBlank (s : String) : Bool := s.toList.all isBlank

def dropTrailingSlashes (s : String) : String := String.ofList (dropEndWhile (· == '/') s.toList)

end ScenarioResults.Text
