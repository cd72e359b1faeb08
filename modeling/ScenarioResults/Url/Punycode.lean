/-!
# Punycode

The characters of a label beyond ASCII, written after the others in letters and digits. They go in
one after the other in the order of their numbers. Each is told by how many steps there are from the
place of the one before it, if the places for one number are walked through before those for the
next. The steps are written in digits whose weights adapt to their size.
-/

namespace ScenarioResults.Url.Punycode

def alphabet : List Char := "abcdefghijklmnopqrstuvwxyz0123456789".toList

def digitChar (d : Nat) : Char := alphabet.getD d 'a'

def digitValue? (c : Char) : Option Nat := alphabet.findIdx? (· == c.toLower)

/-- The digit below which a number ends, which is from 1 to 26 and grows from place to place. -/
def threshold (place bias : Nat) : Nat := max 1 (min 26 (place - bias))

/-- The bias for steps of a size: a whole row of digits for each time that the size is too large. -/
def settle (size : Nat) : Nat :=
  if 455 < size then 36 + settle (size / 35) else 36 * size / (size + 38)

/-- The bias after a number of steps among `count` characters. The first number is damped most. -/
def adapt (steps count : Nat) (first : Bool) : Nat :=
  let damped := if first then steps / 700 else steps / 2
  settle (damped + damped / count)

def digits (bias place steps : Nat) : List Char :=
  let t := threshold place bias
  if steps < t then [digitChar steps]
  else digitChar (t + (steps - t) % (36 - t)) :: digits bias (place + 36) ((steps - t) / (36 - t))
termination_by steps
decreasing_by
  have positive : 1 ≤ threshold place bias := Nat.le_max_left _ _
  exact Nat.lt_of_le_of_lt (Nat.div_le_self _ _) (by omega)

/-! ### Encoding -/

/-- A character beyond ASCII by its number, and its place among those there when it goes in. -/
structure Insertion where
  number : Nat
  place : Nat

/-- The insertions of the characters behind `before`. Of what stands to the left, the characters
with no higher number are there by then. -/
def insertionsAfter (before : List Char) : List Char → List Insertion
  | [] => []
  | c :: rest =>
    let later := insertionsAfter (before ++ [c]) rest
    if c.toNat < 128 then later
    else ⟨c.toNat, before.countP fun other => other.toNat ≤ c.toNat⟩ :: later

/-- The insertions in the order of their numbers, of equal numbers from left to right. -/
def insertions (label : List Char) : List Insertion :=
  (insertionsAfter [] label).mergeSort fun a b => a.number ≤ b.number

/-- The digits of insertions, from the place at which the walk is with `count` characters there. -/
def walk (bias number place count : Nat) (first : Bool) : List Insertion → List Char
  | [] => []
  | next :: rest =>
    let steps := (next.number - number) * (count + 1) + next.place - place
    digits bias 36 steps
      ++ walk (adapt steps (count + 1) first) next.number (next.place + 1) (count + 1) false rest

def encode (label : List Char) : List Char :=
  let basic := label.filter fun c => c.toNat < 128
  let start := if basic.isEmpty then [] else basic ++ ['-']
  start ++ walk 72 128 0 basic.length true (insertions label)

/-! ### Decoding -/

/-- What has been read of a row of numbers. A number under way has a weight. -/
structure Decoder where
  label : List Char
  bias : Nat := 72
  number : Nat := 128
  place : Nat := 0
  first : Bool := true
  steps : Nat := 0
  weight : Nat := 1
  digit : Nat := 36

def Decoder.insert (decoder : Decoder) (steps : Nat) : Option Decoder :=
  let count := decoder.label.length + 1
  let number := decoder.number + (decoder.place + steps) / count
  let place := (decoder.place + steps) % count
  if number.isValidChar then
    some
      { label := decoder.label.insertIdx place (Char.ofNat number)
        bias := adapt steps count decoder.first
        number, place := place + 1, first := false }
  else none

def maxWeight : Nat := 0xffffffff

def Decoder.step (decoder : Decoder) (c : Char) : Option Decoder := do
  let value ← digitValue? c
  let steps := decoder.steps + value * decoder.weight
  let t := threshold decoder.digit decoder.bias
  let weight := decoder.weight * (36 - t)
  if value < t then decoder.insert steps
  else if maxWeight < weight then none
  else some { decoder with steps, weight, digit := decoder.digit + 36 }

/-- The label that was encoded. What stands before the last hyphen is taken as it is. -/
def decode? (encoded : List Char) : Option (List Char) := do
  let tail := (encoded.reverse.takeWhile (· != '-')).reverse
  let head := encoded.take (encoded.length - tail.length)
  if head.any fun c => 128 ≤ c.toNat then none
  let decoder ← tail.foldlM Decoder.step { label := head.dropLast }
  if decoder.digit = 36 then some decoder.label else none

end ScenarioResults.Url.Punycode
