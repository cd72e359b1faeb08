/-!
# Drawing words from a seed

The state is one 64-bit word. A step multiplies and adds, the word drawn is the new state mixed by
three shifts. All arithmetic is modulo 2^64.
-/

namespace ScenarioResults.Sample

structure Generator where
  state : UInt64
  deriving DecidableEq, Repr

namespace Generator

def multiplier : UInt64 := 6364136223846793005

def increment : UInt64 := 1442695040888963407

/-- The state of a seed. The one seed that would give zero gets a state of its own. -/
def ofSeed (seed : UInt64) : Generator :=
  let state := seed ^^^ 0x9E3779B97F4A7C15
  ⟨if state = 0 then 0xA4093822299F31D0 else state⟩

def advance (state : UInt64) : UInt64 := state * multiplier + increment

def mix (word : UInt64) : UInt64 :=
  let word := word ^^^ (word >>> 13)
  let word := word ^^^ (word <<< 7)
  word ^^^ (word >>> 17)

def draw (generator : Generator) : UInt64 × Generator :=
  let state := advance generator.state
  (mix state, ⟨state⟩)

/-- A number below `n`. Nothing is drawn where there is no choice. -/
def below (n : Nat) (generator : Generator) : Nat × Generator :=
  if n ≤ 1 then (0, generator)
  else
    let (word, generator) := generator.draw
    (word.toNat % n, generator)

theorem below_lt {n : Nat} (positive : 0 < n) (generator : Generator) :
    (generator.below n).1 < n := by
  unfold below
  split
  · exact positive
  · exact Nat.mod_lt _ positive

end Generator

end ScenarioResults.Sample
