import Mathlib.Logic.Function.Iterate
import ScenarioResults.Sample.Results
import ScenarioResults.Proofs.Text.Percent

/-!
# Words drawn from different seeds

No two states are stepped to one state and no two words are mixed to one word: the multiplier is odd, and
a word is known from its mixture with itself shifted. So generators that are apart once stay apart and
draw different words all along (`seeds_draw_apart`).
-/

namespace ScenarioResults.Sample

namespace Generator

/-! ### Stepping and mixing lose nothing -/

/-- The multiplier is odd, so it has an inverse. -/
def inverse : UInt64 := 13877824140714322085

theorem advance_injective : Function.Injective advance := by
  intro x y same
  have products : x * multiplier = y * multiplier := (UInt64.add_left_inj increment).mp same
  have unit : multiplier * inverse = 1 := by decide
  calc x = x * multiplier * inverse := by rw [UInt64.mul_assoc, unit, UInt64.mul_one]
    _ = y * multiplier * inverse := by rw [products]
    _ = y := by rw [UInt64.mul_assoc, unit, UInt64.mul_one]

/-- A word is known from its sum with a change of it, if the change respects sums and leaves no word but
zero as it is. -/
theorem xor_injective {change : UInt64 → UInt64}
    (additive : ∀ x y, change (x ^^^ y) = change x ^^^ change y)
    (moves : ∀ x, change x = x → x = 0) : Function.Injective fun x => x ^^^ change x := by
  intro x y same
  have still : change (x ^^^ y) = x ^^^ y := by
    calc change (x ^^^ y) = x ^^^ (x ^^^ change x) ^^^ change y := by
          rw [additive, ← UInt64.xor_assoc, UInt64.xor_self, UInt64.zero_xor]
      _ = x ^^^ (y ^^^ change y) ^^^ change y := congrArg (x ^^^ · ^^^ change y) same
      _ = x ^^^ y := by
          rw [UInt64.xor_assoc, UInt64.xor_assoc, UInt64.xor_self, UInt64.xor_zero]
  exact UInt64.xor_eq_zero_iff.mp (moves _ still)

theorem eq_zero_of_shiftRight {x shift : UInt64} (shifts : 0 < shift.toNat % 64)
    (still : x >>> shift = x) : x = 0 := by
  have value : x.toNat / 2 ^ (shift.toNat % 64) = x.toNat := by
    rw [← Nat.shiftRight_eq_div_pow, ← UInt64.toNat_shiftRight, still]
  rcases Nat.eq_zero_or_pos x.toNat with zero | positive
  · exact UInt64.toNat_inj.mp (zero.trans UInt64.toNat_zero.symm)
  · have smaller := Nat.div_lt_self positive (Nat.one_lt_two_pow (Nat.ne_of_gt shifts))
    omega

theorem eq_zero_of_shiftLeft {x : UInt64} (still : x <<< 7 = x) : x = 0 := by
  have value : x.toNat * 128 % UInt64.size = x.toNat := by
    have shifted := UInt64.toNat_shiftLeft x 7
    rw [still, Nat.shiftLeft_eq] at shifted
    exact shifted.symm
  have multiple : UInt64.size ∣ x.toNat * 127 := by
    have whole := Nat.div_add_mod (x.toNat * 128) UInt64.size
    refine ⟨x.toNat * 128 / UInt64.size, ?_⟩
    rw [value] at whole
    generalize UInt64.size * (x.toNat * 128 / UInt64.size) = multiple at whole ⊢
    omega
  -- The factor is odd, so all of the word's size divides the word.
  have odd : Nat.Coprime UInt64.size 127 := by decide
  have zero := Nat.eq_zero_of_dvd_of_lt (odd.dvd_of_dvd_mul_right multiple) x.toNat_lt
  exact UInt64.toNat_inj.mp (zero.trans UInt64.toNat_zero.symm)

theorem mix_injective : Function.Injective mix := by
  have right {shift : UInt64} (shifts : 0 < shift.toNat % 64) :
      Function.Injective fun x => x ^^^ (x >>> shift) :=
    xor_injective (fun _ _ => UInt64.shiftRight_xor) fun _ => eq_zero_of_shiftRight shifts
  have left : Function.Injective fun x : UInt64 => x ^^^ (x <<< 7) :=
    xor_injective (fun _ _ => UInt64.shiftLeft_xor) fun _ => eq_zero_of_shiftLeft
  have first : Function.Injective fun x : UInt64 => x ^^^ (x >>> 13) := right (by decide)
  have last : Function.Injective fun x : UInt64 => x ^^^ (x >>> 17) := right (by decide)
  exact last.comp (left.comp first)

/-! ### Drawing on and on -/

/-- The generator that is left when a word is drawn. -/
def next (generator : Generator) : Generator := generator.draw.2

/-- The word that is drawn when so many were drawn before it. -/
def wordAfter (n : Nat) (generator : Generator) : UInt64 := (next^[n] generator).draw.1

theorem state_injective : Function.Injective state := by
  intro first second same
  cases first
  cases second
  exact congrArg mk same

theorem word_injective : Function.Injective fun generator : Generator => generator.draw.1 :=
  (mix_injective.comp advance_injective).comp state_injective

theorem next_injective : Function.Injective next := by
  intro first second same
  have states : advance first.state = advance second.state := congrArg state same
  exact state_injective (advance_injective states)

/-- Generators that draw the same word anywhere are the same. -/
theorem wordAfter_injective (n : Nat) : Function.Injective (wordAfter n) :=
  word_injective.comp (next_injective.iterate n)

end Generator

/-! ### What is made of the first word -/

/-- The number that is written in hexadecimal digits. -/
def hexNumber (cs : List Char) : Nat := cs.foldl (fun n c => 16 * n + (Text.hexValue? c).getD 0) 0

theorem hexNumber_concat (cs : List Char) (c : Char) :
    hexNumber (cs ++ [c]) = 16 * hexNumber cs + (Text.hexValue? c).getD 0 := by
  rw [hexNumber, List.foldl_append]
  rfl

theorem hexValue?_digitChar {n : Nat} (below : n < 16) :
    Text.hexValue? (Nat.digitChar n) = some n := by
  have all : ∀ n < 16, Text.hexValue? (Nat.digitChar n) = some n := by decide
  exact all n below

theorem hexNumber_toDigits (n : Nat) : hexNumber (Nat.toDigits 16 n) = n := by
  induction n using Nat.strongRecOn with
  | ind n ih =>
    rcases Nat.lt_or_ge n 16 with small | large
    · have digit : (Text.hexValue? (Nat.digitChar n)).getD 0 = n := by
        rw [hexValue?_digitChar small, Option.getD_some]
      rw [Nat.toDigits_of_lt_base small, ← List.nil_append [n.digitChar], hexNumber_concat, digit]
      exact Nat.zero_add n
    · have last : n % 16 < 16 := Nat.mod_lt n (by decide)
      rw [Nat.toDigits_of_base_le (by decide) large, hexNumber_concat, ih (n / 16) (by omega),
        hexValue?_digitChar last, Option.getD_some, Nat.div_add_mod]

theorem hexNumber_paddedHex (width n : Nat) : hexNumber (paddedHex width n).toList = n := by
  have zeros (k : Nat) (cs : List Char) :
      hexNumber (List.replicate k '0' ++ cs) = hexNumber cs := by
    induction k with
    | zero => rfl
    | succ k ih => exact ih
  rw [paddedHex, String.toList_ofList, zeros, hexNumber_toDigits]

theorem paddedHex_injective (width : Nat) : Function.Injective (paddedHex width) := by
  intro first second same
  have numbers := congrArg (fun text : String => hexNumber text.toList) same
  simpa only [hexNumber_paddedHex] using numbers

/-- The name that a description gives its root. -/
def rootId? (description : PlotDescription) : Option Json.Value :=
  description.value.member? "root_id"

/-- The root of a description is named by the first word that is drawn for it. -/
theorem rootId?_plotDescription (key : ViewKey) (arguments : List PlotArgument)
    (generator : Generator) :
    rootId? (plotDescription key arguments generator).1 =
      some (Json.Value.string (paddedHex 16 generator.draw.1.toNat)) := rfl

/-- Seeds that are neither zero nor the one whose state would be zero are known from their states. -/
theorem start_inj {first second : UInt64} (filled : first ≠ 0) (alsoFilled : second ≠ 0)
    (kept : first ≠ 0x9E3779B97F4A7C15) (alsoKept : second ≠ 0x9E3779B97F4A7C15) :
    start first = start second ↔ first = second := by
  have state {seed : UInt64} (filled : seed ≠ 0) (kept : seed ≠ 0x9E3779B97F4A7C15) :
      start seed = ⟨seed ^^^ 0x9E3779B97F4A7C15⟩ := by
    have nonzero : seed ^^^ 0x9E3779B97F4A7C15 ≠ 0 := mt UInt64.xor_eq_zero_iff.mp kept
    rw [start, if_neg filled, Generator.ofSeed, if_neg nonzero]
  rw [state filled kept, state alsoFilled alsoKept, Generator.mk.injEq, UInt64.xor_left_inj]

example : start 0 = start 1 := rfl

/-- Stepping and mixing keep all words apart. So two different seeds, neither of which is replaced by
another one, draw different words at every place, and the first descriptions that they make have roots of
different names, whatever is asked for. -/
theorem seeds_draw_apart :
    Function.Injective Generator.advance ∧ Function.Injective Generator.mix ∧
      ∀ first second : UInt64, first ≠ 0 → second ≠ 0 → first ≠ 0x9E3779B97F4A7C15 →
        second ≠ 0x9E3779B97F4A7C15 → first ≠ second →
          (∀ n, (start first).wordAfter n ≠ (start second).wordAfter n) ∧
            ∀ key arguments otherKey otherArguments, ∃ root otherRoot,
              rootId? (plotDescription key arguments (start first)).1 = some (.string root) ∧
                rootId? (plotDescription otherKey otherArguments (start second)).1 =
                  some (.string otherRoot) ∧ root ≠ otherRoot := by
  refine ⟨Generator.advance_injective, Generator.mix_injective, ?_⟩
  intro first second filled alsoFilled kept alsoKept different
  have apart : start first ≠ start second := mt (start_inj filled alsoFilled kept alsoKept).mp different
  refine ⟨fun n => (Generator.wordAfter_injective n).ne apart, ?_⟩
  intro key arguments otherKey otherArguments
  refine ⟨_, _, rootId?_plotDescription key arguments _,
    rootId?_plotDescription otherKey otherArguments _, ?_⟩
  refine (paddedHex_injective 16).ne fun same => ?_
  exact Generator.word_injective.ne apart (UInt64.toNat_inj.mp same)

/-- The least seed and the greatest one. -/
theorem seeds_draw_apart_extreme :
    (1 : UInt64) ≠ 0 ∧ (0xFFFFFFFFFFFFFFFF : UInt64) ≠ 0 ∧ (1 : UInt64) ≠ 0x9E3779B97F4A7C15 ∧
      (0xFFFFFFFFFFFFFFFF : UInt64) ≠ 0x9E3779B97F4A7C15 ∧ (1 : UInt64) ≠ 0xFFFFFFFFFFFFFFFF ∧
      (∀ n, (start 1).wordAfter n ≠ (start 0xFFFFFFFFFFFFFFFF).wordAfter n) ∧
      ∃ root otherRoot,
        rootId? (plotDescription .energyPlot [] (start 1)).1 = some (.string root) ∧
          rootId? (plotDescription .costPlot [none] (start 0xFFFFFFFFFFFFFFFF)).1 =
            some (.string otherRoot) ∧ root ≠ otherRoot := by
  have filled : (1 : UInt64) ≠ 0 := by decide
  have alsoFilled : (0xFFFFFFFFFFFFFFFF : UInt64) ≠ 0 := by decide
  have kept : (1 : UInt64) ≠ 0x9E3779B97F4A7C15 := by decide
  have alsoKept : (0xFFFFFFFFFFFFFFFF : UInt64) ≠ 0x9E3779B97F4A7C15 := by decide
  have different : (1 : UInt64) ≠ 0xFFFFFFFFFFFFFFFF := by decide
  obtain ⟨words, roots⟩ := seeds_draw_apart.2.2 _ _ filled alsoFilled kept alsoKept different
  exact ⟨filled, alsoFilled, kept, alsoKept, different, words, roots _ _ _ _⟩

end ScenarioResults.Sample
