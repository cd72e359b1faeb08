import Mathlib.Data.List.DropRight
import ScenarioResults.Decimal.Shortest

/-!
# The digits that are written

A point of a grid that is written for a number lies in the interval of what rounds to the number, so it
is not zero and its digits do not begin with one. That is what a reader of the text relies on
(`shortest_neat`).
-/

namespace ScenarioResults.Decimal

/-! ### Whole numbers -/

theorem digitChar_ne_zero {n : Nat} (positive : 0 < n) (small : n < 10) :
    Nat.digitChar n ≠ '0' := by
  have all : ∀ n < 10, 0 < n → Nat.digitChar n ≠ '0' := by decide
  exact all n small positive

/-- A positive whole number is written without leading zeros. -/
theorem head?_toDigits {n : Nat} (positive : 0 < n) : (Nat.toDigits 10 n).head? ≠ some '0' := by
  induction n using Nat.strongRecOn with
  | ind n ih =>
    by_cases small : n < 10
    · rw [Nat.toDigits_of_lt_base small]
      simpa using digitChar_ne_zero positive small
    · rw [Nat.toDigits_of_base_le (by decide) (by omega),
        List.head?_append_of_ne_nil _ Nat.toDigits_ne_nil]
      exact ih (n / 10) (by omega) (by omega)

theorem isDigit_of_toDigits {n : Nat} {c : Char} (member : c ∈ Nat.toDigits 10 n) : c.isDigit :=
  Nat.isDigit_of_mem_toDigits (by decide) (by decide) member

/-! ### Significant digits -/

/-- Digits that do not begin with a zero. Where there are none, the point is after the first place. -/
structure Significant.Neat (s : Significant) : Prop where
  digit : ∀ c ∈ s.digits, c.isDigit
  leading : s.digits.head? ≠ some '0'
  bare : s.digits = [] → s.point = 1

theorem Interval.lower_pos {mantissa : Nat} (positive : 0 < mantissa) (exponent : Int) :
    0 < (Interval.of mantissa exponent).lower := by
  have factor : 0 < Nat.pow 2 (exponent - 2).toNat := Nat.pow_pos (by decide)
  simp only [Interval.of]
  refine Nat.mul_pos ?_ factor
  split <;> omega

/-- A point of the grid of multiples of ten to the exponent lies in the interval. -/
def Interval.holds (i : Interval) (exponent : Int) (c : Nat) : Bool :=
  let place := c * (i.denominator * Nat.pow 10 exponent.toNat)
  let scale := Nat.pow 10 (-exponent).toNat
  if i.closed then i.lower * scale ≤ place && place ≤ i.upper * scale
  else i.lower * scale < place && place < i.upper * scale

/-- A point that is written for a number rounds to it. -/
theorem Interval.holds_of_onGrid {i : Interval} {tie : Tie} {exponent : Int} {c : Nat}
    (found : i.onGrid tie exponent = some c) : i.holds exponent c = true := by
  unfold onGrid at found
  dsimp only at found
  split at found
  next => cases found
  next below _ =>
    obtain rfl := Option.some.inj found
    exact below
  next _ above =>
    obtain rfl := Option.some.inj found
    exact above
  next below above =>
    split at found
    next => obtain rfl := Option.some.inj found; exact below
    next =>
      split at found
      next => obtain rfl := Option.some.inj found; exact above
      next =>
        cases tie with
        | even =>
          obtain rfl := Option.some.inj found
          split
          · exact below
          · exact above
        | away => obtain rfl := Option.some.inj found; exact above

theorem Interval.onGrid_pos {i : Interval} (positive : 0 < i.lower) {tie : Tie} {exponent : Int}
    {c : Nat} (found : i.onGrid tie exponent = some c) : 0 < c := by
  have scale : 0 < i.lower * Nat.pow 10 (-exponent).toNat :=
    Nat.mul_pos positive (Nat.pow_pos (by decide))
  have inside := holds_of_onGrid found
  refine Nat.pos_of_ne_zero ?_
  rintro rfl
  simp only [holds, Nat.zero_mul] at inside
  split at inside
  · simp only [Bool.and_eq_true, decide_eq_true_eq] at inside
    omega
  · simp only [Bool.and_eq_true, decide_eq_true_eq] at inside
    omega

theorem neat_of_toDigits {c : Nat} (positive : 0 < c) (place : Int) :
    Significant.Neat
      { digits := ((Nat.toDigits 10 c).reverse.dropWhile (· == '0')).reverse
        point := Int.ofNat (Nat.toDigits 10 c).length + place } := by
  have kept : (Nat.toDigits 10 c).rdropWhile (· == '0') <+: Nat.toDigits 10 c :=
    List.rdropWhile_prefix _ _
  obtain ⟨zeros, whole⟩ := kept
  have filled : (Nat.toDigits 10 c).rdropWhile (· == '0') ≠ [] := by
    intro none
    have all := List.rdropWhile_eq_nil_iff.mp none
    cases digits : Nat.toDigits 10 c with
    | nil => exact Nat.toDigits_ne_nil digits
    | cons d rest =>
      have zero : d = '0' := by simpa using all d (by simp [digits])
      exact head?_toDigits positive (by simp [digits, zero])
  refine ⟨?_, ?_, fun none => (filled none).elim⟩
  · intro d member
    exact isDigit_of_toDigits (whole ▸ List.mem_append_left _ member)
  · intro first
    refine head?_toDigits positive ?_
    rw [← whole, List.head?_append_of_ne_nil _ filled]
    exact first

/-- The digits that are written for a positive number do not begin with a zero. -/
theorem shortest_neat (tie : Tie) {mantissa : Nat} (positive : 0 < mantissa) (exponent : Int) :
    (shortest tie mantissa exponent).Neat := by
  unfold shortest
  dsimp only
  generalize searched : List.findSome? _ (List.range 17) = found
  cases found with
  | some point =>
    obtain ⟨n, -, written⟩ := List.exists_of_findSome?_eq_some searched
    obtain ⟨c, onGrid, rfl⟩ := Option.map_eq_some_iff.mp written
    exact neat_of_toDigits (Interval.onGrid_pos (Interval.lower_pos positive exponent) onGrid) _
  | none =>
    dsimp only [Option.getD_none]
    rcases Nat.eq_zero_or_pos ((Interval.of mantissa exponent).value /
      (Interval.of mantissa exponent).denominator) with zero | filled
    · rw [zero, Nat.toDigits_zero]
      exact ⟨by simp, by simp, fun _ => rfl⟩
    · exact neat_of_toDigits filled 0

end ScenarioResults.Decimal
