import ScenarioResults.Duration
import ScenarioResults.Proofs.Text.Numeral

/-!
# What a written span stands for

A span is read exactly if it is written as a numeral and the mark of a unit, and then it is so many of
that unit (`read_as_written`). The marks overlap, but a numeral ends in a digit, so there is one place
only where a text can be taken apart. Nothing wraps around: minutes that are too many are cut down.
-/

namespace ScenarioResults

open Text

namespace TimeUnit

theorem of_split? {cs number : List Char} {unit : TimeUnit} (apart : split? cs = some (unit, number)) :
    cs = number ++ unit.mark := by
  have back : cs = cs.reverse.reverse := (List.reverse_reverse cs).symm
  unfold split? at apart
  split at apart
  next rest reversed =>
    cases apart
    rw [back, reversed]
    simp [mark]
  next rest reversed =>
    cases apart
    rw [back, reversed]
    simp [mark]
  next rest reversed =>
    cases apart
    rw [back, reversed]
    simp [mark]
  next => cases apart

/-- The last digit keeps an `m` of minutes apart from the mark of milliseconds. -/
theorem split?_numeral {cs : List Char} {n : Nat} (numeral : Numeral cs n) (unit : TimeUnit) :
    split? (cs ++ unit.mark) = some (unit, cs) := by
  refine split?_append_mark unit fun _ last => ?_
  exact absurd (numeral.isDigit_last last) (by decide)

end TimeUnit

namespace Duration

/-- A text of so many units, and the span that it stands for. More minutes than a word of seconds can
hold are all the seconds that it can hold. -/
inductive Written : List Char → Nat → Duration → Prop
  | milliseconds {cs : List Char} {n : Nat} (numeral : Numeral cs n) :
      Written (cs ++ ['m', 's']) n ⟨n⟩
  | seconds {cs : List Char} {n : Nat} (numeral : Numeral cs n) : Written (cs ++ ['s']) n ⟨1000 * n⟩
  | minutes {cs : List Char} {n : Nat} (numeral : Numeral cs n) (fits : 60 * n ≤ maxWord) :
      Written (cs ++ ['m']) n ⟨1000 * (60 * n)⟩
  | tooManyMinutes {cs : List Char} {n : Nat} (numeral : Numeral cs n) (beyond : maxWord < 60 * n) :
      Written (cs ++ ['m']) n ⟨1000 * maxWord⟩

theorem written_iff {text : List Char} {n : Nat} {span : Duration} :
    Written text n span ↔
      ∃ cs unit, text = cs ++ TimeUnit.mark unit ∧ Numeral cs n ∧ span = unit.span n := by
  constructor
  · intro written
    cases written with
    | milliseconds numeral => exact ⟨_, .millisecond, rfl, numeral, rfl⟩
    | seconds numeral => exact ⟨_, .second, rfl, numeral, rfl⟩
    | minutes numeral fits =>
      exact ⟨_, .minute, rfl, numeral, by rw [TimeUnit.span, Nat.min_eq_left fits]⟩
    | tooManyMinutes numeral beyond =>
      have cut := Nat.min_eq_right (Nat.le_of_lt beyond)
      exact ⟨_, .minute, rfl, numeral, by rw [TimeUnit.span, cut]⟩
  · rintro ⟨cs, unit, rfl, numeral, rfl⟩
    cases unit with
    | millisecond => exact .milliseconds numeral
    | second => exact .seconds numeral
    | minute =>
      rw [TimeUnit.span]
      rcases Nat.lt_or_ge maxWord (60 * n) with beyond | fits
      · rw [Nat.min_eq_right (Nat.le_of_lt beyond)]
        exact .tooManyMinutes numeral beyond
      · rw [Nat.min_eq_left fits]
        exact .minutes numeral fits

theorem read_eq_ok_iff {raw : String} {span : Duration} :
    read raw = .ok span ↔ ∃ n ≤ maxWord, Written raw.toList n span := by
  simp only [written_iff]
  constructor
  · intro done
    unfold read at done
    split at done
    next => cases done
    next unit number apart =>
      split at done
      next n known =>
        cases done
        obtain ⟨numeral, within⟩ := readNumeral_eq_ok_iff.mp known
        exact ⟨n, within, number, unit, TimeUnit.of_split? apart, numeral, rfl⟩
      next => cases done
  · rintro ⟨n, within, cs, unit, text, numeral, rfl⟩
    have known : readNumeral maxWord cs = .ok n := readNumeral_eq_ok_iff.mpr ⟨numeral, within⟩
    simp only [read, text, TimeUnit.split?_numeral numeral unit, known]

/-- A span is no less than the number that it is written with, and a word of seconds holds it. -/
theorem Written.bounds {text : List Char} {n : Nat} {span : Duration} (written : Written text n span)
    (within : n ≤ maxWord) : n ≤ span.milliseconds ∧ span.milliseconds ≤ 1000 * maxWord := by
  cases written <;> dsimp only <;> omega

theorem Written.milliseconds_eq_zero_iff {text : List Char} {n : Nat} {span : Duration}
    (written : Written text n span) : span.milliseconds = 0 ↔ n = 0 := by
  cases written with
  | tooManyMinutes numeral beyond =>
    have some : maxWord ≠ 0 := by decide
    dsimp only
    omega
  | _ => dsimp only; omega

/-- A text is read exactly if it is written as a span with a number that a word can hold, and as that
span. It is no time only for the number zero, and no number is so great that the span falls back
below it. -/
theorem read_as_written (raw : String) :
    (∀ span, read raw = .ok span ↔ ∃ n ≤ maxWord, Written raw.toList n span) ∧
      ∀ n ≤ maxWord, ∀ span, Written raw.toList n span →
        (span.milliseconds = 0 ↔ n = 0) ∧ n ≤ span.milliseconds ∧
          span.milliseconds ≤ 1000 * maxWord :=
  ⟨fun _ => read_eq_ok_iff,
    fun _ within _ written => ⟨written.milliseconds_eq_zero_iff, written.bounds within⟩⟩

/-- The first number of minutes that has more seconds than a word can hold. -/
theorem read_as_written_cut :
    Written "+307445734561825861m".toList 307445734561825861 ⟨1000 * maxWord⟩ ∧
      read "+307445734561825861m" = .ok ⟨1000 * maxWord⟩ ∧
      307445734561825861 ≤ 1000 * maxWord := by
  have numeral : Numeral "+307445734561825861".toList 307445734561825861 :=
    @Numeral.signed "307445734561825861".toList (by decide) (List.all_eq_true.mp (by decide))
  have written : Written "+307445734561825861m".toList 307445734561825861 ⟨1000 * maxWord⟩ :=
    .tooManyMinutes numeral (by decide)
  obtain ⟨accepted, bounds⟩ := read_as_written "+307445734561825861m"
  have within : 307445734561825861 ≤ maxWord := by decide
  exact ⟨written, (accepted _).mpr ⟨_, within, written⟩, (bounds _ within _ written).2.1⟩

end Duration

end ScenarioResults
