import ScenarioResults.Error
import ScenarioResults.Text.Digits

/-!
# Spans and points of time

A span is written as a whole number and a unit. What is beyond the greatest word of seconds is cut
down to it, so no text stands for a span that has wrapped around. A point of time that a clock cannot
tell is none.
-/

namespace ScenarioResults

/-- A span of time in milliseconds. -/
structure Duration where
  milliseconds : Nat
  deriving DecidableEq, Repr

inductive TimeUnit where
  | millisecond
  | second
  | minute
  deriving DecidableEq, Repr

inductive DurationError where
  | noUnit (raw : String)
  | number (raw : String) (cause : Text.NumeralError)
  deriving DecidableEq, Repr

def DurationError.fault : DurationError → Fault
  | .noUnit raw =>
    .of ("invalid duration " ++ Text.quoted raw
      ++ "; use one of: <N>ms, <N>s, <N>m (for example 500ms or 5s)")
  | .number raw cause => ⟨["invalid timeout duration " ++ Text.quoted raw, cause.message]⟩

namespace TimeUnit

def mark : TimeUnit → List Char
  | .millisecond => ['m', 's']
  | .second => ['s']
  | .minute => ['m']

def split? (cs : List Char) : Option (TimeUnit × List Char) :=
  match cs.reverse with
  | 's' :: 'm' :: rest => some (.millisecond, rest.reverse)
  | 's' :: rest => some (.second, rest.reverse)
  | 'm' :: rest => some (.minute, rest.reverse)
  | _ => none

def span (n : Nat) : TimeUnit → Duration
  | .millisecond => ⟨n⟩
  | .second => ⟨1000 * n⟩
  | .minute => ⟨1000 * min (60 * n) Text.maxWord⟩

/-- A text that ends in a mark splits there, but an `m` makes another unit of the mark of seconds. -/
theorem split?_append_mark (unit : TimeUnit) {cs : List Char}
    (apart : unit = .second → cs.getLast? ≠ some 'm') :
    split? (cs ++ unit.mark) = some (unit, cs) := by
  cases unit with
  | millisecond => simp [split?, mark]
  | minute => simp [split?, mark]
  | second =>
    rw [List.getLast?_eq_head?_reverse] at apart
    rw [split?, mark, List.reverse_append]
    cases reversed : cs.reverse with
    | nil => simp [List.reverse_eq_nil_iff.1 reversed]
    | cons c rest =>
      have other : c ≠ 'm' := by simpa [reversed] using apart rfl
      have back : cs = rest.reverse ++ [c] := by simpa using congrArg List.reverse reversed
      simp [other, back]

end TimeUnit

namespace Duration

/-- The greatest span: the greatest word of seconds and just less than one more. -/
def greatest : Nat := 1000 * Text.maxWord + 999

def plus (first second : Duration) : Duration :=
  ⟨min (first.milliseconds + second.milliseconds) greatest⟩

def read (raw : String) : Except DurationError Duration :=
  match TimeUnit.split? raw.toList with
  | none => .error (.noUnit raw)
  | some (unit, number) =>
    match Text.readNumeral Text.maxWord number with
    | .ok n => .ok (unit.span n)
    | .error cause => .error (.number raw cause)

/-- Seconds with the places of a second that are needed, or milliseconds below one second. -/
def display (duration : Duration) : String :=
  let seconds := duration.milliseconds / 1000
  let rest := duration.milliseconds % 1000
  if seconds = 0 then toString rest ++ "ms"
  else if rest = 0 then toString seconds ++ "s"
  else
    let digits := Nat.toDigits 10 (1000 + rest)
    let places := (digits.drop 1).reverse.dropWhile (· == '0')
    toString seconds ++ "." ++ String.ofList places.reverse ++ "s"

end Duration

/-- A point of time, in nanoseconds since the beginning of the clock that tells it. -/
structure Instant where
  nanoseconds : Int
  deriving DecidableEq, Repr

namespace Instant

/-- The first nanosecond that a clock cannot tell: it counts seconds in a signed word of 64 bits. -/
def limit : Int := 0x8000000000000000 * 1000000000

/-- The point of time at the end of a span, if the clock can tell it. -/
def after? (start : Instant) (span : Duration) : Option Instant :=
  let nanoseconds := start.nanoseconds + 1000000 * span.milliseconds
  if nanoseconds < limit then some ⟨nanoseconds⟩ else none

end Instant

end ScenarioResults
