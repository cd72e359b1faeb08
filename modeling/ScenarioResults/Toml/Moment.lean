import ScenarioResults.Text.Digits

/-!
# Dates and times in TOML

A date, a time of day, or both with an optional offset. The seconds may be left out, and of their
fraction nine digits count. Writing gives every part its full width and drops the zeros at the end
of a fraction.
-/

namespace ScenarioResults.Toml

open Text

structure Date where
  year : Nat
  month : Nat
  day : Nat
  deriving DecidableEq, Repr

structure Clock where
  hour : Nat
  minute : Nat
  second : Nat
  fraction : List Char
  deriving DecidableEq, Repr

inductive Offset where
  | zulu
  | shifted (west : Bool) (minutes : Nat)
  deriving DecidableEq, Repr

inductive Moment where
  | calendar (date : Date)
  | daily (clock : Clock)
  | full (date : Date) (clock : Clock) (offset : Option Offset)
  deriving DecidableEq, Repr

/-! ### Reading -/

/-- A number of exactly `width` digits, and what follows it. -/
def fixedNumber? (width : Nat) (cs : List Char) : Option (Nat × List Char) :=
  let digits := cs.take width
  if digits.length = width && digits.all Char.isDigit then
    some (digitsOnto 0 digits, cs.drop width)
  else none

def after? (c : Char) : List Char → Option (List Char)
  | [] => none
  | d :: rest => if c = d then some rest else none

def isLeapYear (year : Nat) : Bool := year % 4 == 0 && (year % 100 != 0 || year % 400 == 0)

def daysIn (year month : Nat) : Nat :=
  if month = 2 then (if isLeapYear year then 29 else 28)
  else if month = 4 || month = 6 || month = 9 || month = 11 then 30
  else 31

def Date.split? (cs : List Char) : Option (Date × List Char) := do
  let (year, cs) ← fixedNumber? 4 cs
  let (month, cs) ← fixedNumber? 2 (← after? '-' cs)
  let (day, cs) ← fixedNumber? 2 (← after? '-' cs)
  if 1 ≤ month && month ≤ 12 && 1 ≤ day && day ≤ daysIn year month then
    some (⟨year, month, day⟩, cs)
  else none

def fraction? : List Char → Option (List Char × List Char)
  | '.' :: cs =>
    let digits := cs.takeWhile Char.isDigit
    if digits.isEmpty then none else some (digits.take 9, cs.dropWhile Char.isDigit)
  | cs => some ([], cs)

/-- The seconds of a clock: none, or a colon, two digits and a fraction. -/
def seconds? : List Char → Option ((Nat × List Char) × List Char)
  | ':' :: cs => do
    let (second, cs) ← fixedNumber? 2 cs
    let (fraction, cs) ← fraction? cs
    some ((second, fraction), cs)
  | cs => some ((0, []), cs)

def Clock.split? (cs : List Char) : Option (Clock × List Char) := do
  let (hour, cs) ← fixedNumber? 2 cs
  let (minute, cs) ← fixedNumber? 2 (← after? ':' cs)
  let ((second, fraction), cs) ← seconds? cs
  if hour ≤ 23 && minute ≤ 59 && second ≤ 60 then some (⟨hour, minute, second, fraction⟩, cs)
  else none

def Offset.ofText? : List Char → Option (Option Offset)
  | [] => some none
  | ['Z'] | ['z'] => some (some .zulu)
  | sign :: cs => do
    let (hour, cs) ← fixedNumber? 2 cs
    let (minute, cs) ← fixedNumber? 2 (← after? ':' cs)
    if (sign = '+' || sign = '-') && cs.isEmpty && hour ≤ 23 && minute ≤ 59 then
      some (some (.shifted (sign = '-') (60 * hour + minute)))
    else none

def isClockMark (c : Char) : Bool := c == 'T' || c == 't' || c == ' '

def Moment.ofText? (cs : List Char) : Option Moment :=
  match Date.split? cs with
  | some (date, []) => some (.calendar date)
  | some (date, mark :: rest) =>
    if isClockMark mark then do
      let (clock, rest) ← Clock.split? rest
      some (.full date clock (← Offset.ofText? rest))
    else none
  | none =>
    match Clock.split? cs with
    | some (clock, []) => some (.daily clock)
    | _ => none

/-! ### Writing -/

def filled (width n : Nat) : List Char :=
  let digits := Nat.toDigits 10 n
  List.replicate (width - digits.length) '0' ++ digits

def Date.text (date : Date) : List Char :=
  filled 4 date.year ++ '-' :: filled 2 date.month ++ '-' :: filled 2 date.day

def Clock.text (clock : Clock) : List Char :=
  let digits := (clock.fraction.reverse.dropWhile (· == '0')).reverse
  let fraction := if digits.isEmpty then [] else '.' :: digits
  filled 2 clock.hour ++ ':' :: filled 2 clock.minute ++ ':' :: filled 2 clock.second ++ fraction

def Offset.text : Offset → List Char
  | .zulu => ['Z']
  | .shifted west minutes =>
    (if west && minutes != 0 then '-' else '+')
      :: (filled 2 (minutes / 60) ++ ':' :: filled 2 (minutes % 60))

def Moment.text : Moment → List Char
  | .calendar date => date.text
  | .daily clock => clock.text
  | .full date clock offset =>
    date.text ++ 'T' :: clock.text ++ ((offset.map Offset.text).getD [])

def Moment.spelling? (cs : List Char) : Option String :=
  (Moment.ofText? cs).map fun moment => String.ofList moment.text

end ScenarioResults.Toml
