import ScenarioResults.Text.Composed
import ScenarioResults.Text.Direction
import ScenarioResults.Text.Joining
import ScenarioResults.Url.Folding
import ScenarioResults.Url.Punycode

/-!
# Domains

A domain is a row of labels between full stops. Its characters are replaced by what they stand for
and composed, and labels that are marked as encoded are decoded. Each label has to begin with a
character of its own, to have joiners only where they matter, and, in a domain with letters that run
from right to left, to run in one direction. The domain is then written in ASCII, with every label
that has other characters encoded.
-/

namespace ScenarioResults.Url.Domain

open Text

def isForbidden (c : Char) : Bool :=
  c.toNat ≤ 0x20 || c.toNat = 0x7f || "%#/:<>?@[\\]^|".contains c

def isAscii (label : List Char) : Bool := label.all fun c => c.toNat < 128

/-! ### Encoded labels -/

def maxEncoded : Nat := 2000

/-- The label that a text is the encoding of. It has nothing that would be replaced in a domain. -/
def decoded? (encoded : List Char) : Option (List Char) := do
  let last ← encoded.getLast?
  let label ← Punycode.decode? encoded
  let isSettled := label.all (fun c => foldChar? c == some [c]) && composed label == label
  if last != '-' && encoded.length ≤ maxEncoded && isSettled then some label else none

/-- A label as it is read: what it stands for if it is marked as encoded. -/
def label? : List Char → Option (List Char)
  | 'x' :: 'n' :: '-' :: '-' :: encoded => decoded? encoded
  | label => some label

def encoded (label : List Char) : List Char :=
  if isAscii label then label else "xn--".toList ++ Punycode.encode label

/-! ### Joiners -/

/-- Whether the first letter of a row, marks aside, joins the one on a side. -/
def meets (joins : Joining → Bool) (cs : List Char) : Bool :=
  ((cs.map joining).find? (· != .through)).any joins

/-- Whether a joiner matters between what stands before it, in reverse, and after it: behind a virama
each does, and one that parts letters does where they would join. -/
def matters (joiner : Char) (before after : List Char) : Bool :=
  before.head?.any isVirama
    || (joiner == '\u200c' && meets Joining.joinsNext before && meets Joining.joinsPrevious after)

/-- Whether all joiners of a label matter. What stands before the rest is in reverse. -/
def hasJoinersInPlace (before : List Char) : List Char → Bool
  | [] => true
  | c :: rest => (!isJoiner c || matters c before rest) && hasJoinersInPlace (c :: before) rest

/-! ### Directions -/

def runsRight (c : Char) : Bool := direction c == .right || direction c == .arabicNumber

def fitsLeft (d : Direction) : Bool := d != .right && d != .arabicNumber

def endsLeft (d : Direction) : Bool := d == .left || d == .europeanNumber

def endsRight (d : Direction) : Bool :=
  d == .right || d == .europeanNumber || d == .arabicNumber

/-- Whether a label runs in one direction, which its first letter gives. It ends, nonspacing marks
aside, with a letter or a digit, and from right to left all its digits are of one kind. -/
def runsOneWay (label : List Char) : Bool :=
  match label.map direction with
  | [] => true
  | first :: rest =>
    match first, rest.reverse.dropWhile (· == .nonspacing) with
    | .left, [] | .right, [] => true
    | .left, last :: inner => endsLeft last && inner.all fitsLeft
    | .right, last :: inner =>
      endsRight last && inner.all (· != .left)
        && !(rest.contains .europeanNumber && rest.contains .arabicNumber)
    | _, _ => false

/-! ### Reading -/

def maxLabel : Nat := 1000

def isSound (label : List Char) : Bool :=
  !label.any isForbidden && !label.head?.any isMark && hasJoinersInPlace [] label
    && (isAscii label || label.length ≤ maxLabel)

def folded? (domain : String) : Option (List Char) :=
  (domain.toList.mapM foldChar?).map fun words => composed words.flatten

def ascii? (domain : String) : Option String := do
  let folded ← folded? domain
  let labels ← ((String.ofList folded).splitOn ".").mapM fun label => label? label.toList
  if labels.all isSound && (labels.all runsOneWay || !labels.any (·.any runsRight)) then
    some (".".intercalate (labels.map fun label => String.ofList (encoded label)))
  else none

end ScenarioResults.Url.Domain
