import ScenarioResults.Text.Digits
import ScenarioResults.Url.Basic
import ScenarioResults.Url.Domain
import ScenarioResults.Url.Encoding

/-!
# Reading hosts

A host in brackets is an address of eight groups. Any other host of a special scheme is a domain:
its percent-encoding is undone, it is brought to lower-case ASCII, and if its last label is a number
the whole has to be an address of four bytes. Other schemes take a host almost as it is.
-/

namespace ScenarioResults.Host

open Text Url

/-! ### Addresses of four bytes -/

/-- The value of digits in a base of at most sixteen, if each of them is one. -/
def inBase? (base : Nat) (cs : List Char) : Option Nat :=
  let add (n : Nat) (c : Char) : Option Nat :=
    (hexValue? c).bind fun d => if d < base then some (base * n + d) else none
  cs.foldlM add 0

/-- One number of an address: hexadecimal after `0x`, octal after `0`, else decimal. -/
def ipv4Number? : List Char → Option Nat
  | [] => none
  | '0' :: 'x' :: rest | '0' :: 'X' :: rest => inBase? 16 rest
  | ['0'] => some 0
  | '0' :: rest => inBase? 8 rest
  | cs => inBase? 10 cs

/-- The labels of a domain, less an empty one at the end. -/
def labels (domain : String) : List String :=
  match (domain.splitOn ".").reverse with
  | "" :: rest => rest.reverse
  | all => all.reverse

def endsInNumber (domain : String) : Bool :=
  match (labels domain).getLast? with
  | none => false
  | some last =>
    (!last.isEmpty && last.toList.all Char.isDigit) || (ipv4Number? last.toList).isSome

/-- Up to four numbers. The last one fills the bytes that the others leave. -/
def ipv4? (domain : String) : Option Host := do
  let numbers ← (labels domain).mapM fun label => ipv4Number? label.toList
  let last ← numbers.getLast?
  let bytes := numbers.dropLast
  if 3 < bytes.length ∨ bytes.any (255 < ·) ∨ Nat.pow 256 (4 - bytes.length) ≤ last then none
  else
    let high := bytes.foldl (fun n byte => 256 * n + byte) 0
    some (.ipv4 (high * Nat.pow 256 (4 - bytes.length) + last))

/-! ### Addresses of eight groups -/

def group? (text : String) : Option Nat :=
  if text.isEmpty || 4 < text.length then none else inBase? 16 text.toList

def byte? (text : String) : Option Nat :=
  match text.toList with
  | [] => none
  | ['0'] => some 0
  | '0' :: _ => none
  | cs => (readDigits 255 0 cs).toOption

def bytePair? (text : String) : Option (List Nat) := do
  match ← (text.splitOn ".").mapM byte? with
  | [a, b, c, d] => some [256 * a + b, 256 * c + d]
  | _ => none

/-- Groups between colons. The last may be four bytes. -/
def groups? (text : String) : Option (List Nat) :=
  if text.isEmpty then some []
  else do
    let parts := text.splitOn ":"
    let last ← parts.getLast?
    let groups ← parts.dropLast.mapM group?
    let tail ← if last.contains '.' then bytePair? last else (group? last).map fun group => [group]
    some (groups ++ tail)

/-- Eight groups, or fewer with one run of zeros left out. -/
def ipv6? (text : String) : Option Host := do
  match text.splitOn "::" with
  | [all] =>
    let groups ← groups? all
    if groups.length = 8 then some (.ipv6 groups) else none
  | [left, right] =>
    if left.contains '.' then none
    let left ← groups? left
    let right ← groups? right
    let missing := 8 - (left.length + right.length)
    if missing = 0 then none else some (.ipv6 (left ++ List.replicate missing 0 ++ right))
  | _ => none

/-! ### Domains -/

def domain? (text : List Char) : Option Host := do
  let decoded ← String.fromUTF8? ⟨(percentDecode text).toArray⟩
  let domain ← Domain.ascii? decoded
  if domain.isEmpty then none
  else if endsInNumber domain then ipv4? domain
  else some (.name domain)

def isForbiddenBare (c : Char) : Bool := c.toNat = 0 || " #/:<>?@[\\]^|".contains c

def ofText? (special : Bool) (text : List Char) : Option Host :=
  match text with
  | '[' :: inside =>
    if inside.getLast? = some ']' then ipv6? (String.ofList inside.dropLast) else none
  | _ =>
    if special then domain? text
    else if text.any isForbiddenBare then none
    else some (.name (encode hostPlain text))

end ScenarioResults.Host
