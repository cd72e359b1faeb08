/-!
# Percent-encoding

A text becomes its UTF-8 bytes, each byte of a character that may not stand for itself as a percent
sign and two upper-case hexadecimal digits. Which characters stand for themselves is a parameter.
Decoding reads every well-formed triple back and leaves all else as it is.
-/

namespace ScenarioResults.Text

def hexDigit (n : Nat) : Char := if n < 10 then Char.ofNat (48 + n) else Char.ofNat (55 + n)

def hexValue? (c : Char) : Option Nat :=
  if c.isDigit then some (c.toNat - 48)
  else if 'A' ≤ c && c ≤ 'F' then some (c.toNat - 55)
  else if 'a' ≤ c && c ≤ 'f' then some (c.toNat - 87)
  else none

def percentByte (b : UInt8) : List Char := ['%', hexDigit (b.toNat / 16), hexDigit (b.toNat % 16)]

def percentChar (plain : Char → Bool) (c : Char) : List Char :=
  if plain c then [c] else (String.utf8EncodeChar c).flatMap percentByte

/-- Percent-encoding with the characters that satisfy `plain` left alone. -/
def percentEncodeWith (plain : Char → Bool) (cs : List Char) : List Char :=
  cs.flatMap (percentChar plain)

/-- The characters that need no encoding anywhere in a URL. -/
def isUnreserved (c : Char) : Bool :=
  c.isAlphanum || c == '-' || c == '_' || c == '.' || c == '~'

def percentEncode (s : String) : String := String.ofList (percentEncodeWith isUnreserved s.toList)

def percentDecode : List Char → List UInt8
  | [] => []
  | '%' :: high :: low :: rest =>
    match hexValue? high, hexValue? low with
    | some h, some l => UInt8.ofNat (16 * h + l) :: percentDecode rest
    | _, _ => String.utf8EncodeChar '%' ++ percentDecode (high :: low :: rest)
  | c :: rest => String.utf8EncodeChar c ++ percentDecode rest

end ScenarioResults.Text
