import ScenarioResults.Text.Visible

/-!
# Quoted text

A value inside a message stands between double quotes, with a quote and a backslash escaped, the
common controls by a letter and every other character that could not be read on its own by its
number in hexadecimal.
-/

namespace ScenarioResults.Text

/-- The number of a character between braces, in lower-case hexadecimal without leading zeros. -/
def numberedChar (c : Char) : List Char :=
  '\\' :: 'u' :: '\x7b' :: (Nat.toDigits 16 c.toNat ++ ['\x7d'])

def quotedChar (c : Char) : List Char :=
  match c with
  | '\x00' => ['\\', '0']
  | '\t' => ['\\', 't']
  | '\r' => ['\\', 'r']
  | '\n' => ['\\', 'n']
  | '\\' => ['\\', '\\']
  | '"' => ['\\', '"']
  | _ => if extendsGrapheme c || isHidden c then numberedChar c else [c]

/-- The text between double quotes, escaped so that a reader sees every character of it. -/
def quoted (s : String) : String := String.ofList ('"' :: (s.toList.flatMap quotedChar ++ ['"']))

end ScenarioResults.Text
