import ScenarioResults.Json.Literal
import ScenarioResults.Json.Number

/-!
# Tokens of JSON text

The text is read one character at a time by a machine whose state is what it has of the token it is
in. A number out of range and a string with half a surrogate pair are tokens without a value: only
what has to use them can refuse them.
-/

namespace ScenarioResults.Json

open Text

inductive Token where
  | openBrace
  | closeBrace
  | openBracket
  | closeBracket
  | colon
  | comma
  | null
  | bool (b : Bool)
  | number (n : Option Number)
  | string (s : Option String)

/-- Where in a token the text is. Collected characters and pieces are in reverse. -/
inductive Position where
  | between
  | word (letters : List Char)
  | string (pieces : List Piece)
  | escape (pieces : List Piece)
  | unit (pieces : List Piece) (value : Nat) (missing : Nat)

/-- What has been read: the finished tokens in reverse, and the place in the next one. -/
structure Scan where
  tokens : List Token
  position : Position

namespace Token

def punctuation? : Char → Option Token
  | '\x7b' => some .openBrace
  | '\x7d' => some .closeBrace
  | '[' => some .openBracket
  | ']' => some .closeBracket
  | ':' => some .colon
  | ',' => some .comma
  | _ => none

def isSpace (c : Char) : Bool := c == ' ' || c == '\t' || c == '\n' || c == '\r'

/-- The token of a run of characters that are neither blank, quote nor punctuation. -/
def ofWord? (word : String) : Option Token :=
  if word = "null" then some .null
  else if word = "true" then some (.bool true)
  else if word = "false" then some (.bool false)
  else (Numeral.ofText? word.toList).map fun numeral => .number numeral.number?

def start (tokens : List Token) (c : Char) : Scan :=
  if isSpace c then ⟨tokens, .between⟩
  else if c = '"' then ⟨tokens, .string []⟩
  else match punctuation? c with
    | some token => ⟨token :: tokens, .between⟩
    | none => ⟨tokens, .word [c]⟩

def endsWord (c : Char) : Bool := isSpace c || c == '"' || (punctuation? c).isSome

def step (scan : Scan) (c : Char) : Option Scan :=
  match scan.position with
  | .between => some (start scan.tokens c)
  | .word letters =>
    if endsWord c then
      (ofWord? (String.ofList letters.reverse)).map fun token => start (token :: scan.tokens) c
    else some ⟨scan.tokens, .word (c :: letters)⟩
  | .string pieces =>
    if c = '"' then
      let text := (Piece.decode pieces.reverse).map String.ofList
      some ⟨.string text :: scan.tokens, .between⟩
    else if c = '\\' then some ⟨scan.tokens, .escape pieces⟩
    else if c.toNat < 32 then none
    else some ⟨scan.tokens, .string (.char c :: pieces)⟩
  | .escape pieces =>
    if c = 'u' then some ⟨scan.tokens, .unit pieces 0 4⟩
    else (shortEscape? c).map fun d => ⟨scan.tokens, .string (.char d :: pieces)⟩
  | .unit pieces value missing =>
    (hexValue? c).map fun d =>
      if missing ≤ 1 then ⟨scan.tokens, .string (.unit (16 * value + d) :: pieces)⟩
      else ⟨scan.tokens, .unit pieces (16 * value + d) (missing - 1)⟩

def finish (scan : Scan) : Option (List Token) :=
  match scan.position with
  | .between => some scan.tokens.reverse
  | .word letters =>
    (ofWord? (String.ofList letters.reverse)).map fun token => (token :: scan.tokens).reverse
  | _ => none

def scan? (text : List Char) : Option (List Token) :=
  (text.foldlM step ⟨[], .between⟩).bind finish

end Token

end ScenarioResults.Json
