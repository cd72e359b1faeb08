import ScenarioResults.Text.Percent

/-!
# Tokens of TOML text

The text is read one character at a time by a machine whose state is what it has of the token it is
in. Comments leave no token. Blanks do, because a few tokens may not stand apart.
-/

namespace ScenarioResults.Toml

open Text

inductive Token where
  | newline
  /-- A run of blanks; whether it is a single space. -/
  | blank (single : Bool)
  | dot
  | equals
  | comma
  | openBracket
  | closeBracket
  | openBrace
  | closeBrace
  | word (text : String)
  /-- A string; whether it is one that may span lines. -/
  | string (multiline : Bool) (text : String)
  deriving DecidableEq, Repr

structure Quoting where
  quote : Char
  multiline : Bool
  deriving DecidableEq, Repr

/-- Where in a token the text is. Collected characters are in reverse. -/
inductive Position where
  | between
  | blank (single : Bool)
  /-- After a carriage return where a line ends. -/
  | lineEnd
  | comment
  /-- After a carriage return in a comment. -/
  | commentEnd
  | word (letters : List Char)
  /-- After one or two quotes that begin a string. -/
  | opening (quote : Char) (second : Bool)
  /-- At the beginning of a string that may span lines; whether a carriage return came. -/
  | firstLine (quote : Char) (returned : Bool)
  | string (quoting : Quoting) (letters : List Char)
  /-- After a carriage return in a string. -/
  | stringEnd (quoting : Quoting) (letters : List Char)
  /-- After a run of quotes in a string that may span lines. -/
  | quotes (quote : Char) (count : Nat) (letters : List Char)
  | escape (multiline : Bool) (letters : List Char)
  /-- After a backslash and blanks that have to end the line. -/
  | fold (returned : Bool) (letters : List Char)
  /-- In the blanks and line ends after a backslash that ended its line. -/
  | folded (returned : Bool) (letters : List Char)
  | number (multiline : Bool) (letters : List Char) (value missing : Nat)

/-- What has been read: the finished tokens in reverse, and the place in the next one. -/
structure Scan where
  tokens : List Token
  position : Position

namespace Token

def punctuation? : Char → Option Token
  | '.' => some .dot
  | '=' => some .equals
  | ',' => some .comma
  | '[' => some .openBracket
  | ']' => some .closeBracket
  | '\x7b' => some .openBrace
  | '\x7d' => some .closeBrace
  | _ => none

def isBlank (c : Char) : Bool := c == ' ' || c == '\t'

def isQuote (c : Char) : Bool := c == '"' || c == '\''

/-- The controls that may stand nowhere: all but the tab. Line ends have places of their own. -/
def isControl (c : Char) : Bool := (c.toNat < 0x20 && c != '\t') || c.toNat == 0x7f

def isWordEnd (c : Char) : Bool :=
  isBlank c || isQuote c || c == '#' || c == '\n' || c == '\r' || (punctuation? c).isSome

def shortEscape? : Char → Option Char
  | 'b' => some '\x08'
  | 't' => some '\t'
  | 'n' => some '\n'
  | 'f' => some '\x0c'
  | 'r' => some '\r'
  | 'e' => some '\x1b'
  | '"' => some '"'
  | '\\' => some '\\'
  | _ => none

def numberWidth? : Char → Option Nat
  | 'x' => some 2
  | 'u' => some 4
  | 'U' => some 8
  | _ => none

def charOf? (n : Nat) : Option Char := if n.isValidChar then some (Char.ofNat n) else none

/-! ### One character -/

def start (tokens : List Token) (c : Char) : Option Scan :=
  if isBlank c then some ⟨tokens, .blank (c == ' ')⟩
  else if c = '\n' then some ⟨.newline :: tokens, .between⟩
  else if c = '\r' then some ⟨tokens, .lineEnd⟩
  else if c = '#' then some ⟨tokens, .comment⟩
  else if isQuote c then some ⟨tokens, .opening c false⟩
  else match punctuation? c with
    | some token => some ⟨token :: tokens, .between⟩
    | none => if isControl c then none else some ⟨tokens, .word [c]⟩

def inString (tokens : List Token) (quoting : Quoting) (letters : List Char) (c : Char) :
    Option Scan :=
  if c = quoting.quote then
    if quoting.multiline then some ⟨tokens, .quotes c 1 letters⟩
    else some ⟨.string false (String.ofList letters.reverse) :: tokens, .between⟩
  else if c = '\\' && quoting.quote = '"' then some ⟨tokens, .escape quoting.multiline letters⟩
  else if c = '\r' && quoting.multiline then some ⟨tokens, .stringEnd quoting letters⟩
  else if isControl c && !(c == '\n' && quoting.multiline) then none
  else some ⟨tokens, .string quoting (c :: letters)⟩

/-- The most quotes that a string which may span lines ends with: two of its own and three more. -/
def maxQuotes : Nat := 5

/-- A string that ends with so many quotes, three of which only close it. -/
def closed (tokens : List Token) (quote : Char) (count : Nat) (letters : List Char) : List Token :=
  .string true (String.ofList (List.replicate (count - 3) quote ++ letters).reverse) :: tokens

/-- One character after a run of quotes. Less than three do not close the string. -/
def afterQuotes (tokens : List Token) (quote : Char) (count : Nat) (letters : List Char)
    (c : Char) : Option Scan :=
  if c = quote && count < maxQuotes then some ⟨tokens, .quotes quote (count + 1) letters⟩
  else if 3 ≤ count then start (closed tokens quote count letters) c
  else inString tokens ⟨quote, true⟩ (List.replicate count quote ++ letters) c

def afterBackslash (tokens : List Token) (multiline : Bool) (letters : List Char) (c : Char) :
    Option Scan :=
  match numberWidth? c, shortEscape? c with
  | some width, _ => some ⟨tokens, .number multiline letters 0 width⟩
  | none, some d => some ⟨tokens, .string ⟨'"', multiline⟩ (d :: letters)⟩
  | none, none =>
    if !multiline then none
    else if isBlank c then some ⟨tokens, .fold false letters⟩
    else if c = '\n' then some ⟨tokens, .folded false letters⟩
    else if c = '\r' then some ⟨tokens, .fold true letters⟩
    else none

def step (scan : Scan) (c : Char) : Option Scan :=
  let tokens := scan.tokens
  match scan.position with
  | .between => start tokens c
  | .blank single =>
    if isBlank c then some ⟨tokens, .blank false⟩ else start (.blank single :: tokens) c
  | .lineEnd => if c = '\n' then some ⟨.newline :: tokens, .between⟩ else none
  | .comment =>
    if c = '\n' then some ⟨.newline :: tokens, .between⟩
    else if c = '\r' then some ⟨tokens, .commentEnd⟩
    else if isControl c then none
    else some ⟨tokens, .comment⟩
  | .commentEnd => if c = '\n' then some ⟨.newline :: tokens, .between⟩ else none
  | .word letters =>
    if isWordEnd c then start (.word (String.ofList letters.reverse) :: tokens) c
    else if isControl c then none
    else some ⟨tokens, .word (c :: letters)⟩
  | .opening quote false =>
    if c = quote then some ⟨tokens, .opening quote true⟩
    else inString tokens ⟨quote, false⟩ [] c
  | .opening quote true =>
    if c = quote then some ⟨tokens, .firstLine quote false⟩
    else start (.string false "" :: tokens) c
  | .firstLine quote returned =>
    if c = '\n' then some ⟨tokens, .string ⟨quote, true⟩ []⟩
    else if returned then none
    else if c = '\r' then some ⟨tokens, .firstLine quote true⟩
    else inString tokens ⟨quote, true⟩ [] c
  | .string quoting letters => inString tokens quoting letters c
  | .stringEnd quoting letters =>
    if c = '\n' then some ⟨tokens, .string quoting ('\n' :: '\r' :: letters)⟩ else none
  | .quotes quote count letters => afterQuotes tokens quote count letters c
  | .escape multiline letters => afterBackslash tokens multiline letters c
  | .fold returned letters =>
    if c = '\n' then some ⟨tokens, .folded false letters⟩
    else if returned then none
    else if c = '\r' then some ⟨tokens, .fold true letters⟩
    else if isBlank c then some ⟨tokens, .fold false letters⟩
    else none
  | .folded returned letters =>
    if c = '\n' then some ⟨tokens, .folded false letters⟩
    else if returned then none
    else if c = '\r' then some ⟨tokens, .folded true letters⟩
    else if isBlank c then some ⟨tokens, .folded false letters⟩
    else inString tokens ⟨'"', true⟩ letters c
  | .number multiline letters value missing => do
    let value := 16 * value + (← hexValue? c)
    if missing ≤ 1 then some ⟨tokens, .string ⟨'"', multiline⟩ ((← charOf? value) :: letters)⟩
    else some ⟨tokens, .number multiline letters value (missing - 1)⟩

def finish (scan : Scan) : Option (List Token) :=
  match scan.position with
  | .between | .comment => some scan.tokens.reverse
  | .blank single => some (Token.blank single :: scan.tokens).reverse
  | .word letters => some (Token.word (String.ofList letters.reverse) :: scan.tokens).reverse
  | .opening _ true => some (Token.string false "" :: scan.tokens).reverse
  | .quotes quote count letters =>
    if 3 ≤ count then some (closed scan.tokens quote count letters).reverse else none
  | _ => none

def withoutMark : List Char → List Char
  | '\uFEFF' :: rest => rest
  | cs => cs

def scan? (text : List Char) : Option (List Token) :=
  ((withoutMark text).foldlM step ⟨[], .between⟩).bind finish

end Token

end ScenarioResults.Toml
