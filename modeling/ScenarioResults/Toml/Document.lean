import ScenarioResults.Toml.MomentTable
import ScenarioResults.Toml.Node
import ScenarioResults.Toml.Scalar
import ScenarioResults.Toml.Token

/-!
# TOML documents

A document is read by a machine over its tokens. It holds the document so far, the header that the
lines stand under, and what is open on the line: arrays, inline tables, and the keys whose values
are still to come.
-/

namespace ScenarioResults.Toml

inductive KeyUse where
  | entry
  | tableHeader
  | itemHeader
  deriving DecidableEq, Repr

/-- What is open, with what it holds so far. Items of an array are in reverse. -/
inductive Frame where
  | array (items : List Value)
  | inline (entries : Entries)
  | entry (path : List String) (key : String)

/-- What the next token has to be. Key parts before the last one are in reverse. -/
inductive Expected where
  | line
  | header
  | keyPart (use : KeyUse) (outer : List String)
  | keyEnd (use : KeyUse) (outer : List String) (last : String)
  | secondBracket (path : List String) (key : String)
  | entryOrEnd
  | value
  | scalar (text : String)
  /-- After a scalar and a single space, which may be the one in a moment. -/
  | scalarSpace (text : String)
  /-- What comes after a value in the innermost open frame, or after a line. -/
  | separator

structure Reading where
  document : Entries
  header : List String
  frames : List Frame
  expected : Expected

namespace Reading

/-- The deepest nesting of arrays and inline tables, and the most parts of a key. -/
def maxDepth : Nat := 80

def isContainer : Frame → Bool
  | .entry _ _ => false
  | _ => true

def isBareKeyChar (c : Char) : Bool := c.isAlphanum || c == '-' || c == '_'

def keyPart? : Token → Option String
  | .word text => if text.toList.all isBareKeyChar then some text else none
  | .string false text => some text
  | _ => none

def close (r : Reading) (value : Value) : Option Reading :=
  match r.frames with
  | .array items :: rest =>
    some { r with frames := .array (value :: items) :: rest, expected := .separator }
  | .entry path key :: .inline entries :: rest => do
    let entries ← entries.define path key value
    some { r with frames := .inline entries :: rest, expected := .separator }
  | [.entry path key] => do
    let document ← r.document.defineUnder r.header path key value
    some { r with document, frames := [], expected := .separator }
  | _ => none

def openFrame (r : Reading) (frame : Frame) (expected : Expected) : Option Reading :=
  if (r.frames.filter isContainer).length < maxDepth then
    some { r with frames := frame :: r.frames, expected }
  else none

def beginValue (r : Reading) : Token → Option Reading
  | .blank _ => some r
  | .newline =>
    match r.frames with
    | .array _ :: _ => some r
    | _ => none
  | .word text => some { r with expected := .scalar text }
  | .string _ text => r.close (.string text)
  | .openBracket => r.openFrame (.array []) .value
  | .openBrace => r.openFrame (.inline []) .entryOrEnd
  | .closeBracket =>
    match r.frames with
    | .array items :: rest => close { r with frames := rest } (.array items.reverse)
    | _ => none
  | _ => none

def afterValue (r : Reading) (token : Token) : Option Reading :=
  match token, r.frames with
  | .blank _, _ => some r
  | .newline, [] => some { r with expected := .line }
  | .newline, _ :: _ => some r
  | .comma, .array _ :: _ => some { r with expected := .value }
  | .comma, .inline _ :: _ => some { r with expected := .entryOrEnd }
  | .closeBracket, .array items :: rest => close { r with frames := rest } (.array items.reverse)
  | .closeBrace, .inline entries :: rest =>
    close { r with frames := rest } (.table (Node.finishEntries entries))
  | _, _ => none

def endScalar (r : Reading) (text : String) (token : Token) : Option Reading := do
  let r ← r.close (← Value.ofScalar? text)
  r.afterValue token

/-- Whether a scalar has the shape of a date, after which a time of day may come. -/
def isDate (text : String) : Bool := (Date.split? text.toList).any fun (_, rest) => rest.isEmpty

def beginsWithDigit (text : String) : Bool := (text.toList.head?.map Char.isDigit).getD false

def endKey (r : Reading) (use : KeyUse) (path : List String) (key : String) (token : Token) :
    Option Reading :=
  match use, token with
  | .entry, .equals => some { r with frames := .entry path key :: r.frames, expected := .value }
  | .tableHeader, .closeBracket => do
    let document ← r.document.openTable path key
    some { r with document, header := path ++ [key], expected := .separator }
  | .itemHeader, .closeBracket => some { r with expected := .secondBracket path key }
  | _, _ => none

def step (r : Reading) (token : Token) : Option Reading :=
  match r.expected, token with
  | .line, .blank _ => some r
  | .line, .newline => some r
  | .line, .openBracket => some { r with expected := .header }
  | .line, token => do
    some { r with expected := .keyEnd .entry [] (← keyPart? token) }
  | .header, .openBracket => some { r with expected := .keyPart .itemHeader [] }
  | .header, .blank _ => some { r with expected := .keyPart .tableHeader [] }
  | .header, token => do
    some { r with expected := .keyEnd .tableHeader [] (← keyPart? token) }
  | .keyPart _ _, .blank _ => some r
  | .keyPart use outer, token => do
    some { r with expected := .keyEnd use outer (← keyPart? token) }
  | .keyEnd _ _ _, .blank _ => some r
  | .keyEnd use outer last, .dot =>
    if outer.length + 2 ≤ maxDepth then some { r with expected := .keyPart use (last :: outer) }
    else none
  | .keyEnd use outer last, token => r.endKey use outer.reverse last token
  | .secondBracket path key, .closeBracket => do
    let document ← r.document.openItem path key
    some { r with document, header := path ++ [key], expected := .separator }
  | .secondBracket _ _, _ => none
  | .entryOrEnd, .closeBrace => r.afterValue .closeBrace
  | .entryOrEnd, .blank _ => some r
  | .entryOrEnd, .newline => some r
  | .entryOrEnd, token => do
    some { r with expected := .keyEnd .entry [] (← keyPart? token) }
  | .value, token => r.beginValue token
  | .scalar text, .word more => some { r with expected := .scalar (text ++ more) }
  | .scalar text, .dot => some { r with expected := .scalar (text ++ ".") }
  | .scalar text, .blank single =>
    if single && isDate text then some { r with expected := .scalarSpace text }
    else r.endScalar text token
  | .scalar text, token => r.endScalar text token
  | .scalarSpace text, .word more =>
    if beginsWithDigit more then some { r with expected := .scalar (text ++ " " ++ more) }
    else none
  | .scalarSpace text, token => r.endScalar text token
  | .separator, token => r.afterValue token

/-- The document once the tokens have ended, which they may not do on an unfinished line. -/
def finish (r : Reading) : Option Entries :=
  match r.expected, r.frames with
  | .line, [] | .separator, [] => some r.document
  | _, _ => none

def ofTokens? (tokens : List Token) : Option Entries := do
  let r ← (tokens ++ [Token.newline]).foldlM step ⟨[], [], [], .line⟩
  r.finish

end Reading

/-- The value that a document stands for: a table, unless that stands for a moment. -/
def Value.ofDocument? (text : String) : Option Value := do
  let entries ← Reading.ofTokens? (← Token.scan? text.toList)
  Value.withMoments? (.table (Node.finishEntries entries))

end ScenarioResults.Toml
