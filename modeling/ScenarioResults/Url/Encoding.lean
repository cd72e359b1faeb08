import ScenarioResults.Text.Percent

/-!
# Which characters each part of a URL has encoded

Every part has the controls and everything beyond ASCII encoded. Each part adds the characters that
would end it or be misread in it.
-/

namespace ScenarioResults.Url

open Text

def isPrintableAscii (c : Char) : Bool := 0x20 ≤ c.toNat && c.toNat < 0x7f

def hostPlain (c : Char) : Bool := isPrintableAscii c

def fragmentPlain (c : Char) : Bool := isPrintableAscii c && !(" \"<>\x60".contains c)

def queryPlain (special : Bool) (c : Char) : Bool :=
  isPrintableAscii c && !(" \"#<>".contains c) && !(special && c == '\'')

def pathPlain (c : Char) : Bool := fragmentPlain c && !("#?\x7b\x7d".contains c)

def userinfoPlain (c : Char) : Bool := pathPlain c && !("/:;=@[\\]^|".contains c)

/-- A segment that is added keeps no character that could divide it. -/
def segmentPlain (special : Bool) (c : Char) : Bool :=
  pathPlain c && !("/%".contains c) && !(special && c == '\\')

def encode (plain : Char → Bool) (cs : List Char) : String :=
  String.ofList (percentEncodeWith plain cs)

/-- Tabs and line ends count for nothing anywhere in a URL. -/
def isIgnored (c : Char) : Bool := c == '\t' || c == '\n' || c == '\r'

def counted (cs : List Char) : List Char := cs.filter fun c => !isIgnored c

end ScenarioResults.Url
