/-!
# URLs

A URL taken apart and put together again. Every part is kept in its encoded form, so putting the
parts together is joining them.
-/

namespace ScenarioResults

/-- Where a URL points. The name of a host can be empty where a scheme needs no host. -/
inductive Host where
  | name (s : String)
  | ipv4 (address : Nat)
  | ipv6 (groups : List Nat)
  deriving DecidableEq, Repr

structure Authority where
  user : String
  password : String
  host : Host
  port : Option Nat
  deriving DecidableEq, Repr

/-- A path is a row of segments, unless the scheme gives it no structure. -/
inductive UrlPath where
  | bare (text : String)
  | segments (parts : List String)
  deriving DecidableEq, Repr

structure Url where
  scheme : String
  authority : Option Authority
  /-- Whether a dot keeps the path from being taken for an authority. -/
  setOff : Bool := false
  path : UrlPath
  query : Option String
  fragment : Option String
  deriving DecidableEq, Repr

namespace Host

def ipv4Text (address : Nat) : String :=
  ".".intercalate ([24, 16, 8, 0].map fun shift => toString (address / Nat.pow 2 shift % 256))

def zeroRun (groups : List Nat) : Nat := (groups.takeWhile (· == 0)).length

/-- The place and the length of the first longest run of zeros from a place on. -/
def longestRun : Nat → List Nat → Nat × Nat
  | place, [] => (place, 0)
  | place, group :: rest =>
    let here := zeroRun (group :: rest)
    let later := longestRun (place + 1) rest
    if later.2 ≤ here then (place, here) else later

def hexGroups (groups : List Nat) : String :=
  ":".intercalate (groups.map fun group => String.ofList (Nat.toDigits 16 group))

/-- The groups in hexadecimal. The first longest run of at least two zeros is left out. -/
def ipv6Text (groups : List Nat) : String :=
  let (place, length) := longestRun 0 groups
  if length < 2 then hexGroups groups
  else hexGroups (groups.take place) ++ "::" ++ hexGroups (groups.drop (place + length))

def text : Host → String
  | .name s => s
  | .ipv4 address => ipv4Text address
  | .ipv6 groups => "[" ++ ipv6Text groups ++ "]"

end Host

def Authority.credentials (authority : Authority) : String :=
  if authority.user.isEmpty && authority.password.isEmpty then ""
  else if authority.password.isEmpty then authority.user ++ "@"
  else authority.user ++ ":" ++ authority.password ++ "@"

def Authority.text (authority : Authority) : String :=
  authority.credentials ++ authority.host.text
    ++ ((authority.port.map fun port => ":" ++ toString port).getD "")

def UrlPath.text : UrlPath → String
  | .bare text => text
  | .segments parts => String.join (parts.map fun part => "/" ++ part)

namespace Url

def marked (mark : String) (part : Option String) : String := (part.map (mark ++ ·)).getD ""

def origin (url : Url) : String :=
  match url.authority with
  | some authority => "//" ++ authority.text
  | none => if url.setOff then "/." else ""

def text (url : Url) : String :=
  url.scheme ++ ":" ++ url.origin ++ url.path.text ++ marked "?" url.query
    ++ marked "#" url.fragment

/-- The schemes whose URLs always have an authority and a path of segments. -/
def specialSchemes : List String := ["http", "https", "ws", "wss", "ftp", "file"]

def isSpecial (scheme : String) : Bool := specialSchemes.contains scheme

def defaultPort? (scheme : String) : Option Nat :=
  if scheme = "http" ∨ scheme = "ws" then some 80
  else if scheme = "https" ∨ scheme = "wss" then some 443
  else if scheme = "ftp" then some 21
  else none

def withoutCredentials (url : Url) : Url :=
  { url with authority := url.authority.map fun a => { a with user := "", password := "" } }

end Url

end ScenarioResults
