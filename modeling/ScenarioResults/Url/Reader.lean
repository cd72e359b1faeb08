import ScenarioResults.Text.Blank
import ScenarioResults.Url.Host

/-!
# Reading URLs

A text is a URL if it begins with a scheme and each of the parts after it can be read. The path is
brought to its shortest form: a segment of one dot stays out, one of two dots takes the segment
before it along. A segment that names a drive is never taken along.
-/

namespace ScenarioResults.Url

open Text

def isEdge (c : Char) : Bool := c.toNat ≤ 0x20

def isSchemeChar (c : Char) : Bool := c.isAlphanum || c == '+' || c == '-' || c == '.'

def scheme? (cs : List Char) : Option (String × List Char) :=
  match cs.dropWhile isSchemeChar with
  | ':' :: rest =>
    let scheme := cs.takeWhile isSchemeChar
    if (scheme.head?.map Char.isAlpha).getD false then
      some (String.ofList (scheme.map Char.toLower), rest)
    else none
  | _ => none

def isSlash (special : Bool) (c : Char) : Bool := c == '/' || (special && c == '\\')

def endsAuthority (special : Bool) (c : Char) : Bool := c == '?' || c == '#' || isSlash special c

/-! ### Paths -/

def splitAtAll (p : Char → Bool) : List Char → List (List Char)
  | [] => [[]]
  | c :: rest =>
    if p c then [] :: splitAtAll p rest
    else match splitAtAll p rest with
      | [] => [[c]]
      | piece :: pieces => (c :: piece) :: pieces

def isOneDot (segment : String) : Bool :=
  let s := segment.toLower
  s == "." || s == "%2e"

def isTwoDots (segment : String) : Bool :=
  let s := segment.toLower
  s == ".." || s == ".%2e" || s == "%2e." || s == "%2e%2e"

/-- Whether a segment names a drive: a letter and a colon or a bar. -/
def isDrive (segment : String) : Bool :=
  match segment.toList with
  | [letter, mark] => letter.isAlpha && (mark == ':' || mark == '|')
  | _ => false

/-- Whether a segment is a drive or begins with one and a backslash. -/
def isOnDrive (segment : String) : Bool :=
  isDrive (String.ofList (segment.toList.takeWhile (· != '\\')))

/-- The segments above the last one. A drive has nothing above it. -/
def parent (parts : List String) : List String :=
  if parts.getLast?.any isOnDrive then parts else parts.dropLast

/-- One more segment. One that only says where to go leaves an empty segment if it is the last. -/
def extend (last : Bool) (parts : List String) (segment : String) : List String :=
  if isTwoDots segment then parent parts ++ (if last then [""] else [])
  else if isOneDot segment then parts ++ (if last then [""] else [])
  else parts ++ [segment]

def walk : List String → List String → List String
  | parts, [] => parts
  | parts, [last] => extend true parts last
  | parts, segment :: rest => walk (extend false parts segment) rest

def pathParts (special : Bool) (cs : List Char) : List String :=
  walk [] ((splitAtAll (isSlash special) cs).map (encode pathPlain))

def pathAfter (special : Bool) (cs : List Char) : UrlPath :=
  match cs with
  | [] => .segments (if special then [""] else [])
  | c :: rest => .segments (pathParts special (if isSlash special c then rest else cs))

/-! ### Query and fragment -/

def beforeTail (cs : List Char) : List Char := cs.takeWhile fun c => c != '?' && c != '#'

def tail (special : Bool) (cs : List Char) : Option String × Option String :=
  let fragment (cs : List Char) : Option String :=
    match cs with
    | '#' :: rest => some (encode fragmentPlain rest)
    | _ => none
  match cs.dropWhile fun c => c != '?' && c != '#' with
  | '?' :: rest =>
    (some (encode (queryPlain special) (rest.takeWhile (· != '#'))),
      fragment (rest.dropWhile (· != '#')))
  | rest => (none, fragment rest)

/-! ### Authorities -/

/-- The host of an authority, and what follows it. A colon in brackets does not end it. -/
def splitHost (bracketed : Bool) : List Char → List Char × List Char
  | [] => ([], [])
  | c :: rest =>
    if c = ':' ∧ ¬bracketed then ([], c :: rest)
    else
      let inside := if c = '[' then true else if c = ']' then false else bracketed
      let (host, after) := splitHost inside rest
      (c :: host, after)

def port? (scheme : String) : List Char → Option (Option Nat × List Char)
  | ':' :: rest =>
    let digits := rest.takeWhile Char.isDigit
    let after := rest.dropWhile Char.isDigit
    let number := digitsOnto 0 digits
    if 65535 < number then none
    else if after.head?.any (· != '\\') then none
    else if digits.isEmpty || defaultPort? scheme = some number then some (none, after)
    else some (some number, after)
  | rest => some (none, rest)

/-- Credentials and the rest of an authority. The last at sign parts them. -/
def splitCredentials (cs : List Char) : Option (List Char) × List Char :=
  if cs.contains '@' then
    let host := (cs.reverse.takeWhile (· != '@')).reverse
    (some (cs.take (cs.length - host.length - 1)), host)
  else (none, cs)

def authority? (scheme : String) (cs : List Char) : Option (Authority × List Char) := do
  let special := isSpecial scheme
  let (credentials, rest) := splitCredentials cs
  let given := credentials.getD []
  let user := encode userinfoPlain (given.takeWhile (· != ':'))
  let password := encode userinfoPlain ((given.dropWhile (· != ':')).drop 1)
  let (host, after) := splitHost false rest
  if host.isEmpty && (special || !after.isEmpty || !user.isEmpty || !password.isEmpty) then none
  else
    let host ← Host.ofText? special host
    let (port, left) ← port? scheme after
    some (⟨user, password, host, port⟩, left)

/-- The URL whose authority begins here. An at sign alone cannot be an authority before a path. -/
def afterSlashes? (scheme : String) (cs : List Char) : Option Url := do
  let special := isSpecial scheme
  let written := cs.takeWhile fun c => !endsAuthority special c
  let after := cs.dropWhile fun c => !endsAuthority special c
  if written = ['@'] ∧ after ≠ [] then none
  let (authority, left) ← authority? scheme written
  let rest := left ++ after
  let (query, fragment) := tail special rest
  some { scheme, authority := some authority, path := pathAfter special (beforeTail rest)
         query, fragment }

def plain? (scheme : String) (cs : List Char) : Option Url :=
  let (query, fragment) := tail false cs
  match cs with
  | '/' :: '/' :: rest => afterSlashes? scheme rest
  | '/' :: rest =>
    let path := .segments (pathParts false (beforeTail rest))
    some { scheme, authority := none, setOff := path.text.startsWith "//", path, query, fragment }
  | _ =>
    some { scheme, authority := none, path := .bare (encode hostPlain (beforeTail cs))
           query, fragment }

/-! ### Files -/

def afterSlash? (cs : List Char) : Option (List Char) :=
  match cs.dropWhile isIgnored with
  | c :: rest => if isSlash true c then some rest else none
  | [] => none

/-- The host of the URL of a file, and the text that its path begins. Only after two slashes is there
a host, and it may be missing. A path that follows a host has its first slash behind it. -/
def fileHost? (cs : List Char) : Option (Host × List Char) :=
  match afterSlash? cs with
  | none => some (.name "", cs)
  | some path =>
    match afterSlash? path with
    | none => some (.name "", path)
    | some path =>
      let written := counted (path.takeWhile fun c => !endsAuthority true c)
      let after := path.dropWhile fun c => !endsAuthority true c
      if isDrive (String.ofList written) then some (.name "", path)
      else if written.isEmpty then some (.name "", after)
      else (Host.ofText? true written).map fun host =>
        if host = .name "localhost" then (.name "", after)
        else (host, (afterSlash? after).getD after)

/-- The path of a file under way, and whether it begins with a drive. -/
structure FilePath where
  parts : List String
  onDrive : Bool

/-- A drive that is parted by a tab or a line end from what stands behind it in its segment. -/
def partedDrive? (piece : List Char) : Option (List String) :=
  match piece.dropWhile isIgnored with
  | [] => none
  | letter :: more =>
    match more.dropWhile isIgnored with
    | ':' :: rest =>
      if letter.isAlpha && rest.head?.any isIgnored && !(counted rest).isEmpty then
        some [String.ofList [letter, ':'], encode pathPlain (counted rest)]
      else none
    | _ => none

/-- One more segment. A drive that comes first is written with a colon. -/
def FilePath.extend (last : Bool) (path : FilePath) (piece : List Char) : FilePath :=
  let segment := encode pathPlain (counted piece)
  if path.parts.isEmpty && isDrive segment then
    ⟨[String.ofList (segment.toList.take 1 ++ [':'])], true⟩
  else match path.parts, partedDrive? piece with
    | [], some parts => { path with parts }
    | parts, _ => { path with parts := Url.extend last parts segment }

def FilePath.walk : FilePath → List (List Char) → FilePath
  | path, [] => path
  | path, [last] => path.extend true last
  | path, piece :: rest => walk (path.extend false piece) rest

def rooted (parts : List String) : List String :=
  match parts.dropWhile String.isEmpty with
  | [] => [""]
  | parts => parts

/-- The URL of a file. A drive at the beginning of its path takes the place of the host. -/
def file? (cs : List Char) : Option Url := do
  let (host, rest) ← fileHost? cs
  let path := FilePath.walk ⟨[], false⟩ (splitAtAll (isSlash true) (beforeTail rest))
  let host := if path.onDrive then .name "" else host
  let (query, fragment) := tail true (counted rest)
  some { scheme := "file", authority := some ⟨"", "", host, none⟩
         path := .segments (rooted path.parts), query, fragment }

def read? (text : String) : Option Url := do
  let inner := dropAround isEdge text.toList
  let (scheme, rest) ← scheme? (counted inner)
  if scheme = "file" then file? ((inner.dropWhile (· != ':')).drop 1)
  else if isSpecial scheme then afterSlashes? scheme (rest.dropWhile (isSlash true))
  else plain? scheme rest

/-! ### Segments added to a URL -/

def hasSegments (url : Url) : Bool :=
  match url.path with
  | .segments _ => true
  | .bare _ => false

/-- Without an empty segment at the end, unless it is the only one. -/
def dropEmptyEnd (parts : List String) : List String :=
  if 1 < parts.length && parts.getLast? == some "" then parts.dropLast else parts

/-- One more segment at the end, encoded. A text that is exactly one or two dots adds nothing. The
empty segment of a bare root gives way. -/
def push (special : Bool) (parts : List String) (segment : String) : List String :=
  if segment = "." ∨ segment = ".." then parts
  else
    let kept := if parts = [""] then [] else parts
    extend true kept (encode (segmentPlain special) (counted segment.toList))

def addSegments (url : Url) (more : List String) : Url :=
  match url.path with
  | .bare _ => url
  | .segments parts =>
    { url with
      path := .segments (more.foldl (push (isSpecial url.scheme)) (dropEmptyEnd parts)) }

end ScenarioResults.Url
