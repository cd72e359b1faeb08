import ScenarioResults.Backend
import ScenarioResults.Network
import ScenarioResults.Stored
import ScenarioResults.Url.Reader

/-!
# The client of a results server

A client knows the base URL of its server. Every resource is a row of segments added to it: the
scenario, the view and one segment for each argument. Replies that are no success are told by the
server's own message where it gives one.
-/

namespace ScenarioResults

inductive ClientError where
  | emptyBase
  | invalidBase (text : String)
  | bareBase (text : String)
  | unreachable (base detail : String)
  | late (base detail : String)
  | server (status : Nat) (message : String)
  | silentServer (status : Nat)
  | undecodable (what : String) (causes : List String)
  | undecodablePlot (causes : List String)
  deriving DecidableEq, Repr

def ClientError.fault : ClientError → Fault
  | .emptyBase => .of "server.base_url must not be empty"
  | .invalidBase text => .of ("server.base_url " ++ Text.quoted text ++ " is not a valid URL")
  | .bareBase text =>
    .of ("server.base_url " ++ Text.quoted text ++ " cannot have path segments appended")
  | .unreachable base detail =>
    .of ("cannot reach " ++ base ++ " -- start the results server or fix [server] base_url ("
      ++ detail ++ ")")
  | .late base detail =>
    .of (base ++ " did not answer in time -- raise [server] timeout (" ++ detail ++ ")")
  | .server status message => .of ("server error (" ++ toString status ++ "): " ++ message)
  | .silentServer status => .of ("server returned " ++ toString status)
  | .undecodable what causes =>
    ⟨("decode " ++ what) :: "error decoding response body" :: causes⟩
  | .undecodablePlot causes => ⟨"decode embedded plotJSON string" :: causes⟩

/-- What a reader of JSON says against a text that is not what it was to be. The words are its own, so
nothing is known of them. -/
structure Decoder where
  causes : (what text : String) → List String := fun _ _ => []

structure Client where
  base : Url
  network : Network
  decoder : Decoder := {}

namespace Client

/-- The base URL that a text gives, blanks around it and slashes at its end aside. -/
def base? (text : String) : Except ClientError Url :=
  let trimmed := Text.dropTrailingSlashes (Text.trim text)
  if trimmed.isEmpty then .error .emptyBase
  else match Url.read? trimmed with
    | none => .error (.invalidBase trimmed)
    | some url => if url.hasSegments then .ok url else .error (.bareBase trimmed)

def ofText (text : String) (network : Network) (decoder : Decoder) : Except ClientError Client :=
  (base? text).map fun base => { base, network, decoder }

def baseText (base : Url) : String := Text.dropTrailingSlashes base.text

/-! ### Addresses -/

def scenarioUrl (base : Url) (scenario : ScenarioId) (more : List String) : Url :=
  base.addSegments ("scenarios" :: scenario.display :: more)

def optionsUrl (base : Url) (scenario : ScenarioId) : Url :=
  scenarioUrl base scenario ["scenario-results-options"]

def tableUrl (base : Url) (scenario : ScenarioId) (key : ViewKey) : Url :=
  scenarioUrl base scenario [key.slug]

/-- The segment of an argument: a word stands for one that is unset. -/
def argumentSegment : PlotArgument → String
  | none => "null"
  | some (.number x) => Decimal.display x
  | some (.text s) => s

def plotUrl (base : Url) (scenario : ScenarioId) (key : ViewKey) (arguments : List PlotArgument) :
    Url :=
  scenarioUrl base scenario (key.slug :: arguments.map argumentSegment)

/-! ### Replies -/

def isSuccess (status : Nat) : Bool := 200 ≤ status && status < 300

/-- The text of the first of three members that is there as a string, unless it is empty. -/
def serverMessage? (body : Json.Value) : Option String :=
  let told := (body.member? "message").bind Json.Value.string?
    <|> (body.member? "error").bind Json.Value.string?
    <|> ((body.member? "error").bind fun e => e.member? "message").bind Json.Value.string?
  told.filter fun message => !message.isEmpty

def maxPlainBody : Nat := 99

/-- A reply that is no success. A short body without a brace counts as a message. -/
def errorOf (status : Nat) (body : String) : ClientError :=
  match (Json.Value.ofText? body).bind serverMessage? with
  | some message => .server status message
  | none =>
    let trimmed := Text.trim body
    if !trimmed.isEmpty && trimmed.utf8ByteSize ≤ maxPlainBody && !trimmed.contains '\x7b' then
      .server status trimmed
    else .silentServer status

/-- Rows as they are sent: an array, or a record that holds one. Neither may hold a part without a
value. -/
def rowsOf? (tree : Json.Tree) : Option (List Row) :=
  if tree.value?.isNone then none
  else
    Row.listOfTree? 0 tree <|> do
      match ← tree.fields? ["rowsData"] with
      | [rows] => (rows.map (Row.listOfTree? 1)).getD (some [])
      | _ => none

/-- A description as it is sent: JSON, or a string that holds JSON. A blank string is null. -/
def describe (decoder : Decoder) (value : Json.Value) : Except ClientError PlotDescription :=
  match value with
  | .string raw =>
    if Text.isAllBlank raw then .ok ⟨.null⟩
    else match Json.Value.ofText? raw with
      | some value => .ok ⟨value⟩
      | none => .error (.undecodablePlot (decoder.causes "plotJSON" raw))
  | value => .ok ⟨value⟩

def plotMember? (tree : Json.Tree) : Option Json.Value := do
  match ← tree.fields? ["plotJSON"] with
  | [some plot] => plot.valueIn? 1
  | [none] => some .null
  | _ => none

/-! ### Asking -/

/-- The characters that the host of a URL may hold but that of a request may not. -/
def isUnsendable (c : Char) : Bool := c == '"' || c == '\x60' || c == '\x7b' || c == '\x7d'

def maxAsked : Nat := 65534

def isAskable (url : Url) : Bool :=
  (url.scheme == "http" || url.scheme == "https") && url.text.utf8ByteSize ≤ maxAsked
    && !(url.authority.any fun authority => authority.host.text.toList.any isUnsendable)

def isDecodable (encoded : String) : Bool :=
  (String.fromUTF8? ⟨(Text.percentDecode encoded.toList).toArray⟩).isSome

/-- Whether credentials can be sent apart from the URL: a user whose name is text, or a password that
is text. -/
def isSeparable (authority : Authority) : Bool :=
  isDecodable authority.user
    && (!authority.user.isEmpty || isDecodable authority.password)

/-- What is asked for: the URL without its credentials, which are sent apart from it if they can
be. -/
def asked (url : Url) : Url :=
  if url.authority.any isSeparable then url.withoutCredentials else url

def fetchBody (url : Url) : Client → Except ClientError String × Client := fun client =>
  let target := asked url
  let base := baseText client.base
  if isAskable target then
    let sending := "error sending request for url (" ++ target.text ++ ")"
    match client.network.get target.text with
    | (.answer status body, network) =>
      (if isSuccess status then .ok body else .error (errorOf status body), { client with network })
    | (.closed, network) => (.error (.unreachable base sending), { client with network })
    | (.silence, network) => (.error (.late base sending), { client with network })
    | (.astray late detail, network) =>
      (.error (if late then .late base detail else .unreachable base detail),
        { client with network })
  else (.error (.unreachable base ("builder error for url (" ++ target.text ++ ")")), client)

def fetch {α : Type} (url : Url) (what : String) (read : Json.Tree → Option α) :
    Client → Except ClientError α × Client := fun client =>
  match client.fetchBody url with
  | (.error error, client) => (.error error, client)
  | (.ok body, client) =>
    match (Json.Tree.ofText? body).bind read with
    | some value => (.ok value, client)
    | none => (.error (.undecodable what (client.decoder.causes what body)), client)

def options (scenario : ScenarioId) (client : Client) :
    Except ClientError ResultsOptions × Client :=
  client.fetch (optionsUrl client.base scenario) "result options" ResultsOptions.ofTree?

def table (scenario : ScenarioId) (key : ViewKey) (client : Client) :
    Except ClientError (List Row) × Client :=
  client.fetch (tableUrl client.base scenario key) key.slug rowsOf?

def plot (scenario : ScenarioId) (key : ViewKey) (arguments : List PlotArgument) (client : Client) :
    Except ClientError PlotDescription × Client :=
  let url := plotUrl client.base scenario key arguments
  let (answer, client) := client.fetch url key.slug plotMember?
  (answer.bind (describe client.decoder), client)

def told {α : Type} (answer : Except ClientError α × Client) : Except Fault α × Client :=
  (answer.1.mapError ClientError.fault, answer.2)

instance : Backend Client where
  options scenario client := told (client.options scenario)
  table scenario key client := told (client.table scenario key)
  plot scenario key arguments client := told (client.plot scenario key arguments)

end Client

end ScenarioResults
