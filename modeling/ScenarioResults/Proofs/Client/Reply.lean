import ScenarioResults.Client

/-!
# What a reply says of a view

A reply has content if it is a success and its body can be read as what the view shows: rows or a
description. That is what the client gets out of it, and everything else is an error to the client
(`toOption_hear`).
-/

namespace ScenarioResults

/-! ### Answers without their errors -/

theorem ok_of_toOption {ε α : Type} {answer : Except ε α} {a : α}
    (same : answer.toOption = some a) : answer = .ok a := by
  cases answer with
  | error error => cases same
  | ok other => exact congrArg Except.ok (Option.some.inj same)

theorem toOption_map {ε α β : Type} (f : α → β) (answer : Except ε α) :
    (answer.map f).toOption = answer.toOption.map f := by
  cases answer <;> rfl

theorem toOption_bind {ε α β : Type} (answer : Except ε α) (next : α → Except ε β) :
    (answer.bind next).toOption = answer.toOption.bind fun a => (next a).toOption := by
  cases answer <;> rfl

theorem exists_of_map {ε α β : Type} {f : α → β} {answer : Except ε α} {b : β}
    (mapped : answer.map f = .ok b) : ∃ a, f a = b := by
  cases answer with
  | error error => cases mapped
  | ok a => exact ⟨a, Except.ok.inj mapped⟩

/-! ### The content of a reply -/

/-- What there is to show of a view. -/
inductive ViewContent where
  | table (rows : List Row)
  | plot (description : PlotDescription)

def ViewContent.kind : ViewContent → ViewKind
  | .table _ => .table
  | .plot _ => .plot

/-- The content that is sent for a view of a kind. -/
def ViewContent.ofTree? (kind : ViewKind) (tree : Json.Tree) : Option ViewContent :=
  match kind with
  | .table => (Client.rowsOf? tree).map .table
  | .plot =>
    (Client.plotMember? tree).bind fun value => (Client.describe {} value).toOption.map .plot

namespace Reply

/-- The body of a reply that is a success. -/
def body? : Reply → Option String
  | .answer status body => if Client.isSuccess status then some body else none
  | .closed | .silence | .astray _ _ => none

def content? (kind : ViewKind) (reply : Reply) : Option ViewContent :=
  reply.body?.bind fun body => (Json.Tree.ofText? body).bind (ViewContent.ofTree? kind)

end Reply

namespace FetchRequest

def kind : FetchRequest → ViewKind
  | .table _ _ => .table
  | .plot _ _ _ => .plot

end FetchRequest

/-- What a page is told of what a client has heard. -/
def FetchOutcome.ofHeard : Except ClientError ViewContent → FetchOutcome
  | .ok (.table rows) => .table rows
  | .ok (.plot description) => .plot description
  | .error error => .failed error.fault.message

/-! ### What the client hears -/

namespace Client

def address (client : Client) : FetchRequest → Url
  | .table ticket scenario => tableUrl client.base scenario ticket.key
  | .plot ticket scenario arguments => plotUrl client.base scenario ticket.key arguments

/-- The reply to the question for a URL, unless no such question can be put. -/
def replyTo? (client : Client) (url : Url) : Option Reply :=
  if isAskable (asked url) then some (client.network.get (asked url).text).1 else none

/-- The question for a URL is put, and the reply is a success with the body. -/
def Receives (client : Client) (url : Url) (body : String) : Prop :=
  (client.replyTo? url).bind Reply.body? = some body

/-- What a client hears when it carries out a request. -/
def hear (client : Client) : FetchRequest → Except ClientError ViewContent
  | .table ticket scenario => (client.table scenario ticket.key).1.map .table
  | .plot ticket scenario arguments => (client.plot scenario ticket.key arguments).1.map .plot

theorem toOption_fetchBody (client : Client) (url : Url) :
    (client.fetchBody url).1.toOption = (client.replyTo? url).bind Reply.body? := by
  unfold fetchBody replyTo?
  by_cases askable : isAskable (asked url)
  · simp only [askable, if_true]
    rcases client.network.get (asked url).text with ⟨reply, network⟩
    cases reply with
    | answer status body =>
      by_cases success : isSuccess status
      · simp [Reply.body?, success, Except.toOption]
      · simp [Reply.body?, success, Except.toOption]
    | closed => rfl
    | silence => rfl
    | astray late detail => rfl
  · simp [askable, Except.toOption]

/-- A client puts one question to the server, or none, whatever the reply. -/
theorem fetchBody_next (client : Client) (url : Url) : (client.fetchBody url).2 =
    if isAskable (asked url) then { client with network := (client.network.get (asked url).text).2 }
    else client := by
  unfold fetchBody
  by_cases askable : isAskable (asked url)
  · simp only [askable, if_true]
    rcases client.network.get (asked url).text with ⟨_ | _ | _ | _, network⟩ <;> rfl
  · simp [askable]

theorem fetchBody_decoder (client : Client) (url : Url) :
    (client.fetchBody url).2.decoder = client.decoder := by
  rw [fetchBody_next]
  split <;> rfl

theorem toOption_fetch {α : Type} (client : Client) (url : Url) (what : String)
    (read : Json.Tree → Option α) :
    (client.fetch url what read).1.toOption =
      ((client.replyTo? url).bind Reply.body?).bind fun body =>
        (Json.Tree.ofText? body).bind read := by
  rw [← toOption_fetchBody]
  unfold fetch
  rcases client.fetchBody url with ⟨error | body, next⟩
  · rfl
  · simp only [Except.toOption, Option.bind_some]
    cases (Json.Tree.ofText? body).bind read <;> rfl

theorem receives_of_reply {client : Client} {url : Url} {status : Nat} {body : String}
    (askable : isAskable (asked url)) (reachable : client.network.reachable)
    (next : client.network.replies.head? = some (.answer status body))
    (success : isSuccess status) : client.Receives url body := by
  have reply : (client.network.get (asked url).text).1 = .answer status body := by
    simp [Network.get, reachable, next]
  rw [Receives, replyTo?, if_pos askable, reply, Option.bind_some, Reply.body?, if_pos success]

theorem fetch_of_receives {α : Type} {client : Client} {url : Url} {body : String}
    (receives : client.Receives url body) (what : String) (read : Json.Tree → Option α) :
    (client.fetch url what read).1 =
      match (Json.Tree.ofText? body).bind read with
      | some value => .ok value
      | none => .error (.undecodable what (client.decoder.causes what body)) := by
  have told : (client.fetchBody url).1 = .ok body :=
    ok_of_toOption ((toOption_fetchBody client url).trans receives)
  rw [← client.fetchBody_decoder url]
  unfold fetch
  rcases asked : client.fetchBody url with ⟨answer, next⟩
  rw [asked] at told
  subst told
  simp only
  cases (Json.Tree.ofText? body).bind read <;> rfl

/-- What a client makes of the reply changes nothing of what it asks. -/
theorem fetch_next {α : Type} (client : Client) (url : Url) (what : String)
    (read : Json.Tree → Option α) : (client.fetch url what read).2 = (client.fetchBody url).2 := by
  unfold fetch
  rcases client.fetchBody url with ⟨error | body, next⟩
  · rfl
  · simp only
    split <;> rfl

theorem fetch_decoder {α : Type} (client : Client) (url : Url) (what : String)
    (read : Json.Tree → Option α) : (client.fetch url what read).2.decoder = client.decoder := by
  rw [fetch_next, fetchBody_decoder]

/-- A decoder has a say in what is told of a string that it refuses, but not in which it refuses. -/
theorem toOption_describe (decoder : Decoder) (value : Json.Value) :
    (describe decoder value).toOption = (describe {} value).toOption := by
  cases value with
  | string raw =>
    simp only [describe]
    by_cases blank : Text.isAllBlank raw
    · rw [if_pos blank, if_pos blank]
    · rw [if_neg blank, if_neg blank]
      cases Json.Value.ofText? raw <;> rfl
  | _ => rfl

/-- A client hears the content of the reply to its request, or of an error if there is none. -/
theorem toOption_hear (client : Client) (request : FetchRequest) :
    (client.hear request).toOption =
      (client.replyTo? (client.address request)).bind (Reply.content? request.kind) := by
  have rows : ViewContent.ofTree? .table = fun tree => (rowsOf? tree).map .table := rfl
  have description : ViewContent.ofTree? .plot = fun tree =>
      (plotMember? tree).bind fun value => (describe {} value).toOption.map .plot := rfl
  unfold Reply.content?
  cases request with
  | table ticket scenario =>
    simp only [hear, toOption_map, table, toOption_fetch, address, FetchRequest.kind, rows,
      Option.map_bind, Option.bind_assoc, Function.comp_def]
  | plot ticket scenario arguments =>
    simp only [hear, toOption_map, plot, toOption_bind, toOption_fetch, toOption_describe, address,
      FetchRequest.kind, description, Option.map_bind, Option.bind_assoc, Function.comp_def]

theorem exists_error_of_hear {client : Client} {request : FetchRequest}
    (unread : (client.replyTo? (client.address request)).bind (Reply.content? request.kind) = none) :
    ∃ error, client.hear request = .error error := by
  rw [← toOption_hear] at unread
  cases heard : client.hear request with
  | error error => exact ⟨error, rfl⟩
  | ok content =>
    rw [heard] at unread
    cases unread

/-- The reply to what is asked next to the options is the second one, whatever the first one is. -/
theorem replyTo?_options {client : Client} {scenario : ScenarioId} {url : Url}
    {first second : Reply} {rest : List Reply}
    (replies : client.network.replies = first :: second :: rest)
    (reachable : client.network.reachable)
    (before : isAskable (asked (optionsUrl client.base scenario))) (askable : isAskable (asked url)) :
    (client.options scenario).2.replyTo? url = some second := by
  rw [options, fetch_next, fetchBody_next, if_pos before, replyTo?, if_pos askable]
  simp [Network.get, reachable, replies]

theorem options_base (client : Client) (scenario : ScenarioId) :
    (client.options scenario).2.base = client.base := by
  rw [options, fetch_next, fetchBody_next]
  split <;> rfl

theorem kind_of_hear {client : Client} {request : FetchRequest} {content : ViewContent}
    (heard : client.hear request = .ok content) : content.kind = request.kind := by
  cases request with
  | table ticket scenario =>
    obtain ⟨rows, rfl⟩ := exists_of_map heard
    rfl
  | plot ticket scenario arguments =>
    obtain ⟨description, rfl⟩ := exists_of_map heard
    rfl

theorem execute_eq (client : Client) (request : FetchRequest) :
    (request.execute client).1 = ⟨request.ticket, .ofHeard (client.hear request)⟩ := by
  cases request with
  | table ticket scenario =>
    simp only [FetchRequest.execute, FetchRequest.executeWith, Backend.table, told, hear,
      FetchRequest.ticket]
    cases (client.table scenario ticket.key).1 <;> rfl
  | plot ticket scenario arguments =>
    simp only [FetchRequest.execute, FetchRequest.executeWith, Backend.plot, told, hear,
      FetchRequest.ticket]
    cases (client.plot scenario ticket.key arguments).1 <;> rfl

end Client

end ScenarioResults
