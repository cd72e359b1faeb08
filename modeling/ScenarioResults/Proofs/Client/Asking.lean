import Mathlib.Data.String.Basic
import ScenarioResults.Proofs.Client.Reply
import ScenarioResults.Proofs.Url.Segments

/-!
# What a client asks for

A client that is told to fetch a URL puts one question to the server, whatever the reply, unless the
URL cannot be put into a request: its scheme is another one, its host has characters that a request
may not hold, or its text is too long (`not_isAskable_of_part`). The questions since some moment are
those that `sent` gives for the URLs fetched since then. The last section is about the URLs of a server
on the same machine.
-/

namespace ScenarioResults

namespace Client

theorem ofText_ok {text : String} {network : Network} {decoder : Decoder} {client : Client}
    (reached : ofText text network decoder = .ok client) :
    ∃ base, base? text = .ok base ∧ client = { base, network, decoder } := by
  unfold ofText at reached
  cases read : base? text with
  | error error => rw [read] at reached; cases reached
  | ok base =>
    rw [read] at reached
    exact ⟨base, rfl, (Except.ok.inj reached).symm⟩

/-- The questions that come of URLs fetched one after the other. -/
def sent (network : Network) (urls : List Url) : List String :=
  if network.reachable then ((urls.map asked).filter isAskable).map Url.text else []

theorem sent_append {first second : Network} (same : second.reachable = first.reachable)
    (urls more : List Url) : sent first (urls ++ more) = sent first urls ++ sent second more := by
  unfold sent
  rw [same]
  cases first.reachable <;> simp

theorem sent_cons_of_not {network : Network} {url : Url} (unaskable : ¬ isAskable (asked url))
    (urls : List Url) : sent network (url :: urls) = sent network urls := by
  simp [sent, unaskable]

theorem sent_cons {network : Network} {url : Url} (reachable : network.reachable)
    (askable : isAskable (asked url)) (urls : List Url) :
    sent network (url :: urls) = (asked url).text :: sent network urls := by
  simp [sent, reachable, askable]

@[simp] theorem sent_nil (network : Network) : sent network [] = [] := by simp [sent]

/-- The client after it has fetched URLs. -/
structure Asks (client : Client) (urls : List Url) (next : Client) : Prop where
  base : next.base = client.base
  reachable : next.network.reachable = client.network.reachable
  requests : next.network.requests = client.network.requests ++ sent client.network urls

theorem Asks.refl (client : Client) : client.Asks [] client := ⟨rfl, rfl, by simp⟩

theorem Asks.trans {client next last : Client} {urls more : List Url}
    (first : client.Asks urls next) (second : next.Asks more last) :
    client.Asks (urls ++ more) last := by
  refine ⟨second.base.trans first.base, second.reachable.trans first.reachable, ?_⟩
  rw [second.requests, first.requests, sent_append first.reachable, List.append_assoc]

theorem asks_fetch {α : Type} (client : Client) (url : Url) (what : String)
    (read : Json.Tree → Option α) : client.Asks [url] (client.fetch url what read).2 := by
  rw [fetch_next, fetchBody_next]
  by_cases askable : isAskable (asked url)
  · rw [if_pos askable]
    cases reachable : client.network.reachable with
    | true =>
      refine ⟨rfl, by simp [Network.get, reachable], ?_⟩
      simp [Network.get, sent, reachable, askable]
    | false =>
      refine ⟨rfl, by simp [Network.get, reachable], ?_⟩
      simp [Network.get, sent, reachable]
  · rw [if_neg askable]
    exact ⟨rfl, rfl, by rw [sent_cons_of_not askable, sent_nil, List.append_nil]⟩

theorem asks_options (client : Client) (scenario : ScenarioId) :
    client.Asks [optionsUrl client.base scenario] (client.options scenario).2 :=
  client.asks_fetch _ _ _

theorem asks_execute (client : Client) (request : FetchRequest) :
    client.Asks [client.address request] (request.execute client).2 := by
  cases request with
  | table ticket scenario => exact client.asks_fetch _ _ _
  | plot ticket scenario arguments =>
    exact client.asks_fetch (plotUrl client.base scenario ticket.key arguments) ticket.key.slug
      plotMember?

end Client

/-! ### URLs that are too long -/

theorem Text.length_le_size (s : String) : s.length ≤ s.utf8ByteSize := by
  have chars : ∀ cs : List Char, cs.length ≤ String.utf8Len cs := by
    intro cs
    induction cs with
    | nil => exact Nat.le_refl 0
    | cons c rest ih =>
      have size := c.utf8Size_pos
      rw [List.length_cons, String.utf8Len_cons]
      omega
  rw [← String.ofList_toList (s := s), String.utf8ByteSize_ofList, String.length_ofList]
  exact chars s.toList

theorem Text.length_le_percentEncodeWith (plain : Char → Bool) (cs : List Char) :
    cs.length ≤ (Text.percentEncodeWith plain cs).length := by
  induction cs with
  | nil => exact Nat.le_refl 0
  | cons c rest ih =>
    have some : 0 < (Text.percentChar plain c).length := by
      have bytes := c.utf8Size_pos
      unfold Text.percentChar
      split
      · simp
      · simp [Text.percentByte]
        omega
    simp only [Text.percentEncodeWith, List.flatMap_cons, List.length_append, List.length_cons] at *
    omega

namespace Url

theorem extend_long {parts : List String} {segment : String} (long : 6 < segment.length)
    (last : Bool) : extend last parts segment = parts ++ [segment] := by
  have different : ∀ dots : String, dots.length ≤ 6 → (segment.toLower == dots) = false := by
    intro dots short
    refine beq_eq_false_iff_ne.mpr fun same => ?_
    have length : segment.toLower.length = segment.length := String.length_map
    rw [same] at length
    omega
  have two : isTwoDots segment = false := by
    simp only [isTwoDots, different ".." (by decide), different ".%2e" (by decide),
      different "%2e." (by decide), different "%2e%2e" (by decide), Bool.or_self]
  have one : isOneDot segment = false := by
    simp only [isOneDot, different "." (by decide), different "%2e" (by decide), Bool.or_self]
  simp [extend, two, one]

/-- A segment that is long enough to be none of dots is added at the end, and nothing of it is lost
but what counts for nothing. -/
theorem push_long {special : Bool} {parts : List String} {segment : String}
    (long : 6 < (counted segment.toList).length) :
    ∃ part, push special parts segment = (if parts = [""] then [] else parts) ++ [part] ∧
      (counted segment.toList).length ≤ part.length := by
  have size : (counted segment.toList).length ≤
      (encode (segmentPlain special) (counted segment.toList)).length := by
    rw [encode, String.length_ofList]
    exact Text.length_le_percentEncodeWith _ _
  have undotted : ¬ (segment = "." ∨ segment = "..") := by
    rintro (rfl | rfl)
    · exact absurd long (by decide)
    · exact absurd long (by decide)
  refine ⟨_, ?_, size⟩
  rw [push, if_neg undotted]
  exact extend_long (by omega) true

theorem mem_push_long {special : Bool} {parts : List String} {part segment : String}
    (member : part ∈ parts) (filled : part ≠ "") (long : 6 < (counted segment.toList).length) :
    part ∈ push special parts segment := by
  obtain ⟨last, pushed, -⟩ := @push_long special parts segment long
  have kept : parts ≠ [""] := by
    rintro rfl
    exact filled (List.mem_singleton.mp member)
  rw [pushed, if_neg kept]
  exact List.mem_append_left _ member

theorem size_le_join {part : String} {parts : List String} (member : part ∈ parts) :
    part.utf8ByteSize ≤ (String.join (parts.map fun part => "/" ++ part)).utf8ByteSize := by
  induction parts with
  | nil => cases member
  | cons first rest ih =>
    rw [List.map_cons, String.join_cons, String.utf8ByteSize_append, String.utf8ByteSize_append]
    rcases List.mem_cons.mp member with rfl | later
    · omega
    · have inside := ih later
      omega

theorem size_path_le (url : Url) : url.path.text.utf8ByteSize ≤ url.text.utf8ByteSize := by
  simp only [text, String.utf8ByteSize_append]
  omega

end Url

namespace Client

@[simp] theorem asked_path (url : Url) : (asked url).path = url.path := by
  unfold asked
  split <;> rfl

/-- A URL with a segment that is too long for a request is never asked for. -/
theorem not_isAskable_of_part {url : Url} {parts : List String} {part : String}
    (path : url.path = .segments parts) (member : part ∈ parts) (long : maxAsked < part.length) :
    ¬ isAskable (asked url) := by
  intro askable
  simp only [isAskable, Bool.and_eq_true, decide_eq_true_eq] at askable
  have whole := (asked url).size_path_le
  rw [asked_path, path] at whole
  have inside : part.utf8ByteSize ≤ (UrlPath.segments parts).text.utf8ByteSize :=
    Url.size_le_join member
  have chars := Text.length_le_size part
  have fits := askable.1.2
  omega

/-- A plot cannot be asked for with a text that is too long as the last that is set. -/
theorem not_isAskable_plotUrl {base : Url} {text : String} (segmented : base.hasSegments)
    (long : maxAsked < (Url.counted text.toList).length) (scenario : ScenarioId) (key : ViewKey)
    (before : List PlotArgument) : ¬ isAskable (asked
      (plotUrl base scenario key (before ++ [some (.text text), some .unsetMaximum]))) := by
  cases path : base.path with
  | bare text => simp [Url.hasSegments, path] at segmented
  | segments parts =>
    let special := Url.isSpecial base.scheme
    let most := ("scenarios" :: scenario.display :: key.slug :: before.map argumentSegment).foldl
      (Url.push special) (Url.dropEmptyEnd parts)
    have whole : (plotUrl base scenario key
        (before ++ [some (.text text), some .unsetMaximum])).path =
          .segments (Url.push special (Url.push special most text) "default") := by
      simp [plotUrl, scenarioUrl, Url.addSegments, path, argumentSegment, most, special,
        FilterValue.unsetMaximum]
    have counts : 6 < (Url.counted text.toList).length := Nat.lt_trans (by decide) long
    obtain ⟨part, pushed, size⟩ := @Url.push_long special most text counts
    have filled : part ≠ "" := by
      rintro rfl
      exact absurd (Nat.lt_of_lt_of_le counts size) (by decide)
    have member : part ∈ Url.push special (Url.push special most text) "default" := by
      refine Url.mem_push_long ?_ filled (by decide)
      rw [pushed]
      exact List.mem_append_right _ List.mem_cons_self
    exact not_isAskable_of_part whole member (Nat.lt_of_lt_of_le long size)

/-! ### A server on the same machine -/

section

open Url

def loopback : Url :=
  { scheme := "http", authority := some ⟨"", "", .ipv6 [0, 0, 0, 0, 0, 0, 0, 1], none⟩
    path := .segments [""], query := none, fragment := none }

theorem splitOn_loopback : "::1".splitOn "::" = ["", "1"] ∧ "1".splitOn ":" = ["1"] := by
  constructor
  · rw [String.splitOn, if_neg (by decide)]
    -- One colon and the other, then the digit, then the end.
    rw [String.splitOnAux, if_neg (by decide), if_pos (by decide), if_neg (by decide)]
    rw [String.splitOnAux, if_neg (by decide), if_pos (by decide), if_pos (by decide)]
    rw [String.splitOnAux, if_neg (by decide), if_neg (by decide)]
    rw [String.splitOnAux, if_pos (by decide)]
    decide
  · rw [String.splitOn, if_neg (by decide)]
    rw [String.splitOnAux, if_neg (by decide), if_neg (by decide)]
    rw [String.splitOnAux, if_pos (by decide)]
    decide

theorem ofText?_loopback :
    Host.ofText? true "[::1]".toList = some (.ipv6 [0, 0, 0, 0, 0, 0, 0, 1]) := by
  obtain ⟨halves, group⟩ := splitOn_loopback
  have inside : Host.ofText? true "[::1]".toList = Host.ipv6? "::1" := rfl
  rw [inside]
  unfold Host.ipv6?
  simp only [halves, group, String.contains_char_eq, Host.groups?]
  decide

theorem read?_loopback : Url.read? "http://[::1]" = some loopback := by
  have credentials : splitCredentials "[::1]".toList = (none, "[::1]".toList) := by decide
  have host : splitHost false "[::1]".toList = ("[::1]".toList, []) := by decide
  have special : isSpecial "http" = true := by decide
  have authority : authority? "http" "[::1]".toList =
      some (⟨"", "", .ipv6 [0, 0, 0, 0, 0, 0, 0, 1], none⟩, []) := by
    unfold authority?
    simp only [credentials, host, special, ofText?_loopback]
    decide
  have whole : "[::1]".toList.takeWhile (fun c => !endsAuthority true c) = "[::1]".toList := by
    decide
  have url : afterSlashes? "http" "[::1]".toList = some loopback := by
    unfold afterSlashes?
    simp only [special, whole, authority]
    decide
  exact url

theorem base?_loopback : base? "http://[::1]" = .ok loopback := by
  have trimmed : Text.dropTrailingSlashes (Text.trim "http://[::1]") = "http://[::1]" := by
    decide
  unfold base?
  simp only [trimmed, read?_loopback]
  rfl

theorem ofText_loopback (network : Network) (decoder : Decoder) :
    ofText "http://[::1]" network decoder = .ok { base := loopback, network, decoder } := by
  rw [ofText, base?_loopback]
  rfl

theorem scenarioUrl_loopback {more : List String}
    (words : ∀ word ∈ more, word.toList.all isWordChar = true) :
    scenarioUrl loopback ⟨42⟩ more =
      { loopback with path := .segments ("scenarios" :: "42" :: more) } := by
  have first (special : Bool) : push special [""] "scenarios" = ["scenarios"] :=
    push_word _ _ (by decide)
  have others (special : Bool) : ("42" :: more).foldl (push special) ["scenarios"] =
      "scenarios" :: "42" :: more := by
    refine foldl_push_words special (by decide) (by decide) ?_
    exact List.forall_mem_cons.mpr ⟨by decide, words⟩
  have display : (⟨42⟩ : ScenarioId).display = "42" := by decide
  have kept : dropEmptyEnd [""] = [""] := by decide
  simp only [scenarioUrl, addSegments, loopback, kept, display]
  rw [List.foldl_cons, first, others]

theorem optionsUrl_loopback : optionsUrl loopback ⟨42⟩ =
    { loopback with path := .segments ["scenarios", "42", "scenario-results-options"] } :=
  scenarioUrl_loopback (by decide)

theorem tableUrl_loopback : tableUrl loopback ⟨42⟩ .systemRps =
    { loopback with path := .segments ["scenarios", "42", "results-system-rps"] } :=
  scenarioUrl_loopback (by decide)

theorem plotUrl_loopback :
    plotUrl loopback ⟨42⟩ .costPlot [none, some (.text "1"), some .unsetMaximum] =
      { loopback with
        path := .segments ["scenarios", "42", "results-cost-plot", "null", "1", "default"] } :=
  scenarioUrl_loopback (by decide)

theorem isAskable_loopback : isAskable (asked (optionsUrl loopback ⟨42⟩)) := by
  rw [optionsUrl_loopback]
  decide

/-- A client of a server that gives one reply. -/
def besideReply (body : String) : Client :=
  { base := loopback, network := { replies := [.answer 200 body] } }

theorem besideReply_receives_table (body : String) :
    (besideReply body).Receives (tableUrl loopback ⟨42⟩ .systemRps) body :=
  receives_of_reply (by rw [tableUrl_loopback]; decide) rfl rfl rfl

theorem besideReply_receives_plot (body : String) :
    (besideReply body).Receives
      (plotUrl loopback ⟨42⟩ .costPlot [none, some (.text "1"), some .unsetMaximum]) body :=
  receives_of_reply (by rw [plotUrl_loopback]; decide) rfl rfl rfl

end

end Client

end ScenarioResults
