import ScenarioResults.Proofs.Client.Asking
import ScenarioResults.Proofs.Coordinator.Slots
import ScenarioResults.Proofs.Json.Blank
import ScenarioResults.Proofs.Json.Holding
import ScenarioResults.Proofs.Json.Nesting

/-!
# How the description of a plot is read

A reply holds the description of a plot as JSON or as a string of JSON text, and both are read alike
(`plot_read_alike`). A blank string is never a JSON text, so it can stand for no description at all.
-/

namespace ScenarioResults

open Json

/-- A description with nothing to draw lands as an empty result. -/
theorem Coordinator.apply_undrawn {coordinator : Coordinator} {ticket : Ticket}
    {description : PlotDescription} {active : Option ViewKey} {surface : Surface}
    (lands : coordinator.Lands ⟨ticket, .plot description⟩ active)
    (pending : (coordinator.slot ticket.key).pendingSurface = some surface)
    (undrawn : description.isEmpty) (now : Instant) :
    (coordinator.apply ⟨ticket, .plot description⟩ active now).1 = .ok (.empty ticket.key) ∧
      (coordinator.apply ⟨ticket, .plot description⟩ active now).2.status ticket.key = .empty := by
  have empty : (ViewPayload.plot ⟨surface, description⟩).isEmpty := undrawn
  rw [apply_of_lands lands]
  simp [land, pending, undrawn, status, ViewSlot.settle, empty]

namespace Client

/-- A body has nothing in the place of a description: no such member, null or a blank string. -/
inductive Undescribed (body : String) (others : List (String × Tree)) : Prop where
  | missing (lacks : Lacks body "plotJSON" others)
  | null (holds : Holds body "plotJSON" .null others)
  | blank (s : String) (blank : Text.isAllBlank s = true)
    (holds : Holds body "plotJSON" (.string (some s)) others)

/-! ### Descriptions -/

section

variable {decoder : Decoder}

theorem describe_of_bare {value : Value} (bare : value.string? = none) :
    describe decoder value = .ok ⟨value⟩ := by
  cases value with
  | string s => cases bare
  | _ => rfl

/-- A string of JSON text is no blank one, so the value of the text is what it describes. -/
theorem describe_text {text : String} {tree : Tree} {value : Value}
    (read : Tree.ofText? text = some tree) (worth : tree.value? = some value) :
    describe decoder (.string text) = .ok ⟨value⟩ := by
  have same : Value.ofText? text = some value := by rw [Value.ofText?, read, Option.bind_some, worth]
  simp [describe, Tree.not_blank_of_ofText? read, same]

theorem describe_blank {s : String} (blank : Text.isAllBlank s = true) :
    describe decoder (.string s) = .ok ⟨.null⟩ := if_pos blank

theorem describe_refused {s : String} (visible : Text.isAllBlank s = false)
    (unread : Value.ofText? s = none) : describe decoder (.string s) =
      .error (.undecodablePlot (decoder.causes "plotJSON" s)) := by
  simp [describe, visible, unread]

end

/-! ### Replies -/

section

variable {client : Client} {scenario : ScenarioId} {key : ViewKey} {arguments : List PlotArgument}
  {body : String} {tree : Tree} {others : List (String × Tree)}

theorem plot_of_holds
    (receives : client.Receives (plotUrl client.base scenario key arguments) body)
    (holds : Holds body "plotJSON" tree others) :
    (client.plot scenario key arguments).1 =
      match tree.valueIn? 1 with
      | some value => describe client.decoder value
      | none => .error (.undecodable key.slug (client.decoder.causes key.slug body)) := by
  obtain ⟨object, read, fields⟩ := holds.fields?
  have member : plotMember? object = tree.valueIn? 1 := by simp [plotMember?, fields]
  simp only [plot, fetch_of_receives receives, fetch_decoder, read, Option.bind_some, member]
  cases tree.valueIn? 1 <;> rfl

theorem plot_of_lacks
    (receives : client.Receives (plotUrl client.base scenario key arguments) body)
    (lacks : Lacks body "plotJSON" others) :
    (client.plot scenario key arguments).1 = .ok ⟨.null⟩ := by
  obtain ⟨object, read, fields⟩ := lacks.fields?
  have member : plotMember? object = some .null := by simp [plotMember?, fields]
  simp only [plot, fetch_of_receives receives, fetch_decoder, read, Option.bind_some, member]
  rfl

theorem plot_of_text
    (receives : client.Receives (plotUrl client.base scenario key arguments) body) {text : String}
    (holds : Holds body "plotJSON" (.string (some text)) others) :
    (client.plot scenario key arguments).1 = describe client.decoder (.string text) :=
  plot_of_holds receives holds

theorem plot_of_tree
    (receives : client.Receives (plotUrl client.base scenario key arguments) body) {value : Value}
    (worth : tree.value? = some value) (bare : value.string? = none)
    (holds : Holds body "plotJSON" tree others) :
    (client.plot scenario key arguments).1 =
      if tree.nesting < maxDepth then .ok ⟨value⟩
      else .error (.undecodable key.slug (client.decoder.causes key.slug body)) := by
  rw [plot_of_holds receives holds]
  split_ifs with fits
  · rw [(Tree.valueIn?_iff_nesting worth (by decide)).mpr (by omega)]
    exact describe_of_bare bare
  · cases read : tree.valueIn? 1 with
    | none => rfl
    | some other =>
      have := Tree.nesting_le_of_valueIn? (by decide) read
      omega

theorem plot_of_undescribed
    (receives : client.Receives (plotUrl client.base scenario key arguments) body)
    (undescribed : Undescribed body others) :
    (client.plot scenario key arguments).1 = .ok ⟨.null⟩ := by
  cases undescribed with
  | missing lacks => exact plot_of_lacks receives lacks
  | null holds => exact plot_of_holds receives holds
  | blank s blank holds => rw [plot_of_text receives holds, describe_blank blank]

end

theorem execute_plot {client : Client} {ticket : Ticket} {scenario : ScenarioId}
    {arguments : List PlotArgument} {description : PlotDescription}
    (heard : (client.plot scenario ticket.key arguments).1 = .ok description) :
    ((FetchRequest.plot ticket scenario arguments).execute client).1 =
      ⟨ticket, .plot description⟩ := by
  rw [execute_eq, hear, heard]
  rfl

/-- A description that is sent as JSON text of a value, in place or in a string, is the value. It is null if
nothing is sent in its place, and then the result is empty. Any other string is an error. -/
theorem plot_read_alike {client : Client} (ticket : Ticket) {scenario : ScenarioId}
    {arguments : List PlotArgument} {body : String}
    (receives : client.Receives (plotUrl client.base scenario ticket.key arguments) body)
    (others : List (String × Tree)) :
    let answer := (client.plot scenario ticket.key arguments).1
    let event := ((FetchRequest.plot ticket scenario arguments).execute client).1
    (∀ text tree value, Tree.ofText? text = some tree → tree.value? = some value →
      value.string? = none →
      (Holds body "plotJSON" tree others → answer =
        if tree.nesting < maxDepth then .ok ⟨value⟩
        else .error
          (.undecodable ticket.key.slug (client.decoder.causes ticket.key.slug body))) ∧
      (Holds body "plotJSON" (.string (some text)) others → answer = .ok ⟨value⟩)) ∧
    (Undescribed body others → answer = .ok ⟨.null⟩ ∧
      ∀ (coordinator : Coordinator) (active : Option ViewKey) (surface : Surface) (now : Instant),
        coordinator.Lands event active →
        (coordinator.slot ticket.key).pendingSurface = some surface →
        (coordinator.apply event active now).1 = .ok (.empty ticket.key) ∧
          (coordinator.apply event active now).2.status ticket.key = .empty) ∧
    (∀ s, Text.isAllBlank s = false → Value.ofText? s = none →
      Holds body "plotJSON" (.string (some s)) others →
        answer = .error (.undecodablePlot (client.decoder.causes "plotJSON" s))) := by
  intro answer event
  refine ⟨?alike, ?nothing, ?refused⟩
  case alike =>
    intro text tree value read worth bare
    refine ⟨plot_of_tree receives worth bare, fun holds => ?_⟩
    exact (plot_of_text receives holds).trans (describe_text read worth)
  case nothing =>
    intro undescribed
    have null : answer = .ok ⟨.null⟩ := plot_of_undescribed receives undescribed
    refine ⟨null, fun coordinator active surface now lands pending => ?_⟩
    have same : event = ⟨ticket, .plot ⟨.null⟩⟩ := execute_plot null
    rw [same] at lands ⊢
    exact Coordinator.apply_undrawn lands pending rfl now
  case refused =>
    intro s visible unread holds
    exact (plot_of_text receives holds).trans (describe_refused visible unread)

/-- A text with blanks around it, in place and in a string, after another member. -/
theorem plot_read_alike_spaced :
    let text := " \x7b\"a\": [null]\x7d "
    let inString := String.ofList (literal text)
    let arguments : List PlotArgument := [none, some (.text "1"), some .unsetMaximum]
    let url := plotUrl loopback ⟨42⟩ .costPlot arguments
    let body (member : String) : String :=
      objectText [("\"final\"", "true"), ("\"plotJSON\"", member)]
    let client (member : String) : Client := besideReply (body member)
    (client text).Receives url (body text) ∧ (client inString).Receives url (body inString) ∧
      ((client text).plot ⟨42⟩ .costPlot arguments).1 = .ok ⟨.object [("a", .array [.null])]⟩ ∧
      ((client inString).plot ⟨42⟩ .costPlot arguments).1 =
        .ok ⟨.object [("a", .array [.null])]⟩ := by
  have scanned : Tree.ofText? " \x7b\"a\": [null]\x7d " =
      some (.object [(some "a", .array [.null])]) := by rfl
  have quoted : Tree.ofText? (String.ofList (literal " \x7b\"a\": [null]\x7d ")) =
      some (.string (some " \x7b\"a\": [null]\x7d ")) := by rfl
  have label : Tree.ofText? "\"plotJSON\"" = some (.string (some "plotJSON")) := by rfl
  have first : List.Forall₂ MemberRead [("\"final\"", "true")] [("final", .bool true)] :=
    .cons ⟨rfl, rfl⟩ .nil
  intro text inString arguments url body client
  have receives (member : String) : (client member).Receives url (body member) :=
    besideReply_receives_plot _
  have holds {member : String} {given : Tree} (read : Tree.ofText? member = some given) :
      Holds (body member) "plotJSON" given [("final", .bool true)] :=
    holds_objectText first .nil ⟨label, read⟩ (by simp)
  have alike (member : String) :=
    (plot_read_alike ⟨.costPlot, ⟨1⟩⟩ (receives member) [("final", .bool true)]).1
  refine ⟨receives text, receives inString, ?_, ?_⟩
  · exact (alike text _ _ _ scanned rfl rfl).1 (holds scanned)
  · exact (alike inString _ _ _ scanned rfl rfl).2 (holds quoted)

end Client

end ScenarioResults
