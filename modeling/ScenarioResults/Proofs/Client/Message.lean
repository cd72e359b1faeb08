import ScenarioResults.Client
import ScenarioResults.Proofs.Json.Compact
import ScenarioResults.Proofs.Json.Members
import ScenarioResults.Proofs.Text.Trim

/-!
# What a server's refusal is told as

A server that refuses may say why, in one of three places of the object it sends, or in a few words of
plain text. The error of the client repeats the first of these that is not empty, except where an empty
text stands before it or where the object has no value (`message_errorOf_iff`).
-/

namespace ScenarioResults.Client

open Json

/-- The strings in the three places where an object may hold a message, those that there are. -/
def messages (tree : Tree) : List String :=
  [tree.member? "message", tree.member? "error",
    (tree.member? "error").bind (Tree.member? "message")].filterMap fun place =>
      place.bind Tree.text?

/-- The first message of a body that is not empty. -/
def told? (body : String) : Option String :=
  (Tree.ofText? body).bind fun tree => (messages tree).find? fun message => !message.isEmpty

/-- What is to be said of a refusal with a body. -/
def report (status : Nat) (body : String) : String :=
  match told? body with
  | some message => "server error (" ++ toString status ++ "): " ++ message
  | none =>
    let plain := Text.trim body
    if plain ≠ "" ∧ plain.utf8ByteSize < 100 ∧ '\x7b' ∉ plain.toList then
      "server error (" ++ toString status ++ "): " ++ plain
    else "server returned " ++ toString status

/-- There is a message that is not empty, but the body has no value or an empty one comes before. -/
def Muted (body : String) : Prop :=
  ∃ tree, Tree.ofText? body = some tree ∧ (told? body).isSome ∧
    (tree.value? = none ∨ (messages tree).head? = some "")

section

variable {status : Nat} {body : String} {tree : Tree}

/-! ### The messages of a value -/

theorem text?_of_member? {outer : Nat} {value : Value} (worth : tree.valueIn? outer = some value)
    (name : String) :
    (value.member? name).bind Value.string? = (tree.member? name).bind Tree.text? := by
  rcases Tree.member?_of_valueIn? worth name with ⟨none, unheld⟩ | ⟨member, held, given, has, same⟩
  · rw [none, unheld]
    rfl
  · rw [given, has]
    exact Tree.string?_of_valueIn? same

theorem text?_of_error {value : Value} (worth : tree.value? = some value) :
    ((value.member? "error").bind fun error => error.member? "message").bind Value.string? =
      ((tree.member? "error").bind (Tree.member? "message")).bind Tree.text? := by
  rcases Tree.member?_of_valueIn? worth "error" with ⟨none, unheld⟩ | ⟨error, held, given, has, same⟩
  · rw [none, unheld]
    rfl
  · rw [given, has]
    exact text?_of_member? same "message"

theorem serverMessage?_eq {value : Value} (worth : tree.value? = some value) :
    serverMessage? value = (messages tree).head?.filter fun message => !message.isEmpty := by
  unfold serverMessage? messages
  rw [text?_of_member? worth, text?_of_member? worth, text?_of_error worth]
  simp only [List.filterMap_cons, List.filterMap_nil]
  cases (tree.member? "message").bind Tree.text? with
  | some message => rfl
  | none =>
    cases (tree.member? "error").bind Tree.text? with
    | some message => rfl
    | none =>
      cases ((tree.member? "error").bind (Tree.member? "message")).bind Tree.text? <;> rfl

/-! ### Bodies without a message -/

theorem brace_of_told (told : (told? body).isSome) : '\x7b' ∈ (Text.trim body).toList := by
  refine Text.mem_trim (by decide) ?_
  obtain ⟨message, told⟩ := Option.isSome_iff_exists.mp told
  obtain ⟨tree, read, told⟩ := Option.bind_eq_some_iff.mp told
  cases tree with
  | object members => exact Tree.brace_of_object read
  | _ => cases told

theorem errorOf_quiet (quiet : (Value.ofText? body).bind serverMessage? = none) :
    errorOf status body =
      if Text.trim body ≠ "" ∧ (Text.trim body).utf8ByteSize < 100 ∧
        '\x7b' ∉ (Text.trim body).toList then .server status (Text.trim body)
      else .silentServer status := by
  have plain : (!(Text.trim body).isEmpty && decide ((Text.trim body).utf8ByteSize ≤ maxPlainBody) &&
      !(Text.trim body).contains '\x7b') = decide (Text.trim body ≠ "" ∧
        (Text.trim body).utf8ByteSize < 100 ∧ '\x7b' ∉ (Text.trim body).toList) := by
    rw [Bool.eq_iff_iff]
    simp only [Bool.and_eq_true, Bool.not_eq_true', Bool.eq_false_iff, String.contains_char_eq,
      decide_eq_true_eq, String.isEmpty_iff, ne_eq, and_assoc]
    rw [maxPlainBody, Nat.lt_succ_iff]
  simp only [errorOf, quiet, plain, decide_eq_true_eq]

theorem report_of_untold (untold : told? body = none)
    (quiet : (Value.ofText? body).bind serverMessage? = none) :
    (errorOf status body).fault.message = report status body := by
  simp only [errorOf_quiet quiet, report, untold]
  split <;> rfl

/-- A muted message is not told, nor is anything else. -/
theorem errorOf_muted (muted : Muted body) : errorOf status body = .silentServer status := by
  obtain ⟨tree, read, told, silent⟩ := muted
  have quiet : (Value.ofText? body).bind serverMessage? = none := by
    rw [Value.ofText?, read, Option.bind_some]
    cases worth : tree.value? with
    | none => rfl
    | some value =>
      rw [Option.bind_some, serverMessage?_eq worth]
      rcases silent with worthless | empty
      · rw [worthless] at worth
        cases worth
      · rw [empty]
        rfl
  rw [errorOf_quiet quiet, if_neg]
  exact fun plain => plain.2.2 (brace_of_told told)

theorem report_of_told {message : String} (told : told? body = some message) :
    report status body = "server error (" ++ toString status ++ "): " ++ message := by
  simp only [report, told]

theorem silent_ne_error (number message : String) :
    "server returned " ++ number ≠ "server error (" ++ number ++ "): " ++ message := by
  intro same
  have letters := congrArg (fun text => (text.toList.drop 7).head?) same
  simp at letters

/-- What is not muted is told. -/
theorem report_of_not_muted (heard : ¬ Muted body) :
    (errorOf status body).fault.message = report status body := by
  cases read : Tree.ofText? body with
  | none => exact report_of_untold (by rw [told?, read]; rfl) (by rw [Value.ofText?, read]; rfl)
  | some tree =>
    have told : told? body = (messages tree).find? fun message => !message.isEmpty := by
      rw [told?, read]
      rfl
    have quiet (silent : tree.value? = none ∨ (messages tree).head? = some "") :
        told? body = none := by
      rw [← Option.not_isSome_iff_eq_none]
      exact fun some => heard ⟨tree, read, some, silent⟩
    cases worth : tree.value? with
    | none =>
      exact report_of_untold (quiet (.inl worth)) (by rw [Value.ofText?, read]; simp [worth])
    | some value =>
      have message : (Value.ofText? body).bind serverMessage? =
          (messages tree).head?.filter fun message => !message.isEmpty := by
        rw [Value.ofText?, read, Option.bind_some, worth, Option.bind_some, serverMessage?_eq worth]
      cases first : (messages tree).head? with
      | none =>
        rw [List.head?_eq_none_iff] at first
        exact report_of_untold (by rw [told, first]; rfl) (by rw [message, first]; rfl)
      | some word =>
        by_cases empty : word = ""
        · subst empty
          exact report_of_untold (quiet (.inr first)) (by rw [message, first]; rfl)
        · obtain ⟨rest, words⟩ := List.head?_eq_some_iff.mp first
          have chosen : told? body = some word := by simp [told, words, empty]
          have heard : (Value.ofText? body).bind serverMessage? = some word := by
            rw [message, first, Option.filter_some, if_pos (by simpa using empty)]
          rw [report_of_told chosen, errorOf, heard]
          rfl

end

/-- The error says what is to be said, unless the message is muted. -/
theorem message_errorOf_iff (status : Nat) (body : String) :
    (errorOf status body).fault.message = report status body ↔ ¬ Muted body := by
  constructor
  · intro same muted
    obtain ⟨message, told⟩ := Option.isSome_iff_exists.mp muted.choose_spec.2.1
    rw [errorOf_muted muted, report_of_told told] at same
    exact silent_ne_error _ _ same
  · exact report_of_not_muted

/-- An empty message hides the error beside it. -/
theorem message_errorOf_empty :
    let body := "\x7b\"message\":\"\",\"error\":\"boom\"\x7d"
    (errorOf 500 body).fault.message = "server returned 500" ∧
      report 500 body = "server error (500): boom" := by
  intro body
  let value : Value := .object [("message", .string ""), ("error", .string "boom")]
  have text : body = value.text := by rfl
  have read : Tree.ofText? body = some value.tree := text ▸ value.ofText?_text
  have told : told? body = some "boom" := by
    rw [told?, read]
    rfl
  have muted : Muted body := ⟨value.tree, read, by rw [told]; rfl, .inr rfl⟩
  exact ⟨by rw [errorOf_muted muted]; rfl, report_of_told told⟩

end ScenarioResults.Client
