import ScenarioResults.Proofs.Json.Compact
import ScenarioResults.Proofs.PlotPage.Closing

/-!
# What a script reads of a description

The backslash that guards a slash on a plot page stands inside a string, where it changes nothing: what
is read of the guarded text is what is read of the compact text itself (`item_read_alike`). Outside of
strings no angle bracket stands in any JSON text.
-/

namespace ScenarioResults.PlotPage

open Json

section

variable {text : List Char} {scan final : Scan}

theorem ofWord?_bracket {word : List Char} (bracket : '<' ∈ word) :
    Token.ofWord? (String.ofList word) = none :=
  Token.ofWord?_of_foreign bracket (by decide) (by decide)

/-- The text has come into a word with an angle bracket. -/
def Stuck (scan : Scan) : Prop := ∃ letters, scan.position = .word letters ∧ '<' ∈ letters

theorem Stuck.unended (stuck : Stuck scan) : scan.ended? = none := by
  obtain ⟨letters, within, bracket⟩ := stuck
  simp only [Scan.ended?, within, ofWord?_bracket (List.mem_reverse.mpr bracket)]
  rfl

theorem Stuck.step {c : Char} (stuck : Stuck scan) (stepped : Token.step scan c = some final) :
    Stuck final := by
  obtain ⟨tokens, position⟩ := scan
  obtain ⟨letters, rfl, bracket⟩ := stuck
  have refused := ofWord?_bracket (List.mem_reverse.mpr bracket)
  by_cases ends : Token.endsWord c
  · simp [Token.step, ends, refused] at stepped
  · simp only [Token.step, ends, Bool.false_eq_true, if_false] at stepped
    cases stepped
    exact ⟨c :: letters, rfl, List.mem_cons_of_mem c bracket⟩

/-- After an angle bracket in a word no token is finished any more. -/
theorem Stuck.unfinished (stuck : Stuck scan) (read : text.foldlM Token.step scan = some final) :
    final.ended? = none :=
  (foldlM_keeps Stuck (fun _ _ _ _ stepped stuck => stuck.step stepped) read stuck).unended

/-- A text that may end where it does is scanned alike when its closing tags are guarded. -/
theorem foldlM_guardClosing (read : text.foldlM Token.step scan = some final)
    (ended : final.ended? ≠ none) : (guardClosing text).foldlM Token.step scan = some final := by
  fun_induction guardClosing text generalizing scan with
  | case1 => exact read
  | case2 rest ih =>
    obtain ⟨tokens, position⟩ := scan
    -- Only inside a string is there an angle bracket, and there the guarded slash is a slash.
    cases position with
    | between =>
      have word : ('/' :: rest).foldlM Token.step ⟨tokens, .word ['<']⟩ = some final := read
      exact (ended (Stuck.unfinished ⟨_, rfl, List.mem_cons_self⟩ word)).elim
    | word letters =>
      have word : ('/' :: rest).foldlM Token.step ⟨tokens, .word ('<' :: letters)⟩ = some final :=
        read
      exact (ended (Stuck.unfinished ⟨_, rfl, List.mem_cons_self⟩ word)).elim
    | string pieces =>
      have inside : rest.foldlM Token.step ⟨tokens, .string (.char '/' :: .char '<' :: pieces)⟩ =
          some final := read
      exact ih inside
    | escape pieces =>
      have refused : none = some final := read
      cases refused
    | unit pieces value missing =>
      have refused : none = some final := read
      cases refused
  | case3 c rest _ ih =>
    rw [List.foldlM_cons] at read ⊢
    obtain ⟨next, first, others⟩ := Option.bind_eq_some_iff.mp read
    rw [first]
    exact ih others

theorem scan?_guardClosing {tokens : List Token} (read : Token.scan? text = some tokens) :
    Token.scan? (guardClosing text) = some tokens := by
  obtain ⟨final, scanned, finished⟩ := Option.bind_eq_some_iff.mp read
  have ended : final.ended? ≠ none := by
    intro none
    rw [Token.finish_eq, none] at finished
    cases finished
  rw [Token.scan?, foldlM_guardClosing scanned ended]
  exact finished

end

/-- What a page says of a plot holds no closing tag, and it is a JSON text that is read as the same
tree and the same value as the compact text of the description. -/
theorem item_read_alike (description : PlotDescription) :
    ¬ ['<', '/'] <:+: (item description).toList ∧
      Tree.ofText? (item description) = some description.value.tree ∧
      Tree.ofText? description.value.text = some description.value.tree ∧
      Value.ofText? (item description) = Value.ofText? description.value.text := by
  have plain := description.value.ofText?_text
  have guarded : Tree.ofText? (item description) = some description.value.tree := by
    have scanned := scan?_guardClosing (Token.scan?_of_scans description.value.scans_compact)
    rw [Tree.ofText?, item, String.toList_ofList, scanned, Option.bind_some,
      Tree.ofTokens?_tokens]
  refine ⟨?_, guarded, plain, ?_⟩
  · rw [item, String.toList_ofList]
    exact (guardClosing_apart _).tagless
  · rw [Value.ofText?, Value.ofText?, guarded, plain]

end ScenarioResults.PlotPage
