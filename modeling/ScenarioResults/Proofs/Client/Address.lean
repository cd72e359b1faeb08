import ScenarioResults.Proofs.Client.Asking

/-!
# The address of a plot

A plot is asked for by the segments of its address: those of the base URL, the scenario, the view and
one segment for each argument. They tell the server every argument in its place as long as all of them
are upright texts; an argument that is not moves the later ones up or is told as another text
(`positional_iff`). A base URL whose path is two empty segments loses both.
-/

namespace ScenarioResults.Client

open Url

/-- The segments of a path, less an empty one at the end. -/
def trunk (parts : List String) : List String :=
  if parts.getLast? = some "" then parts.dropLast else parts

/-- The address of a plot is the path of the base URL, the scenario, the view and one segment for each
argument, which decodes to it. -/
def Positional (base : Url) (parts : List String) (scenario : ScenarioId) (key : ViewKey)
    (arguments : List PlotArgument) : Prop :=
  ∃ segments, (plotUrl base scenario key arguments).path =
      .segments (trunk parts ++ "scenarios" :: scenario.display :: key.slug :: segments) ∧
    List.Forall₂ (fun argument segment => Spells segment (argumentSegment argument))
      arguments segments

theorem segments_of_base {text : String} {base : Url} (accepted : base? text = .ok base) :
    ∃ parts, base.path = .segments parts := by
  unfold base? at accepted
  dsimp only at accepted
  split at accepted
  · cases accepted
  · split at accepted
    · cases accepted
    next url read =>
      split at accepted
      next segmented =>
        obtain rfl := Except.ok.inj accepted
        cases path : url.path with
        | bare text => simp [hasSegments, path] at segmented
        | segments parts => exact ⟨parts, rfl⟩
      next => cases accepted

theorem display_word (scenario : ScenarioId) : scenario.display.toList.all isWordChar = true := by
  have digits (n : Nat) : n.repr.toList.all isWordChar = true := by
    refine List.all_eq_true.mpr ?_
    intro c member
    rw [Nat.repr, String.toList_ofList] at member
    have digit := Nat.isDigit_of_mem_toDigits (by decide) (by decide) member
    simp [isWordChar, Char.isAlphanum, digit]
  have shown : scenario.display = scenario.number.toInt.repr := rfl
  rw [shown, Int.repr_eq_if]
  split
  · exact digits _
  · rw [String.toList_append, List.all_append, digits]
    rfl

theorem slug_word (key : ViewKey) : key.slug.toList.all isWordChar = true := by
  cases key <;> decide +kernel

/-! ### What the arguments are added to -/

/-- What there is of the path of the base URL when the first segment is added. -/
def stem (parts : List String) : List String :=
  if dropEmptyEnd parts = [""] then [] else dropEmptyEnd parts

theorem stem_eq_trunk {parts : List String} (apart : parts ≠ ["", ""]) : stem parts = trunk parts := by
  unfold stem trunk dropEmptyEnd
  by_cases last : parts.getLast? = some ""
  · by_cases long : 1 < parts.length
    · have more : parts.dropLast ≠ [""] := by
        intro same
        have whole := List.dropLast_append_getLast? "" (Option.mem_def.mpr last)
        rw [same] at whole
        exact apart whole.symm
      simp [last, long, more]
    · obtain rfl : parts = [""] := by
        cases parts with
        | nil => cases last
        | cons first rest =>
          obtain rfl : rest = [] := by simpa using long
          simpa using last
      rfl
  · have more : parts ≠ [""] := by
      rintro rfl
      exact last rfl
    simp [last, more]

/-- The first segments that are added are words, so all but those of the arguments is known. -/
theorem plotUrl_path {base : Url} {parts : List String} (path : base.path = .segments parts)
    (scenario : ScenarioId) (key : ViewKey) (arguments : List PlotArgument) :
    (plotUrl base scenario key arguments).path =
      .segments ((arguments.map argumentSegment).foldl (push (isSpecial base.scheme))
        (stem parts ++ ["scenarios", scenario.display, key.slug])) := by
  let special := isSpecial base.scheme
  have first : push special (dropEmptyEnd parts) "scenarios" = stem parts ++ ["scenarios"] :=
    push_word _ _ (by decide)
  have others : push special (push special (stem parts ++ ["scenarios"]) scenario.display) key.slug =
      stem parts ++ ["scenarios", scenario.display, key.slug] := by
    have kept : stem parts ++ ["scenarios"] ≠ [""] := fun same => by
      simpa using congrArg List.getLast? same
    have words : ∀ word ∈ [scenario.display, key.slug], word.toList.all isWordChar = true :=
      List.forall_mem_cons.mpr
        ⟨display_word scenario, List.forall_mem_singleton.mpr (slug_word key)⟩
    have added := foldl_push_words special (by simp) kept words
    rwa [List.append_assoc] at added
  simp only [plotUrl, scenarioUrl, addSegments, path, List.foldl_cons]
  rw [first, others]

/-- The address of a plot on a base URL that is accepted tells every argument in its place exactly if
the path of the base is not two empty segments and every argument is an upright text. -/
theorem positional_iff {text : String} {base : Url} (accepted : base? text = .ok base)
    (scenario : ScenarioId) (key : ViewKey) (arguments : List PlotArgument) :
    ∃ parts, base.path = .segments parts ∧
      (Positional base parts scenario key arguments ↔
        parts ≠ ["", ""] ∧ ∀ argument ∈ arguments, Upright (argumentSegment argument)) := by
  obtain ⟨parts, path⟩ := segments_of_base accepted
  refine ⟨parts, path, ?_⟩
  have known := plotUrl_path path scenario key arguments
  have two : 2 ≤ (stem parts ++ ["scenarios", scenario.display, key.slug]).length := by
    rw [List.length_append]
    exact Nat.le_trans (by decide : 2 ≤ 3) (Nat.le_add_left _ _)
  by_cases apart : parts = ["", ""]
  · -- Of the two empty segments none is left, so one place is missing whatever the arguments are.
    subst apart
    have size := (foldl_push (isSpecial base.scheme) two (arguments.map argumentSegment)).size
    refine iff_of_false ?_ fun upright => upright.1 rfl
    rintro ⟨segments, same, spelled⟩
    rw [known] at same
    have whole := congrArg List.length (UrlPath.segments.inj same)
    have length := spelled.length_eq
    have stems : (stem ["", ""]).length = 0 := rfl
    have trunks : (trunk ["", ""]).length = 1 := rfl
    simp only [List.length_append, List.length_cons, List.length_nil, List.length_map] at size whole
    omega
  · have upright := foldl_push_iff (isSpecial base.scheme) two (arguments.map argumentSegment)
    rw [List.forall_mem_map] at upright
    simp only [Positional, known, stem_eq_trunk apart, UrlPath.segments.injEq, ne_eq, apart,
      not_false_eq_true, true_and, ← upright, List.append_assoc, List.cons_append, List.nil_append,
      List.forall₂_map_left_iff]

/-- A slash, dots that are encoded and an argument that is not set are told in their places. -/
theorem positional_iff_escaped :
    base? "http://[::1]" = .ok loopback ∧
      Positional loopback [""] ⟨3⟩ .energyPlot
        [some (.text "a/b?"), none, some (.text "%2e%2E")] := by
  refine ⟨base?_loopback, ?_⟩
  obtain ⟨parts, path, positional⟩ := positional_iff base?_loopback ⟨3⟩ .energyPlot
    [some (.text "a/b?"), none, some (.text "%2e%2E")]
  obtain rfl : [""] = parts := UrlPath.segments.inj path
  exact positional.mpr ⟨by decide, by decide⟩

/-- An argument of one dot is left out, and the others take the places before theirs. -/
theorem not_positional_dot :
    let arguments : List PlotArgument := [some (.text "."), none, some (.text "default")]
    base? "http://[::1]" = .ok loopback ∧
      (plotUrl loopback ⟨3⟩ .energyPlot arguments).path =
        .segments ["scenarios", "3", "results-energy-plot", "null", "default"] ∧
      ¬ Positional loopback [""] ⟨3⟩ .energyPlot arguments := by
  intro arguments
  have path : (plotUrl loopback ⟨3⟩ .energyPlot arguments).path =
      .segments ["scenarios", "3", "results-energy-plot", "null", "default"] := by
    let before := ["scenarios", "3", "results-energy-plot"]
    let special := isSpecial loopback.scheme
    have dot : push special before "." = before := if_pos (.inl rfl)
    have added : [".", "null", "default"].foldl (push special) before =
        before ++ ["null", "default"] := by
      rw [List.foldl_cons, dot]
      exact foldl_push_words special (by decide) (by decide) (by decide)
    have known := @plotUrl_path loopback [""] rfl ⟨3⟩ .energyPlot arguments
    rw [known]
    exact congrArg UrlPath.segments added
  refine ⟨base?_loopback, path, ?_⟩
  rintro ⟨segments, same, spelled⟩
  rw [path] at same
  have whole := congrArg List.length (UrlPath.segments.inj same)
  have bare : (trunk [""]).length = 0 := rfl
  have each : arguments.length = segments.length := spelled.length_eq
  simp only [arguments, List.length_append, List.length_cons, List.length_nil, bare] at whole each
  omega

end ScenarioResults.Client
