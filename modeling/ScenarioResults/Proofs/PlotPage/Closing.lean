import Mathlib.Data.List.Chain
import ScenarioResults.PlotPage
import ScenarioResults.Proofs.Json.Literal
import ScenarioResults.Proofs.Surface.Name
import ScenarioResults.Proofs.Text.Markup

/-!
# What ends a script on a plot page

A script ends where its closing tag begins, in any letter case and whatever it is that the script was
about to say. A page of a standard plot has two such places, and the template put both there
(`scripts_end_twice`). Names and addresses hold no angle bracket once they are escaped, and no slash
comes right after an angle bracket in a description.
-/

namespace ScenarioResults.PlotPage

/-! ### Closing tags in a text -/

def scriptEnd : List Char := ['<', '/', 's', 'c', 'r', 'i', 'p', 't']

/-- A closing script tag begins here, in any letter case. -/
def closesScript (text : List Char) : Bool := scriptEnd.isPrefixOf (text.map Char.toLower)

/-- The places in a text where a closing script tag begins. -/
def closings (text : List Char) : List Nat :=
  (List.range text.length).filter fun n => closesScript (text.drop n)

theorem closings_cons (c : Char) (rest : List Char) :
    closings (c :: rest) =
      (if closesScript (c :: rest) then [0] else []) ++ (closings rest).map (· + 1) := by
  unfold closings
  rw [List.length_cons, List.range_succ_eq_map, List.filter_cons, List.filter_map]
  split <;> simp_all [Function.comp_def]

/-- A text that is not the beginning of a tag, however it goes on. -/
def departs : List Char → List Char → Bool
  | d :: tag, c :: text => d != c.toLower || departs tag text
  | _, _ => false

theorem not_isPrefixOf_of_departs {tag text : List Char} (differs : departs tag text = true)
    (rest : List Char) : tag.isPrefixOf ((text ++ rest).map Char.toLower) = false := by
  induction tag generalizing text with
  | nil => cases text <;> cases differs
  | cons d tag ih =>
    cases text with
    | nil => cases differs
    | cons c text =>
      simp only [departs, Bool.or_eq_true, bne_iff_ne] at differs
      simp only [List.cons_append, List.map_cons, List.isPrefixOf, Bool.and_eq_false_iff,
        beq_eq_false_iff_ne]
      exact differs.imp id ih

theorem departs_append {tag text : List Char} (differs : departs tag text = true)
    (rest : List Char) : departs tag (text ++ rest) = true := by
  induction tag generalizing text with
  | nil => cases text <;> cases differs
  | cons d tag ih =>
    cases text with
    | nil => cases differs
    | cons c text =>
      simp only [departs, Bool.or_eq_true, bne_iff_ne, List.cons_append] at differs ⊢
      exact differs.imp id ih

/-- No closing script tag begins in a text, however the text goes on. -/
def isHarmless : List Char → Bool
  | [] => true
  | c :: rest => departs scriptEnd (c :: rest) && isHarmless rest

theorem isHarmless_append {first second : List Char} (harmless : isHarmless first = true)
    (alsoHarmless : isHarmless second = true) : isHarmless (first ++ second) = true := by
  induction first with
  | nil => exact alsoHarmless
  | cons c rest ih =>
    simp only [isHarmless, Bool.and_eq_true, List.cons_append] at harmless ⊢
    exact ⟨departs_append harmless.1 second, ih harmless.2⟩

theorem closings_append {text : List Char} (harmless : isHarmless text = true)
    (rest : List Char) : closings (text ++ rest) = (closings rest).map (text.length + ·) := by
  induction text with
  | nil => simp
  | cons c text ih =>
    simp only [isHarmless, Bool.and_eq_true] at harmless
    have apart : closesScript (c :: (text ++ rest)) = false :=
      not_isPrefixOf_of_departs harmless.1 rest
    rw [List.cons_append, closings_cons, apart, ih harmless.2, List.map_map]
    simp [Function.comp_def, Nat.add_right_comm]

/-- A closing tag ends a script once. -/
theorem closings_scriptEnd (rest : List Char) :
    closings (scriptEnd ++ rest) = 0 :: (closings rest).map (scriptEnd.length + ·) := by
  have tail : isHarmless scriptEnd.tail = true := by decide
  have opens : closesScript ('<' :: (scriptEnd.tail ++ rest)) = true := rfl
  have whole : scriptEnd ++ rest = '<' :: (scriptEnd.tail ++ rest) := rfl
  rw [whole, closings_cons, opens, if_pos rfl, List.singleton_append, closings_append tail,
    List.map_map]
  refine congrArg (0 :: ·) (List.map_congr_left ?_)
  intro place _
  simp only [Function.comp_apply, scriptEnd, List.tail_cons, List.length_cons, List.length_nil]
  omega

/-! ### Texts without a slash after an angle bracket -/

/-- No slash comes right after an angle bracket. -/
def Apart (text : List Char) : Prop := List.IsChain (fun c d => ¬ (c = '<' ∧ d = '/')) text

theorem Apart.tagless {text : List Char} (apart : Apart text) : ¬ ['<', '/'] <:+: text := by
  rintro ⟨before, after, rfl⟩
  have tag := (List.isChain_append.mp (List.isChain_append.mp apart).1).2.1
  exact (List.isChain_cons_cons.mp tag).1 ⟨rfl, rfl⟩

theorem Apart.append {first second : List Char} (apart : Apart first) (alsoApart : Apart second)
    (between : first.getLast? = some '<' → second.head? ≠ some '/') : Apart (first ++ second) := by
  refine List.isChain_append.mpr ⟨apart, alsoApart, ?_⟩
  rintro c last d follows ⟨rfl, rfl⟩
  exact between last follows

theorem apart_of_angle_not_mem {text : List Char} (absent : '<' ∉ text) : Apart text := by
  induction text with
  | nil => exact List.isChain_nil
  | cons c rest ih =>
    simp only [List.mem_cons, not_or] at absent
    refine List.isChain_cons.mpr ⟨?_, ih absent.2⟩
    rintro d - ⟨rfl, -⟩
    exact absent.1 rfl

/-- A mark that is no letter stays itself in lower case, and no other character becomes it. -/
theorem ne_toLower {c mark : Char} (unlettered : mark.toNat < 'a'.toNat) (other : c ≠ mark) :
    mark ≠ c.toLower := by
  intro same
  unfold Char.toLower at same
  split at same
  next upper =>
    have number := congrArg (fun d : Char => d.val.toNat) same
    have below : mark.val.toNat < 97 := unlettered
    have least : 65 ≤ c.val.toNat := upper.1
    have greatest : c.val.toNat ≤ 90 := upper.2
    simp only [UInt32.toNat_add] at number
    have shift : ('a'.val - 'A'.val).toNat = 32 := rfl
    omega
  next => exact other same.symm

/-- Where no slash follows an angle bracket no closing tag begins, if the text ends in something else
than an angle bracket. -/
theorem Apart.harmless {text : List Char} (apart : Apart text) (ends : text.getLast? ≠ some '<') :
    isHarmless text = true := by
  induction text with
  | nil => rfl
  | cons c rest ih =>
    obtain ⟨next, others⟩ := List.isChain_cons.mp apart
    simp only [isHarmless, Bool.and_eq_true]
    cases rest with
    | nil =>
      have other : c ≠ '<' := by simpa using ends
      exact ⟨by simp [departs, scriptEnd, ne_toLower (by decide) other], rfl⟩
    | cons d rest =>
      -- The tag is missed at its first character, or at its second.
      refine ⟨?_, ih others (by simpa [List.getLast?_cons_cons] using ends)⟩
      by_cases angle : c = '<'
      · have other : d ≠ '/' := fun slash => next d rfl ⟨angle, slash⟩
        simp [departs, scriptEnd, ne_toLower (by decide) other]
      · simp [departs, scriptEnd, ne_toLower (by decide) angle]

theorem harmless_of_angle_not_mem {text : List Char} (absent : '<' ∉ text) :
    isHarmless text = true :=
  (apart_of_angle_not_mem absent).harmless fun last => absent (List.mem_of_getLast? last)

theorem head?_guardClosing (text : List Char) : (guardClosing text).head? = text.head? := by
  fun_cases guardClosing text <;> rfl

/-- What is guarded holds no closing tag at all. -/
theorem guardClosing_apart (text : List Char) : Apart (guardClosing text) := by
  fun_induction guardClosing text with
  | case1 => exact List.isChain_nil
  | case2 rest ih =>
    refine List.isChain_cons_cons.mpr ⟨by simp, List.isChain_cons_cons.mpr ⟨by simp, ?_⟩⟩
    exact List.isChain_cons.mpr ⟨by simp, ih⟩
  | case3 c rest unguarded ih =>
    refine List.isChain_cons.mpr ⟨?_, ih⟩
    rintro d follows ⟨rfl, rfl⟩
    rw [head?_guardClosing] at follows
    cases rest with
    | nil => cases follows
    | cons e rest =>
      cases follows
      exact unguarded rest rfl rfl

/-! ### The parts of a page -/

theorem not_mem_escapeMarkup {mark : Char} (special : mark = '<' ∨ mark = '"') (text : String) :
    mark ∉ (Text.escapeMarkup text).toList := by
  have escaped : Text.Escaped (Text.escapeMarkup text).toList := (Text.eq_escapeMarkup_iff.mp rfl).1
  rcases special with rfl | rfl
  · exact escaped.less
  · exact escaped.quote

/-- A page up to the end of the tag that loads the drawing library. -/
def loading (title source : String) : String :=
  "<!DOCTYPE html>\n<html lang=\"en\">\n<head>\n<meta charset=\"utf-8\">\n<title>" ++ title
    ++ "</title>\n<script src=\"" ++ source ++ "\">"

/-- A page between its two scripts, with the tag that opens the second one. -/
def placing (id : String) : String :=
  "\n</head>\n<body>\n<div id=\"" ++ id ++ "\"></div>\n<script>"

/-- The text of the second script. -/
def drawing (item argument : String) : String :=
  "\nBokeh.embed.embed_item(" ++ item ++ ", " ++ argument ++ ");\n"

def closingTag : String := "</script>"

def ending : String := "\n</body>\n</html>\n"

theorem render_eq (plot : PlotResult) (script : String) :
    let name := Text.escapeMarkup plot.surface.name
    render plot script =
      loading name (Text.escapeMarkup script) ++ closingTag ++ placing name
        ++ drawing (item plot.description) (String.ofList (Json.literal plot.surface.name))
        ++ closingTag ++ ending := by
  have loaded : "\"></script>\n</head>\n<body>\n<div id=\"" =
      "\">" ++ closingTag ++ "\n</head>\n<body>\n<div id=\"" := by decide +kernel
  have placed : "\"></div>\n<script>\nBokeh.embed.embed_item(" =
      "\"></div>\n<script>" ++ "\nBokeh.embed.embed_item(" := by decide +kernel
  have drawn : ");\n</script>\n</body>\n</html>\n" = ");\n" ++ closingTag ++ ending := by
    decide +kernel
  unfold render loading placing drawing
  rw [loaded, placed, drawn]
  simp only [String.append_assoc]

theorem isHarmless_concat {first second : String} (harmless : isHarmless first.toList = true)
    (alsoHarmless : isHarmless second.toList = true) :
    isHarmless (first ++ second).toList = true := by
  rw [String.toList_append]
  exact isHarmless_append harmless alsoHarmless

theorem apart_concat {first second : String} (apart : Apart first.toList)
    (alsoApart : Apart second.toList)
    (between : first.toList.getLast? = some '<' → second.toList.head? ≠ some '/') :
    Apart (first ++ second).toList := by
  rw [String.toList_append]
  exact apart.append alsoApart between

theorem escapeMarkup_harmless (text : String) :
    isHarmless (Text.escapeMarkup text).toList = true :=
  harmless_of_angle_not_mem (not_mem_escapeMarkup (.inl rfl) text)

theorem loading_harmless (title source : String) : isHarmless
    (loading (Text.escapeMarkup title) (Text.escapeMarkup source)).toList = true := by
  unfold loading
  refine isHarmless_concat (isHarmless_concat (isHarmless_concat (isHarmless_concat ?_
    (escapeMarkup_harmless title)) ?_) (escapeMarkup_harmless source)) ?_
  · decide +kernel
  · decide +kernel
  · decide +kernel

theorem placing_harmless (id : String) :
    isHarmless (placing (Text.escapeMarkup id)).toList = true := by
  unfold placing
  refine isHarmless_concat (isHarmless_concat ?_ (escapeMarkup_harmless id)) ?_
  · decide +kernel
  · decide +kernel

/-- The second script holds no closing tag, if the name in it does not. -/
theorem drawing_apart (description : PlotDescription) {name : String}
    (absent : '<' ∉ name.toList) :
    Apart (drawing (item description) (String.ofList (Json.literal name))).toList := by
  have drawn : Apart (item description).toList := by
    rw [item, String.toList_ofList]
    exact guardClosing_apart _
  have argument : Apart (String.ofList (Json.literal name)).toList := by
    rw [String.toList_ofList]
    exact apart_of_angle_not_mem (Json.angle_not_mem_literal absent)
  have call : Apart "\nBokeh.embed.embed_item(".toList := apart_of_angle_not_mem (by decide)
  have comma : Apart ", ".toList := apart_of_angle_not_mem (by decide)
  have last : Apart ");\n".toList := apart_of_angle_not_mem (by decide)
  unfold drawing
  refine apart_concat (apart_concat (apart_concat (apart_concat call drawn ?_) comma ?_)
    argument ?_) last ?_
  · have other : "\nBokeh.embed.embed_item(".toList.getLast? ≠ some '<' := by decide
    intro bracket
    exact (other bracket).elim
  · intro _
    decide
  · intro _
    rw [String.toList_ofList]
    simp [Json.literal]
  · intro _
    decide

theorem drawing_harmless (description : PlotDescription) {name : String}
    (absent : '<' ∉ name.toList) : isHarmless
      (drawing (item description) (String.ofList (Json.literal name))).toList = true := by
  refine (drawing_apart description absent).harmless ?_
  have last : ");\n".toList.getLast? = some '\n' := by decide
  unfold drawing
  rw [String.toList_append, List.getLast?_append, last]
  simp

theorem closings_parts {first middle body : String} (opens : isHarmless first.toList = true)
    (links : isHarmless middle.toList = true) (draws : isHarmless body.toList = true) :
    closings (first ++ closingTag ++ middle ++ body ++ closingTag ++ ending).toList =
      [first.length, (first ++ closingTag ++ middle ++ body).length] := by
  have tag : closingTag.toList = scriptEnd ++ ['>'] := by decide
  have last : closings (['>'] ++ ending.toList) = [] := by decide +kernel
  have between : isHarmless (['>'] ++ (middle.toList ++ body.toList)) = true :=
    isHarmless_append (by decide) (isHarmless_append links draws)
  have shape : (first ++ closingTag ++ middle ++ body ++ closingTag ++ ending).toList =
      first.toList ++ (scriptEnd ++ (['>'] ++ (middle.toList ++ body.toList) ++
        (scriptEnd ++ (['>'] ++ ending.toList)))) := by
    simp only [String.toList_append, tag, List.append_assoc]
  rw [shape, closings_append opens, closings_scriptEnd, closings_append between,
    closings_scriptEnd, last]
  simp only [← String.length_toList, String.toList_append, tag, List.length_append, List.map_cons,
    List.map_nil]
  simp only [Nat.add_assoc, Nat.add_zero]

/-- A page of a standard plot has two places where a script can end, both of them in the template, and
the text between the tags of its second script holds no closing tag of any kind. The place of the plot
and the last argument of the script both name the surface. -/
theorem scripts_end_twice (description : PlotDescription) (script : String) :
    ∀ plot ∈ Catalog.standard.plots, ∀ values : FilterValues,
      let surface := Surface.ofValues plot.2 values
      let page := render ⟨surface, description⟩ script
      ∃ id source argument : String,
        let first := loading id source
        let body := drawing (item description) argument
        let second := first ++ closingTag ++ placing id ++ body
        page = second ++ closingTag ++ ending ∧
          closings page.toList = [first.length, second.length] ∧
          ¬ ['<', '/'] <:+: body.toList ∧
          '"' ∉ id.toList ∧ Text.unescapeMarkup id.toList = surface.name.toList ∧
          Json.Value.ofText? argument = some (.string surface.name) := by
  intro plot listed values surface page
  have absent : '<' ∉ surface.name.toList := by
    intro member
    rcases Surface.of_mem_name listed member with same | same | same | plain
    · revert same
      decide
    · revert same
      decide
    · revert same
      decide
    · revert plain
      decide
  have whole := render_eq ⟨surface, description⟩ script
  refine ⟨Text.escapeMarkup surface.name, Text.escapeMarkup script,
    String.ofList (Json.literal surface.name), whole, ?_, (drawing_apart description absent).tagless,
    not_mem_escapeMarkup (.inr rfl) _, ?_, Json.ofText?_literal _⟩
  · have ends := closings_parts (loading_harmless surface.name script)
      (placing_harmless surface.name) (drawing_harmless description absent)
    exact (congrArg (fun text : String => closings text.toList) whole).trans ends
  · rw [Text.escapeMarkup, String.toList_ofList, Text.unescapeMarkup_flatMap]

/-- Closing tags in a filter value, in the description and in the address of the script. -/
theorem scripts_end_twice_tagged :
    let spec : PlotSpec := ⟨"dispatchPlot", Catalog.dispatchFilters⟩
    let plot := (Catalog.plot .dispatchPlot "Dispatch Plot" spec.surface spec.filters, spec)
    let surface := Surface.ofValues spec [(.loadZone, some (.text "</script>"))]
    let description : PlotDescription := ⟨.object [("</SCRIPT>", .string "</script><b>")]⟩
    plot ∈ Catalog.standard.plots ∧
      (closings (render ⟨surface, description⟩ "</script>").toList).length = 2 := by
  intro spec plot surface description
  have listed : plot ∈ Catalog.standard.plots := by decide
  obtain ⟨id, source, argument, -, ends, -⟩ :=
    scripts_end_twice description "</script>" plot listed [(.loadZone, some (.text "</script>"))]
  exact ⟨listed, congrArg List.length ends⟩

end ScenarioResults.PlotPage
