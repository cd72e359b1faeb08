import ScenarioResults.Plot
import ScenarioResults.Text.Markup

/-!
# Escaped texts

An escaped text holds no bracket and no quote, and its ampersands begin references. Every such text is
the escape of one text, the one that it is read as (`eq_escapeMarkup_iff`). So nothing is lost: not even
what looks like a reference before it is escaped.
-/

namespace ScenarioResults.Text

/-- What may follow an ampersand, with the ampersand. -/
def references : List String := ["&amp;", "&lt;", "&gt;", "&quot;"]

/-- Nothing but an ampersand has a meaning in markup, and an ampersand begins a reference. -/
structure Escaped (cs : List Char) : Prop where
  less : '<' ∉ cs
  greater : '>' ∉ cs
  quote : '"' ∉ cs
  ampersand : ∀ before after, cs = before ++ '&' :: after →
    ∃ reference ∈ references, reference.toList <+: '&' :: after

def isSpecial (c : Char) : Bool := c == '&' || c == '<' || c == '>' || c == '"'

theorem markupChar_of_not_special {c : Char} (ordinary : isSpecial c = false) :
    markupChar c = [c] := by
  unfold markupChar
  split
  iterate 4 cases ordinary
  rfl

namespace Escaped

variable {c : Char} {cs : List Char}

theorem nil : Escaped [] :=
  ⟨List.not_mem_nil, List.not_mem_nil, List.not_mem_nil, fun _ _ whole => by simp at whole⟩

theorem cons (ordinary : isSpecial c = false) (escaped : Escaped cs) : Escaped (c :: cs) := by
  simp only [isSpecial, Bool.or_eq_false_iff, beq_eq_false_iff_ne] at ordinary
  obtain ⟨⟨⟨ampersand, less⟩, greater⟩, quote⟩ := ordinary
  refine ⟨?_, ?_, ?_, ?_⟩
  · exact List.not_mem_cons_of_ne_of_not_mem less.symm escaped.less
  · exact List.not_mem_cons_of_ne_of_not_mem greater.symm escaped.greater
  · exact List.not_mem_cons_of_ne_of_not_mem quote.symm escaped.quote
  · intro before after whole
    cases before with
    | nil => exact (ampersand (List.cons.inj whole).1).elim
    | cons d before => exact escaped.ampersand before after (List.cons.inj whole).2

theorem row {row : List Char} (ordinary : row.any isSpecial = false) (escaped : Escaped cs) :
    Escaped (row ++ cs) := by
  induction row with
  | nil => exact escaped
  | cons c row ih =>
    simp only [List.any_cons, Bool.or_eq_false_iff] at ordinary
    exact (ih ordinary.2).cons ordinary.1

theorem reference (name : List Char) (known : String.ofList ('&' :: name) ∈ references)
    (ordinary : name.any isSpecial = false) (escaped : Escaped cs) :
    Escaped ('&' :: name ++ cs) := by
  have behind : Escaped (name ++ cs) := escaped.row ordinary
  refine ⟨?_, ?_, ?_, ?_⟩
  · exact List.not_mem_cons_of_ne_of_not_mem (by decide) behind.less
  · exact List.not_mem_cons_of_ne_of_not_mem (by decide) behind.greater
  · exact List.not_mem_cons_of_ne_of_not_mem (by decide) behind.quote
  · intro before after whole
    cases before with
    | nil =>
      refine ⟨_, known, ?_⟩
      rw [String.toList_ofList, ← List.nil_append ('&' :: after), ← whole]
      exact List.prefix_append _ _
    | cons d before => exact behind.ampersand before after (List.cons.inj whole).2

theorem markupChar (c : Char) (escaped : Escaped cs) : Escaped (markupChar c ++ cs) := by
  by_cases special : isSpecial c = true
  · simp only [isSpecial, Bool.or_eq_true, beq_iff_eq] at special
    rcases special with ((rfl | rfl) | rfl) | rfl
    · exact escaped.reference ['a', 'm', 'p', ';'] (by decide) (by decide)
    · exact escaped.reference ['l', 't', ';'] (by decide) (by decide)
    · exact escaped.reference ['g', 't', ';'] (by decide) (by decide)
    · exact escaped.reference ['q', 'u', 'o', 't', ';'] (by decide) (by decide)
  · have ordinary : isSpecial c = false := Bool.eq_false_iff.mpr special
    rw [markupChar_of_not_special ordinary]
    exact escaped.cons ordinary

theorem flatMap (cs : List Char) : Escaped (cs.flatMap Text.markupChar) := by
  induction cs with
  | nil => exact nil
  | cons c cs ih => exact ih.markupChar c

theorem tail (escaped : Escaped (c :: cs)) : Escaped cs where
  less := fun member => escaped.less (List.mem_cons_of_mem c member)
  greater := fun member => escaped.greater (List.mem_cons_of_mem c member)
  quote := fun member => escaped.quote (List.mem_cons_of_mem c member)
  ampersand := fun before after whole =>
    escaped.ampersand (c :: before) after (congrArg (c :: ·) whole)

theorem drop (front : List Char) (escaped : Escaped (front ++ cs)) : Escaped cs := by
  induction front with
  | nil => exact escaped
  | cons c front ih => exact ih escaped.tail

/-- What begins an escaped text and is no reference stands for itself. -/
theorem not_special (escaped : Escaped (c :: cs))
    (unreferred : ∀ reference ∈ references, ¬ reference.toList <+: c :: cs) :
    isSpecial c = false := by
  simp only [isSpecial, Bool.or_eq_false_iff, beq_eq_false_iff_ne]
  refine ⟨⟨⟨?_, ?_⟩, ?_⟩, ?_⟩
  · rintro rfl
    obtain ⟨reference, known, begun⟩ := escaped.ampersand [] cs rfl
    exact unreferred reference known begun
  · rintro rfl
    exact escaped.less List.mem_cons_self
  · rintro rfl
    exact escaped.greater List.mem_cons_self
  · rintro rfl
    exact escaped.quote List.mem_cons_self

/-- An escaped text is the escape of what it is read as. -/
theorem flatMap_unescapeMarkup (escaped : Escaped cs) :
    (unescapeMarkup cs).flatMap Text.markupChar = cs := by
  fun_induction unescapeMarkup cs with
  | case1 => rfl
  | case2 rest ih =>
    rw [List.flatMap_cons, ih (escaped.drop ['&', 'a', 'm', 'p', ';'])]
    rfl
  | case3 rest ih =>
    rw [List.flatMap_cons, ih (escaped.drop ['&', 'l', 't', ';'])]
    rfl
  | case4 rest ih =>
    rw [List.flatMap_cons, ih (escaped.drop ['&', 'g', 't', ';'])]
    rfl
  | case5 rest ih =>
    rw [List.flatMap_cons, ih (escaped.drop ['&', 'q', 'u', 'o', 't', ';'])]
    rfl
  | case6 c rest notAmpersand notLess notGreater notQuote ih =>
    have unreferred : ∀ reference ∈ references, ¬ reference.toList <+: c :: rest := by
      simp only [references, List.forall_mem_cons, List.not_mem_nil, false_imp_iff, implies_true,
        and_true]
      refine ⟨?_, ?_, ?_, ?_⟩
      · rintro ⟨after, whole⟩
        exact notAmpersand after (List.cons.inj whole).1.symm (List.cons.inj whole).2.symm
      · rintro ⟨after, whole⟩
        exact notLess after (List.cons.inj whole).1.symm (List.cons.inj whole).2.symm
      · rintro ⟨after, whole⟩
        exact notGreater after (List.cons.inj whole).1.symm (List.cons.inj whole).2.symm
      · rintro ⟨after, whole⟩
        exact notQuote after (List.cons.inj whole).1.symm (List.cons.inj whole).2.symm
    rw [List.flatMap_cons, markupChar_of_not_special (escaped.not_special unreferred),
      ih escaped.tail]
    rfl

end Escaped

/-- A text is escaped to the one escaped text that is read as it. -/
theorem eq_escapeMarkup_iff {text page : String} :
    page = escapeMarkup text ↔
      Escaped page.toList ∧ unescapeMarkup page.toList = text.toList := by
  constructor
  · rintro rfl
    rw [escapeMarkup, String.toList_ofList]
    exact ⟨.flatMap _, unescapeMarkup_flatMap _⟩
  · rintro ⟨escaped, read⟩
    rw [escapeMarkup, ← read, escaped.flatMap_unescapeMarkup, String.ofList_toList]

/-- Escaping gives a text without brackets and quotes whose ampersands begin references, and reading the
references from left to right gives back what was escaped; every such text comes from what it is read
as. So two surfaces whose names are escaped alike are one surface. -/
theorem escape_lossless :
    (∀ text, Escaped (escapeMarkup text).toList ∧
        unescapeMarkup (escapeMarkup text).toList = text.toList) ∧
      (∀ text page, page = escapeMarkup text ↔
        Escaped page.toList ∧ unescapeMarkup page.toList = text.toList) ∧
      ∀ first second : Surface,
        escapeMarkup first.name = escapeMarkup second.name ↔ first = second := by
  refine ⟨fun _ => eq_escapeMarkup_iff.mp rfl, fun _ _ => eq_escapeMarkup_iff, ?_⟩
  intro first second
  constructor
  · intro same
    have here := (eq_escapeMarkup_iff.mp (Eq.refl (escapeMarkup first.name))).2
    have there := (eq_escapeMarkup_iff.mp same).2
    have names : first.name = second.name := String.toList_inj.mp (here.symm.trans there)
    cases first
    cases second
    exact congrArg Surface.mk names
  · rintro rfl
    rfl

end ScenarioResults.Text
