import Mathlib.Data.List.DropRight
import ScenarioResults.Text.Blank

/-!
# Texts with no blanks around them

What is left of a text when it is trimmed neither begins nor ends with a blank character, and these are
the texts that trimming leaves as they are (`trim_eq_self_iff`).
-/

namespace ScenarioResults.Text

/-- There is no blank character at either end. -/
def Bare (s : String) : Prop :=
  (∀ c ∈ s.toList.head?, isBlank c = false) ∧ ∀ c ∈ s.toList.getLast?, isBlank c = false

variable {p : Char → Bool} {cs : List Char}

theorem head?_dropAround {c : Char} (first : c ∈ (dropAround p cs).head?) : p c = false := by
  have begun : dropAround p cs <+: cs.dropWhile p := List.rdropWhile_prefix p _
  obtain ⟨rest, whole⟩ := begun
  have same : (cs.dropWhile p).head? = some c := by
    rw [← whole, List.head?_append, Option.mem_def.mp first, Option.some_or]
  have kept := List.head?_dropWhile_not p cs
  rw [same] at kept
  exact kept

theorem getLast?_dropAround {c : Char} (last : c ∈ (dropAround p cs).getLast?) : p c = false := by
  obtain ⟨filled, rfl⟩ := List.mem_getLast?_eq_getLast last
  exact Bool.eq_false_iff.mpr (List.rdropWhile_last_not p _ filled)

theorem dropWhile_eq_self (first : ∀ c ∈ cs.head?, p c = false) : cs.dropWhile p = cs := by
  cases cs with
  | nil => rfl
  | cons c rest => exact List.dropWhile_cons_of_neg (Bool.eq_false_iff.mp (first c rfl))

theorem dropEndWhile_eq_self (last : ∀ c ∈ cs.getLast?, p c = false) : dropEndWhile p cs = cs := by
  refine List.rdropWhile_eq_self_iff.mpr ?_
  intro filled
  exact Bool.eq_false_iff.mp (last _ (List.getLast?_eq_some_getLast filled))

theorem dropAround_eq_self (first : ∀ c ∈ cs.head?, p c = false)
    (last : ∀ c ∈ cs.getLast?, p c = false) : dropAround p cs = cs := by
  rw [dropAround, dropWhile_eq_self first, dropEndWhile_eq_self last]

/-- What is dropped stands before and after what is left. -/
theorem exists_dropAround (p : Char → Bool) (cs : List Char) :
    ∃ before after, cs = before ++ dropAround p cs ++ after ∧ (∀ c ∈ before, p c = true) ∧
      ∀ c ∈ after, p c = true := by
  have front : cs.takeWhile p ++ cs.dropWhile p = cs := List.takeWhile_append_dropWhile
  have back : (cs.dropWhile p).rdropWhile p ++ (cs.dropWhile p).rtakeWhile p = cs.dropWhile p :=
    List.rdropWhile_append_rtakeWhile
  refine ⟨cs.takeWhile p, (cs.dropWhile p).rtakeWhile p, ?_, fun _ => List.mem_takeWhile_imp,
    fun _ => List.mem_rtakeWhile_imp⟩
  rw [List.append_assoc]
  exact front.symm.trans (congrArg (cs.takeWhile p ++ ·) back.symm)

/-- A text that is not empty and is of another kind at both ends is what is left. -/
theorem dropAround_append {before after : List Char} (filled : cs ≠ [])
    (left : ∀ c ∈ before, p c = true) (right : ∀ c ∈ after, p c = true)
    (first : ∀ c ∈ cs.head?, p c = false) (last : ∀ c ∈ cs.getLast?, p c = false) :
    dropAround p (before ++ cs ++ after) = cs := by
  have stops : ∀ c ∈ (cs ++ after).head?, p c = false := by
    rwa [List.head?_append_of_ne_nil _ filled]
  have front : (before ++ cs ++ after).dropWhile p = cs ++ after := by
    rw [List.append_assoc, List.dropWhile_append_of_pos left, dropWhile_eq_self stops]
  have back : dropEndWhile p (cs ++ after) = dropEndWhile p cs := by
    have dropped : ∀ c ∈ after.reverse, p c = true :=
      fun c member => right c (List.mem_reverse.mp member)
    rw [dropEndWhile, List.reverse_append, List.dropWhile_append_of_pos dropped, dropEndWhile]
  rw [dropAround, front, back, dropEndWhile_eq_self last]

theorem mem_dropWhile {c : Char} (kept : p c = false) (member : c ∈ cs) : c ∈ cs.dropWhile p := by
  rw [← List.takeWhile_append_dropWhile (p := p) (l := cs)] at member
  refine (List.mem_append.mp member).resolve_left fun dropped => ?_
  exact Bool.eq_false_iff.mp kept (List.mem_takeWhile_imp dropped)

/-- No character but a blank one is lost. -/
theorem mem_trim {s : String} {c : Char} (solid : isBlank c = false) (member : c ∈ s.toList) :
    c ∈ (trim s).toList := by
  rw [trim, String.toList_ofList, dropAround, dropEndWhile, List.mem_reverse]
  exact mem_dropWhile solid (List.mem_reverse.mpr (mem_dropWhile solid member))

theorem trim_bare (s : String) : Bare (trim s) := by
  unfold Bare trim
  rw [String.toList_ofList]
  exact ⟨fun _ => head?_dropAround, fun _ => getLast?_dropAround⟩

theorem trim_eq_self_iff {s : String} : trim s = s ↔ Bare s := by
  constructor
  · intro same
    rw [← same]
    exact trim_bare s
  · rintro ⟨first, last⟩
    rw [trim, dropAround_eq_self first last, String.ofList_toList]

theorem trim_of_solid {s : String} (solid : ∀ c ∈ s.toList, isBlank c = false) : trim s = s :=
  trim_eq_self_iff.mpr
    ⟨fun c first => solid c (List.mem_of_head? first),
      fun c last => solid c (List.mem_of_getLast? last)⟩

end ScenarioResults.Text
