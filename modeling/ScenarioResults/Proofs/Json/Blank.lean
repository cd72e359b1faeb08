import ScenarioResults.Proofs.Json.Reading
import ScenarioResults.Text.Blank

/-!
# Blank texts

A text of blank characters is no JSON text, whichever blanks they are: the scanner passes over some of
them and takes the others for a word that it cannot read (`not_blank_of_ofText?`).
-/

namespace ScenarioResults.Json

open Text

namespace Token

theorem isMark_of_isBlank {c : Char} (blank : isBlank c = true) : Numeral.isMark c = false := by
  rw [Bool.eq_false_iff]
  intro mark
  simp only [Numeral.isMark, Bool.or_eq_true, beq_iff_eq] at mark
  rcases mark with ((((digit | rfl) | rfl) | rfl) | rfl) | rfl
  · have bounds : 48 ≤ c.toNat ∧ c.toNat ≤ 57 := Char.isDigit_iff_toNat.mp digit
    simp only [isBlank, inRanges, blankRanges, List.any_cons, List.any_nil, Bool.or_eq_true,
      Bool.and_eq_true, decide_eq_true_eq, Bool.false_eq_true, or_false] at blank
    omega
  all_goals exact absurd blank (by decide)

theorem ofWord?_of_isBlank {word : List Char} {c : Char} (member : c ∈ word)
    (blank : isBlank c = true) : ofWord? (String.ofList word) = none := by
  refine ofWord?_of_foreign member ?_ (isMark_of_isBlank blank)
  intro name listed inside
  have solid : ["null", "true", "false"].all fun name => name.toList.all fun c => !isBlank c := by
    decide
  have visible := List.all_eq_true.mp (List.all_eq_true.mp solid name listed) c inside
  rw [blank] at visible
  cases visible

/-- A blank character is passed over or begins a word. -/
theorem start_of_isBlank {c : Char} (blank : isBlank c = true) (tokens : List Token) :
    start tokens c = ⟨tokens, .between⟩ ∨ start tokens c = ⟨tokens, .word [c]⟩ := by
  unfold start
  split
  · exact .inl rfl
  · have quote : c ≠ '"' := by
      rintro rfl
      exact absurd blank (by decide)
    have sign : punctuation? c = none := by
      unfold punctuation?
      split
      iterate 6 exact absurd blank (by decide)
      rfl
    rw [if_neg quote, sign]
    exact .inr rfl

end Token

/-- There is no token yet, and a word that has begun is of blank characters. -/
def Scan.Unbegun (scan : Scan) : Prop :=
  scan.tokens = [] ∧
    (scan.position = .between ∨ ∃ c letters, scan.position = .word (c :: letters) ∧ isBlank c = true)

namespace Scan.Unbegun

variable {scan next : Scan} {c : Char}

theorem of_start (blank : isBlank c = true) : (Token.start [] c).Unbegun := by
  rcases Token.start_of_isBlank blank [] with passed | begun
  · rw [passed]
    exact ⟨rfl, .inl rfl⟩
  · rw [begun]
    exact ⟨rfl, .inr ⟨c, [], rfl, blank⟩⟩

theorem step (unbegun : scan.Unbegun) (blank : isBlank c = true)
    (stepped : Token.step scan c = some next) : next.Unbegun := by
  obtain ⟨tokens, position⟩ := scan
  obtain ⟨rfl, rfl | ⟨first, letters, rfl, before⟩⟩ := unbegun
  · cases stepped
    exact of_start blank
  · simp only [Token.step] at stepped
    split at stepped
    next =>
      have refused : Token.ofWord? (String.ofList (first :: letters).reverse) = none :=
        Token.ofWord?_of_isBlank (by simp) before
      rw [refused] at stepped
      cases stepped
    next =>
      cases stepped
      exact ⟨rfl, .inr ⟨c, first :: letters, rfl, blank⟩⟩

/-- There is no token where a text ends that has not begun one. -/
theorem ended? {tokens : List Token} (unbegun : scan.Unbegun)
    (ended : scan.ended? = some tokens) : tokens = [] := by
  obtain ⟨before, position⟩ := scan
  obtain ⟨rfl, rfl | ⟨first, letters, rfl, blank⟩⟩ := unbegun
  · cases ended
    rfl
  · have refused : Token.ofWord? (String.ofList (first :: letters).reverse) = none :=
      Token.ofWord?_of_isBlank (by simp) blank
    obtain ⟨token, word, -⟩ := Option.map_eq_some_iff.mp ended
    rw [refused] at word
    cases word

end Scan.Unbegun

namespace Tree

theorem tokens_ne_nil (tree : Tree) : tree.tokens ≠ [] := by
  cases tree <;> simp [tokens]

/-- A text that can be read has a character that is not blank. -/
theorem not_blank_of_ofText? {text : String} {tree : Tree} (read : ofText? text = some tree) :
    isAllBlank text = false := by
  rw [Bool.eq_false_iff]
  intro blank
  obtain ⟨tokens, scanned, built⟩ := Option.bind_eq_some_iff.mp read
  obtain ⟨final, run, finished⟩ := Option.bind_eq_some_iff.mp scanned
  have unbegun : final.Unbegun := by
    refine foldlM_keeps Scan.Unbegun ?_ run ⟨rfl, .inl rfl⟩
    intro c member scan next stepped unbegun
    exact unbegun.step (List.all_eq_true.mp blank c member) stepped
  rw [Token.finish_eq] at finished
  obtain ⟨ended, done, rfl⟩ := Option.map_eq_some_iff.mp finished
  have none := unbegun.ended? done
  rw [none] at built
  exact tree.tokens_ne_nil (tokens_of_ofTokens? built).symm

end Tree

end ScenarioResults.Json
