import ScenarioResults.Proofs.Json.Literal
import ScenarioResults.Proofs.Json.Numeral

/-!
# How a text is scanned

The scanner is between tokens or in one. A text that ends between them, or in a word that can be read, is
scanned into the same tokens wherever it begins one, and punctuation joins two of them (`Scans.mark`). An
opening brace is a token only where there is one in the text (`brace_of_openBrace`).
-/

namespace ScenarioResults.Json

/-- What every step keeps is kept in a run whose steps all succeed. -/
theorem foldlM_keeps {σ α : Type} {step : σ → α → Option σ} {inputs : List α} {first last : σ}
    (kept : σ → Prop)
    (keeps : ∀ input ∈ inputs, ∀ state next, step state input = some next → kept state → kept next)
    (run : inputs.foldlM step first = some last) (start : kept first) : kept last := by
  induction inputs generalizing first with
  | nil =>
    cases run
    exact start
  | cons input rest ih =>
    rw [List.foldlM_cons] at run
    obtain ⟨next, stepped, others⟩ := Option.bind_eq_some_iff.mp run
    have first := keeps input List.mem_cons_self _ _ stepped start
    exact ih (fun other member => keeps other (List.mem_cons_of_mem input member)) others first

/-- The tokens read so far, in reverse, if the text may end here. -/
def Scan.ended? (scan : Scan) : Option (List Token) :=
  match scan.position with
  | .between => some scan.tokens
  | .word letters =>
    (Token.ofWord? (String.ofList letters.reverse)).map fun token => token :: scan.tokens
  | _ => none

/-- A text is scanned into tokens wherever it begins a token. -/
def Scans (text : List Char) (tokens : List Token) : Prop :=
  ∀ before, ∃ scan : Scan, text.foldlM Token.step ⟨before, .between⟩ = some scan ∧
    scan.ended? = some (tokens.reverse ++ before)

namespace Token

theorem finish_eq (scan : Scan) : finish scan = scan.ended?.map List.reverse := by
  obtain ⟨tokens, position⟩ := scan
  cases position <;> simp [finish, Scan.ended?, Function.comp_def]

theorem scan?_of_scans {text : List Char} {tokens : List Token} (scans : Scans text tokens) :
    scan? text = some tokens := by
  obtain ⟨scan, read, ended⟩ := scans []
  rw [scan?, read, Option.bind_some, finish_eq, ended]
  simp

theorem step_of_endsWord {scan : Scan} {c : Char} {tokens : List Token} (ends : endsWord c = true)
    (ended : scan.ended? = some tokens) : step scan c = some (start tokens c) := by
  obtain ⟨before, position⟩ := scan
  cases position with
  | between =>
    cases ended
    rfl
  | word letters =>
    obtain ⟨token, read, rfl⟩ := Option.map_eq_some_iff.mp ended
    simp [step, ends, read]
  | string | escape | unit => cases ended

/-- A word that is none of the names is read as a numeral. -/
theorem ofWord?_ofList {word : List Char}
    (unnamed : ∀ name ∈ ["null", "true", "false"], word ≠ name.toList) :
    ofWord? (String.ofList word) =
      (Numeral.ofText? word).map fun numeral => .number numeral.number? := by
  have other {name : String} (listed : name ∈ ["null", "true", "false"]) :
      String.ofList word ≠ name := by
    rintro rfl
    exact unnamed _ listed String.toList_ofList.symm
  rw [ofWord?, if_neg (other (by simp)), if_neg (other (by simp)), if_neg (other (by simp)),
    String.toList_ofList]

/-- A character that stands in no name and in no numeral spoils a word. -/
theorem ofWord?_of_foreign {word : List Char} {c : Char} (member : c ∈ word)
    (unnamed : ∀ name ∈ ["null", "true", "false"], c ∉ name.toList)
    (unmarked : Numeral.isMark c = false) : ofWord? (String.ofList word) = none := by
  have other : ∀ name ∈ ["null", "true", "false"], word ≠ name.toList := by
    rintro name listed rfl
    exact unnamed name listed member
  rw [ofWord?_ofList other, Option.map_eq_none_iff, Option.eq_none_iff_forall_ne_some]
  intro numeral read
  rw [Numeral.isMark_of_ofText? read c member] at unmarked
  cases unmarked

theorem endsWord_of_punctuation {c : Char} {token : Token} (sign : punctuation? c = some token) :
    endsWord c = true := by
  simp [endsWord, sign]

theorem start_of_punctuation {c : Char} {token : Token} (sign : punctuation? c = some token)
    (tokens : List Token) : start tokens c = ⟨token :: tokens, .between⟩ := by
  unfold punctuation? at sign
  split at sign
  iterate 6
    cases sign
    rfl
  cases sign

theorem endsWord_of_isMark {c : Char} (mark : Numeral.isMark c = true) : endsWord c = false := by
  rw [Bool.eq_false_iff]
  intro ends
  simp only [endsWord, isSpace, Bool.or_eq_true, beq_iff_eq] at ends
  rcases ends with (blank | rfl) | sign
  · rcases blank with ((rfl | rfl) | rfl) | rfl <;> exact absurd mark (by decide)
  · exact absurd mark (by decide)
  · unfold punctuation? at sign
    split at sign
    iterate 6 exact absurd mark (by decide)
    cases sign

theorem start_of_unbroken {c : Char} (unbroken : endsWord c = false) (tokens : List Token) :
    start tokens c = ⟨tokens, .word [c]⟩ := by
  simp only [endsWord, Bool.or_eq_false_iff, beq_eq_false_iff_ne, Option.isSome_eq_false_iff,
    Option.isNone_iff_eq_none] at unbroken
  obtain ⟨⟨blank, quote⟩, sign⟩ := unbroken
  simp [start, blank, quote, sign]

theorem foldlM_letters {word : List Char} (unbroken : word.any endsWord = false)
    (tokens : List Token) (letters : List Char) :
    word.foldlM step ⟨tokens, .word letters⟩ = some ⟨tokens, .word (word.reverse ++ letters)⟩ := by
  induction word generalizing letters with
  | nil => rfl
  | cons c rest ih =>
    obtain ⟨first, others⟩ := Bool.or_eq_false_iff.mp unbroken
    have letter : step ⟨tokens, .word letters⟩ c = some ⟨tokens, .word (c :: letters)⟩ := by
      simp [step, first]
    rw [List.foldlM_cons, letter, List.reverse_cons, List.append_assoc]
    exact ih others (c :: letters)

end Token

section

variable {text rest : List Char} {tokens later : List Token}

theorem scans_nil : Scans [] [] := fun before => ⟨⟨before, .between⟩, rfl, rfl⟩

/-- Punctuation ends what stands before it, and what follows begins anew. -/
theorem Scans.mark {c : Char} {token : Token} (before : Scans text tokens)
    (sign : Token.punctuation? c = some token) (after : Scans rest later) :
    Scans (text ++ c :: rest) (tokens ++ token :: later) := by
  intro earlier
  obtain ⟨scan, read, ended⟩ := before earlier
  obtain ⟨last, others, done⟩ := after (token :: (tokens.reverse ++ earlier))
  refine ⟨last, ?_, by simpa using done⟩
  have next := Token.step_of_endsWord (Token.endsWord_of_punctuation sign) ended
  rw [List.foldlM_append, read, Option.bind_eq_bind, Option.bind_some, List.foldlM_cons, next,
    Token.start_of_punctuation sign]
  exact others

theorem scans_word {word : List Char} {token : Token} (filled : word ≠ [])
    (unbroken : word.any Token.endsWord = false)
    (read : Token.ofWord? (String.ofList word) = some token) : Scans word [token] := by
  intro before
  obtain ⟨first, others, rfl⟩ := List.exists_cons_of_ne_nil filled
  obtain ⟨begins, goesOn⟩ := Bool.or_eq_false_iff.mp unbroken
  have started : Token.step ⟨before, .between⟩ first = some ⟨before, .word [first]⟩ :=
    congrArg some (Token.start_of_unbroken begins before)
  refine ⟨⟨before, .word (first :: others).reverse⟩, ?_, ?_⟩
  · rw [List.foldlM_cons, started, List.reverse_cons]
    exact Token.foldlM_letters goesOn before [first]
  · simp only [Scan.ended?, List.reverse_reverse, read]
    rfl

theorem scans_literal (s : String) : Scans (literal s) [.string s] :=
  fun before => ⟨_, Token.scan_literal before s, rfl⟩

theorem scans_null : Scans ['n', 'u', 'l', 'l'] [.null] :=
  scans_word (by decide) rfl rfl

theorem scans_numeral {numeral : Numeral} (read : Numeral.ofText? text = some numeral) :
    Scans text [.number numeral.number?] := by
  have marks := Numeral.isMark_of_ofText? read
  refine scans_word ?_ ?_ ?_
  · rintro rfl
    cases read
  · refine List.any_eq_false.mpr fun c member => Bool.eq_false_iff.mp ?_
    exact Token.endsWord_of_isMark (marks c member)
  · rw [Token.ofWord?_ofList, read]
    · rfl
    · rintro name listed rfl
      simp only [List.mem_cons, List.not_mem_nil, or_false] at listed
      rcases listed with rfl | rfl | rfl
      · exact absurd (marks 'n' (by decide)) (by decide)
      · exact absurd (marks 't' (by decide)) (by decide)
      · exact absurd (marks 'f' (by decide)) (by decide)

end

/-! ### Opening braces -/

namespace Token

variable {text : List Char} {scan final : Scan}

theorem ofWord?_ne_openBrace (word : String) : ofWord? word ≠ some .openBrace := by
  unfold ofWord?
  split
  · simp
  split
  · simp
  split
  · simp
  · simp

theorem openBrace_ended {tokens : List Token} (ended : scan.ended? = some tokens)
    (opens : Token.openBrace ∈ tokens) : Token.openBrace ∈ scan.tokens := by
  obtain ⟨before, position⟩ := scan
  cases position with
  | between =>
    cases ended
    exact opens
  | word letters =>
    obtain ⟨token, word, rfl⟩ := Option.map_eq_some_iff.mp ended
    rcases List.mem_cons.mp opens with rfl | earlier
    · exact (ofWord?_ne_openBrace _ word).elim
    · exact earlier
  | string | escape | unit => cases ended

theorem openBrace_start {tokens : List Token} {c : Char}
    (opens : Token.openBrace ∈ (start tokens c).tokens) : Token.openBrace ∈ tokens ∨ c = '\x7b' := by
  unfold start at opens
  split at opens
  next => exact .inl opens
  next =>
    split at opens
    next => exact .inl opens
    next =>
      split at opens
      next token sign =>
        rcases List.mem_cons.mp opens with rfl | before
        · unfold punctuation? at sign
          split at sign
          next => exact .inr rfl
          iterate 6 cases sign
        · exact .inl before
      next => exact .inl opens

theorem openBrace_step {c : Char} (next : step scan c = some final)
    (opens : Token.openBrace ∈ final.tokens) : Token.openBrace ∈ scan.tokens ∨ c = '\x7b' := by
  obtain ⟨tokens, position⟩ := scan
  cases position with
  | between =>
    cases next
    exact openBrace_start opens
  | word letters =>
    unfold step at next
    dsimp only at next
    split at next
    next =>
      obtain ⟨token, word, rfl⟩ := Option.map_eq_some_iff.mp next
      have ended : Scan.ended? ⟨tokens, .word letters⟩ = some (token :: tokens) := by
        simp [Scan.ended?, word]
      exact (openBrace_start opens).imp_left (openBrace_ended ended)
    next =>
      cases next
      exact .inl opens
  | string pieces =>
    unfold step at next
    dsimp only at next
    split at next
    next =>
      cases next
      exact .inl (by simpa using opens)
    next =>
      split at next
      next => cases next; exact .inl opens
      next =>
        split at next
        next => cases next
        next => cases next; exact .inl opens
  | escape pieces =>
    unfold step at next
    dsimp only at next
    split at next
    next => cases next; exact .inl opens
    next => obtain ⟨d, -, rfl⟩ := Option.map_eq_some_iff.mp next; exact .inl opens
  | unit pieces value missing =>
    obtain ⟨d, -, rfl⟩ := Option.map_eq_some_iff.mp next
    split at opens
    · exact .inl opens
    · exact .inl opens

/-- An opening brace is read of a brace in the text. -/
theorem brace_of_openBrace {tokens : List Token} (read : scan? text = some tokens)
    (opens : Token.openBrace ∈ tokens) : '\x7b' ∈ text := by
  refine Classical.byContradiction fun absent => ?_
  obtain ⟨final, scanned, finished⟩ := Option.bind_eq_some_iff.mp read
  have plain : Token.openBrace ∉ final.tokens := by
    refine foldlM_keeps (fun scan => Token.openBrace ∉ scan.tokens) ?_ scanned List.not_mem_nil
    intro c member scan next stepped before opened
    rcases openBrace_step stepped opened with earlier | rfl
    · exact before earlier
    · exact absent member
  rw [finish_eq] at finished
  obtain ⟨ended, done, rfl⟩ := Option.map_eq_some_iff.mp finished
  exact plain (openBrace_ended done (List.mem_reverse.mp opens))

end Token

end ScenarioResults.Json
