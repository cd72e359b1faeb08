import ScenarioResults.Proofs.Toml.Line
import ScenarioResults.Proofs.Toml.Scan

/-!
# How lines are written

Lines have a text. If they are plain, the tokens of the text are theirs (`Line.foldlM_lines`). If they are
calm besides, they have these tokens after every text that ends its line (`Line.tokens_after`).
-/

namespace ScenarioResults.Toml

namespace Token

variable {c : Char} {tokens : List Token} {text : String} {rest : List Char}

def isWordChar (c : Char) : Bool := !isWordEnd c && !isControl c

/-- A character that stands for itself in a string of one line. -/
def isStringChar (c : Char) : Bool := c != '"' && c != '\\' && !isControl c

/-- A text of one or more characters of a class. -/
def isTextOf (isChar : Char → Bool) (text : String) : Bool :=
  !text.toList.isEmpty && text.toList.all isChar

theorem exists_cons {isChar : Char → Bool} (all : isTextOf isChar text = true) :
    ∃ c cs, text.toList = c :: cs ∧ isChar c = true ∧ ∀ d ∈ cs, isChar d = true := by
  unfold isTextOf at all
  cases whole : text.toList with
  | nil => simp [whole] at all
  | cons c cs => exact ⟨c, cs, rfl, by simpa [whole] using all⟩

/-- A text is collected if its first character begins that and each other one goes on with it. -/
theorem foldlM_collected {isChar : Char → Bool} {begun : Scan} {held : List Char → Position}
    (all : isTextOf isChar text = true)
    (begins : ∀ c, isChar c = true → step begun c = some ⟨tokens, held [c]⟩)
    (goes : ∀ c letters, isChar c = true →
      step ⟨tokens, held letters⟩ c = some ⟨tokens, held (c :: letters)⟩) :
    text.toList.foldlM step begun = some ⟨tokens, held text.toList.reverse⟩ := by
  have collected (cs letters : List Char) (inside : ∀ c ∈ cs, isChar c = true) :
      cs.foldlM step ⟨tokens, held letters⟩ = some ⟨tokens, held (cs.reverse ++ letters)⟩ := by
    induction cs generalizing letters with
    | nil => rfl
    | cons c cs ih =>
      obtain ⟨first, others⟩ := List.forall_mem_cons.mp inside
      rw [foldlM_cons_of_step (goes c letters first), ih (c :: letters) others, List.reverse_cons,
        List.append_assoc, List.singleton_append]
  obtain ⟨c, cs, whole, first, others⟩ := exists_cons all
  rw [whole, foldlM_cons_of_step (begins c first), collected cs [c] others, List.reverse_cons]

theorem start_wordChar (inWord : isWordChar c = true) :
    start tokens c = some ⟨tokens, .word [c]⟩ := by
  simp only [isWordChar, isWordEnd, Bool.and_eq_true, Bool.not_eq_true', Bool.or_eq_false_iff,
    beq_eq_false_iff_ne, Option.isSome_eq_false_iff, Option.isNone_iff_eq_none] at inWord
  obtain ⟨⟨⟨⟨⟨⟨blank, quote⟩, hash⟩, feed⟩, returned⟩, mark⟩, printed⟩ := inWord
  simp [start, blank, quote, hash, feed, returned, mark, printed]

/-- A word has ended where a character comes that is in no word. -/
theorem foldlM_word (word : isTextOf isWordChar text = true) (ends : isWordEnd c = true) :
    (text.toList ++ c :: rest).foldlM step ⟨tokens, .between⟩ =
      (c :: rest).foldlM step ⟨.word text :: tokens, .between⟩ := by
  have goes (c : Char) (letters : List Char) (inWord : isWordChar c = true) :
      step ⟨tokens, .word letters⟩ c = some ⟨tokens, .word (c :: letters)⟩ := by
    simp only [isWordChar, Bool.and_eq_true, Bool.not_eq_true'] at inWord
    simp [step, inWord]
  have ended : step ⟨tokens, .word text.toList.reverse⟩ c =
      step ⟨.word text :: tokens, .between⟩ c := by
    simp only [step, ends, if_true, List.reverse_reverse, String.ofList_toList]
  rw [foldlM_append_of_run (foldlM_collected word (fun _ => start_wordChar) goes),
    List.foldlM_cons, ended, List.foldlM_cons]

theorem foldlM_string (plain : isTextOf isStringChar text = true) :
    ('"' :: (text.toList ++ '"' :: rest)).foldlM step ⟨tokens, .between⟩ =
      rest.foldlM step ⟨.string false text :: tokens, .between⟩ := by
  have goes (c : Char) (letters : List Char) (plain : isStringChar c = true) :
      inString tokens ⟨'"', false⟩ letters c = some ⟨tokens, .string ⟨'"', false⟩ (c :: letters)⟩ := by
    simp only [isStringChar, Bool.and_eq_true, bne_iff_ne, Bool.not_eq_true'] at plain
    obtain ⟨⟨quote, backslash⟩, printed⟩ := plain
    simp [inString, quote, backslash, printed]
  have begins (c : Char) (plain : isStringChar c = true) :
      step ⟨tokens, .opening '"' false⟩ c = some ⟨tokens, .string ⟨'"', false⟩ [c]⟩ := by
    have other : c ≠ '"' := by
      rintro rfl
      cases plain
    exact (if_neg other).trans (goes c [] plain)
  have opened : step ⟨tokens, .between⟩ '"' = some ⟨tokens, .opening '"' false⟩ := rfl
  have closed : step ⟨tokens, .string ⟨'"', false⟩ text.toList.reverse⟩ '"' =
      some ⟨.string false text :: tokens, .between⟩ := by
    simp only [step, inString, List.reverse_reverse, String.ofList_toList]
    rfl
  rw [foldlM_cons_of_step opened, foldlM_append_of_run (foldlM_collected plain begins goes),
    foldlM_cons_of_step closed]

theorem foldlM_blank (solid : isBlank c = false) :
    (' ' :: c :: rest).foldlM step ⟨tokens, .between⟩ =
      (c :: rest).foldlM step ⟨.blank true :: tokens, .between⟩ := by
  have blank : step ⟨tokens, .between⟩ ' ' = some ⟨tokens, .blank true⟩ := rfl
  have ended : step ⟨tokens, .blank true⟩ c = step ⟨.blank true :: tokens, .between⟩ c := by
    simp only [step, solid, Bool.false_eq_true, if_false]
  rw [foldlM_cons_of_step blank, List.foldlM_cons, ended, List.foldlM_cons]

/-- A key up to its value, which does not begin with a blank. -/
theorem foldlM_key (key : isTextOf isWordChar text = true) (solid : isBlank c = false) :
    (text.toList ++ ' ' :: '=' :: ' ' :: c :: rest).foldlM step ⟨tokens, .between⟩ =
      (c :: rest).foldlM step
        ⟨.blank true :: .equals :: .blank true :: .word text :: tokens, .between⟩ := by
  have equals : step ⟨.blank true :: .word text :: tokens, .between⟩ '=' =
      some ⟨.equals :: .blank true :: .word text :: tokens, .between⟩ := rfl
  rw [foldlM_word key (by decide), foldlM_blank (by decide), foldlM_cons_of_step equals,
    foldlM_blank solid]

end Token

namespace Line

open Token

variable {tokens : List Token} {rest : List Char}

/-- The text of a line without its end. -/
def body : Line → List Char
  | .blank => []
  | .comment text => '#' :: text.toList
  | .header name => '[' :: (name.toList ++ [']'])
  | .entry key text => key.toList ++ ' ' :: '=' :: ' ' :: '"' :: (text.toList ++ ['"'])
  | .scalar key bare => key.toList ++ ' ' :: '=' :: ' ' :: bare.toList

def text (line : Line) : List Char := line.body ++ ['\n']

/-- What is in a line can be written as it is. -/
def isPlain : Line → Bool
  | .blank => true
  | .comment text => text.toList.all fun c => !isControl c
  | .header name => isTextOf isWordChar name
  | .entry key text => isTextOf isWordChar key && isTextOf isStringChar text
  | .scalar key bare => isTextOf isWordChar key && isTextOf isWordChar bare

/-- A plain line has its tokens. -/
theorem foldlM_text {line : Line} (plain : line.isPlain = true) :
    (line.text ++ rest).foldlM step ⟨tokens, .between⟩ =
      rest.foldlM step ⟨line.tokens.reverse ++ tokens, .between⟩ := by
  cases line with
  | blank => exact foldlM_cons_of_step rfl
  | comment text =>
    have printed : ∀ c ∈ text.toList, isControl c = false := by simpa [isPlain] using plain
    have single : '\n' ∉ text.toList := fun member => Bool.noConfusion (printed '\n' member)
    have begun : step ⟨tokens, .between⟩ '#' = some ⟨tokens, .comment⟩ := rfl
    have ended := (foldlM_comment_iff single tokens).mpr ⟨⟨text.toList, .inl rfl, printed⟩, rfl⟩
    rw [Line.text, body, List.append_assoc, List.cons_append, foldlM_cons_of_step begun,
      ← List.append_assoc, foldlM_append_of_run ended]
    rfl
  | header name =>
    have opened : step ⟨tokens, .between⟩ '[' = some ⟨.openBracket :: tokens, .between⟩ := rfl
    simp only [Line.text, body, List.append_assoc, List.cons_append, List.nil_append]
    rw [foldlM_cons_of_step opened, foldlM_word plain (by decide)]
    rfl
  | entry key text =>
    obtain ⟨named, given⟩ := Bool.and_eq_true_iff.mp plain
    simp only [Line.text, body, List.append_assoc, List.cons_append, List.nil_append]
    rw [Token.foldlM_key named (by decide : isBlank '"' = false), foldlM_string given]
    rfl
  | scalar key bare =>
    obtain ⟨named, given⟩ := Bool.and_eq_true_iff.mp plain
    obtain ⟨c, cs, whole, first, -⟩ := exists_cons given
    have solid : isBlank c = false := by
      cases blank : isBlank c
      · rfl
      · simp [isWordChar, isWordEnd, blank] at first
    have begins : bare.toList ++ '\n' :: rest = c :: (cs ++ '\n' :: rest) := by
      rw [whole, List.cons_append]
    simp only [Line.text, body, List.append_assoc, List.cons_append, List.nil_append]
    rw [begins, Token.foldlM_key named solid, ← begins, foldlM_word given (by decide)]
    rfl

theorem foldlM_lines {lines : List Line} (plain : lines.all isPlain = true) (tokens : List Token) :
    (lines.flatMap text).foldlM step ⟨tokens, .between⟩ =
      some ⟨(lines.flatMap Line.tokens).reverse ++ tokens, .between⟩ := by
  induction lines generalizing tokens with
  | nil => rfl
  | cons line lines ih =>
    obtain ⟨first, others⟩ := Bool.and_eq_true_iff.mp plain
    rw [List.flatMap_cons, foldlM_text first, ih others, List.flatMap_cons, List.reverse_append,
      List.append_assoc]

theorem isCalmText_append_newline (last : Bool) (front rest : List Char) :
    isCalmText last (front ++ '\n' :: rest) = (isCalmText last front && isCalmText false rest) := by
  have feed : isCalm '\n' = true := by decide
  have apart : isQuote '\n' = false := by decide
  induction front generalizing last with
  | nil => simp [isCalmText, feed, apart]
  | cons c front ih => simp only [List.cons_append, isCalmText, ih, Bool.and_assoc]

def isCalm (line : Line) : Bool := isCalmText false line.body

theorem isCalmText_lines {lines : List Line} (calm : lines.all isCalm = true) :
    isCalmText false (lines.flatMap text) = true := by
  induction lines with
  | nil => rfl
  | cons line lines ih =>
    obtain ⟨first, others⟩ := Bool.and_eq_true_iff.mp calm
    rw [List.flatMap_cons, text, List.append_assoc, List.singleton_append,
      isCalmText_append_newline, ih others, Bool.and_true]
    exact first

/-- Whatever stands before them, lines that are plain and calm have their tokens. -/
theorem tokens_after {front : List Char} {lines : List Line} (plain : lines.all isPlain = true)
    (calm : lines.all isCalm = true)
    (scanned : scan? (front ++ '\n' :: lines.flatMap text) = some tokens) :
    ∃ before, tokens = before ++ lines.flatMap Line.tokens := by
  have alone := foldlM_lines plain []
  rw [List.append_nil] at alone
  obtain ⟨before, same⟩ := tokens_after_newline scanned (isCalmText_lines calm) alone
  exact ⟨before, by rw [same, List.reverse_reverse]⟩

end Line

end ScenarioResults.Toml
