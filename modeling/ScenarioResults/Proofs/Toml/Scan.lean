import ScenarioResults.Proofs.Json.Scan
import ScenarioResults.Toml.Token

/-!
# How a document is scanned

A step of the scanner does not look at the tokens before (`step_onto`). After a line end the scanner is
between tokens, or in a string that may span lines. A text that is calm does not end such a string, so if
a document that has tokens goes on with it after a line end, its tokens are the ones that it has by itself
(`tokens_after_newline`).
-/

namespace ScenarioResults.Toml

section

variable {σ τ : Type} {step : σ → τ → Option σ} {s next : σ} {rest : List τ}

theorem foldlM_cons_of_step {token : τ} (stepped : step s token = some next) :
    (token :: rest).foldlM step s = rest.foldlM step next := by
  rw [List.foldlM_cons, stepped, Option.bind_eq_bind, Option.bind_some]

theorem foldlM_append_of_run {front : List τ} (run : front.foldlM step s = some next) :
    (front ++ rest).foldlM step s = rest.foldlM step next := by
  rw [List.foldlM_append, run, Option.bind_eq_bind, Option.bind_some]

end

deriving instance DecidableEq for Position, Scan

/-- A scan that other tokens stand before. -/
def Scan.onto (scan : Scan) (before : List Token) : Scan := ⟨scan.tokens ++ before, scan.position⟩

namespace Token

variable {before : List Token} {c : Char}

theorem start_onto (tokens : List Token) :
    start (tokens ++ before) c = (start tokens c).map (·.onto before) := by
  unfold start
  repeat' split
  all_goals rfl

theorem inString_onto (tokens : List Token) (quoting : Quoting) (letters : List Char) :
    inString (tokens ++ before) quoting letters c =
      (inString tokens quoting letters c).map (·.onto before) := by
  unfold inString
  repeat' split
  all_goals rfl

theorem afterQuotes_onto (tokens : List Token) (quote : Char) (count : Nat)
    (letters : List Char) :
    afterQuotes (tokens ++ before) quote count letters c =
      (afterQuotes tokens quote count letters c).map (·.onto before) := by
  unfold afterQuotes
  repeat' split
  · rfl
  · exact start_onto (closed tokens quote count letters)
  · exact inString_onto tokens _ _

theorem afterBackslash_onto (tokens : List Token) (multiline : Bool) (letters : List Char) :
    afterBackslash (tokens ++ before) multiline letters c =
      (afterBackslash tokens multiline letters c).map (·.onto before) := by
  unfold afterBackslash
  repeat' split
  all_goals rfl

/-- What was read before makes no difference to a step. -/
theorem step_onto (scan : Scan) (before : List Token) (c : Char) :
    step (scan.onto before) c = (step scan c).map (·.onto before) := by
  obtain ⟨tokens, position⟩ := scan
  cases position with
  | between => exact start_onto tokens
  | blank single =>
    simp only [step, Scan.onto]
    split
    · rfl
    · exact start_onto (.blank single :: tokens)
  | lineEnd | comment | commentEnd | stringEnd =>
    simp only [step, Scan.onto]
    repeat' split
    all_goals rfl
  | word letters =>
    simp only [step, Scan.onto]
    repeat' split
    · exact start_onto (.word (String.ofList letters.reverse) :: tokens)
    all_goals rfl
  | opening quote second =>
    cases second <;> simp only [step, Scan.onto] <;> split
    · rfl
    · exact inString_onto tokens _ _
    · rfl
    · exact start_onto (.string false "" :: tokens)
  | firstLine quote returned =>
    simp only [step, Scan.onto]
    repeat' split
    iterate 3 rfl
    exact inString_onto tokens _ _
  | string quoting letters => exact inString_onto tokens _ _
  | quotes quote count letters => exact afterQuotes_onto tokens _ _ _
  | escape multiline letters => exact afterBackslash_onto tokens _ _
  | fold returned letters =>
    simp only [step, Scan.onto]
    repeat' split
    all_goals rfl
  | folded returned letters =>
    simp only [step, Scan.onto]
    repeat' split
    iterate 4 rfl
    exact inString_onto tokens _ _
  | number multiline letters value missing =>
    simp only [step, Scan.onto]
    cases Text.hexValue? c with
    | none => rfl
    | some digit =>
      simp only [bind, Option.bind_some]
      split
      · cases charOf? (16 * value + digit) <;> rfl
      · rfl

theorem foldlM_onto (text : List Char) (scan : Scan) (before : List Token) :
    text.foldlM step (scan.onto before) = (text.foldlM step scan).map (·.onto before) := by
  induction text generalizing scan with
  | nil => rfl
  | cons c rest ih =>
    rw [List.foldlM_cons, List.foldlM_cons, step_onto]
    cases step scan c with
    | none => rfl
    | some next => exact ih next

/-! ### Strings that span lines -/

/-- Strings are held by quotes, and a carriage return stays in a string only if that may span lines. -/
def Held : Position → Prop
  | .opening quote _ | .firstLine quote _ | .quotes quote _ _ => isQuote quote = true
  | .string quoting _ => isQuote quoting.quote = true
  | .stringEnd quoting _ => isQuote quoting.quote = true ∧ quoting.multiline = true
  | _ => True

theorem start_held {tokens : List Token} {scan : Scan} (started : start tokens c = some scan) :
    Held scan.position := by
  unfold start at started
  repeat' split at started
  all_goals cases started
  iterate 4 trivial
  · assumption
  · trivial
  · trivial

theorem inString_held {tokens : List Token} {quoting : Quoting} {letters : List Char} {scan : Scan}
    (known : isQuote quoting.quote = true)
    (stepped : inString tokens quoting letters c = some scan) : Held scan.position := by
  unfold inString at stepped
  repeat' split at stepped
  all_goals cases stepped
  next same _ => exact same ▸ known
  next => trivial
  next => trivial
  next returned => exact ⟨known, (Bool.and_eq_true_iff.mp returned).2⟩
  next => exact known

theorem afterQuotes_held {tokens : List Token} {quote : Char} {count : Nat} {letters : List Char}
    {scan : Scan} (known : isQuote quote = true)
    (stepped : afterQuotes tokens quote count letters c = some scan) : Held scan.position := by
  unfold afterQuotes at stepped
  repeat' split at stepped
  · cases stepped
    exact known
  · exact start_held stepped
  · exact inString_held known stepped

theorem afterBackslash_held {tokens : List Token} {multiline : Bool} {letters : List Char}
    {scan : Scan} (stepped : afterBackslash tokens multiline letters c = some scan) :
    Held scan.position := by
  unfold afterBackslash at stepped
  repeat' split at stepped
  all_goals cases stepped
  · trivial
  · rfl
  all_goals trivial

theorem step_held {scan next : Scan} (held : Held scan.position)
    (stepped : step scan c = some next) : Held next.position := by
  obtain ⟨tokens, position⟩ := scan
  cases position with
  | between => exact start_held stepped
  | blank single =>
    simp only [step] at stepped
    split at stepped
    · cases stepped
      trivial
    · exact start_held stepped
  | lineEnd | comment | commentEnd | fold =>
    simp only [step] at stepped
    repeat' split at stepped
    all_goals cases stepped
    all_goals trivial
  | word letters =>
    simp only [step] at stepped
    repeat' split at stepped
    · exact start_held stepped
    all_goals cases stepped
    trivial
  | opening quote second =>
    have known : isQuote quote = true := held
    cases second <;> simp only [step] at stepped <;> split at stepped
    · cases stepped
      exact known
    · exact inString_held known stepped
    · cases stepped
      exact known
    · exact start_held stepped
  | firstLine quote returned =>
    have known : isQuote quote = true := held
    simp only [step] at stepped
    repeat' split at stepped
    · cases stepped
      exact known
    · cases stepped
    · cases stepped
      exact known
    · exact inString_held known stepped
  | string quoting letters => exact inString_held held stepped
  | stringEnd quoting letters =>
    simp only [step] at stepped
    split at stepped
    all_goals cases stepped
    exact held.1
  | quotes quote count letters => exact afterQuotes_held held stepped
  | escape multiline letters => exact afterBackslash_held stepped
  | folded returned letters =>
    simp only [step] at stepped
    repeat' split at stepped
    · cases stepped
      trivial
    · cases stepped
    · cases stepped
      trivial
    · cases stepped
      trivial
    · exact inString_held rfl stepped
  | number multiline letters value missing =>
    simp only [step, bind, Option.bind_eq_some_iff] at stepped
    obtain ⟨digit, -, stepped⟩ := stepped
    split at stepped
    · obtain ⟨char, -, stepped⟩ := Option.bind_eq_some_iff.mp stepped
      cases stepped
      rfl
    · cases stepped
      trivial

/-- In a string that may span lines, and whether the last character may have been a quote. -/
inductive Inside : Bool → Position → Prop
  | string {quote : Char} (known : isQuote quote = true) (letters : List Char) (last : Bool) :
      Inside last (.string ⟨quote, true⟩ letters)
  | quotes {quote : Char} (known : isQuote quote = true) (letters : List Char) :
      Inside true (.quotes quote 1 letters)
  | folded (letters : List Char) (last : Bool) : Inside last (.folded false letters)

theorem ne_newline_of_isQuote {quote : Char} (known : isQuote quote = true) : '\n' ≠ quote := by
  rintro rfl
  cases known

theorem inString_newline {tokens : List Token} {quoting : Quoting} {letters : List Char}
    (known : isQuote quoting.quote = true) :
    inString tokens quoting letters '\n' =
      if quoting.multiline then some ⟨tokens, .string quoting ('\n' :: letters)⟩ else none := by
  have other := ne_newline_of_isQuote known
  unfold inString
  cases quoting.multiline <;> simp [other, isControl]

/-- Where a line ends the text is between two tokens, or in a string that goes on. -/
theorem step_newline {scan next : Scan} (held : Held scan.position)
    (stepped : step scan '\n' = some next) :
    next.position = .between ∨ Inside false next.position := by
  obtain ⟨tokens, position⟩ := scan
  have started {tokens : List Token} (started : start tokens '\n' = some next) :
      next.position = .between := by
    cases started
    rfl
  have inside {quoting : Quoting} {letters : List Char} (known : isQuote quoting.quote = true)
      (stepped : inString tokens quoting letters '\n' = some next) : Inside false next.position := by
    obtain ⟨quote, multiline⟩ := quoting
    rw [inString_newline known] at stepped
    cases multiline with
    | false => cases stepped
    | true =>
      cases stepped
      exact .string known _ _
  cases position with
  | between | blank | word => exact .inl (started stepped)
  | lineEnd | comment | commentEnd =>
    cases stepped
    exact .inl rfl
  | opening quote second =>
    have known : isQuote quote = true := held
    cases second <;> simp only [step, if_neg (ne_newline_of_isQuote known)] at stepped
    · exact .inr (inside known stepped)
    · exact .inl (started stepped)
  | firstLine quote returned =>
    cases stepped
    exact .inr (.string held _ _)
  | string quoting letters => exact .inr (inside held stepped)
  | stringEnd quoting letters =>
    cases stepped
    obtain ⟨quote, multiline⟩ := quoting
    obtain ⟨known, rfl⟩ : isQuote quote = true ∧ multiline = true := held
    exact .inr (.string known _ _)
  | quotes quote count letters =>
    have known : isQuote quote = true := held
    have other : ('\n' = quote && count < maxQuotes) ≠ true := by
      simp [ne_newline_of_isQuote known]
    simp only [step, afterQuotes, if_neg other] at stepped
    split at stepped
    · exact .inl (started stepped)
    · exact .inr (inside known stepped)
  | escape multiline letters =>
    cases multiline with
    | false => cases stepped
    | true =>
      cases stepped
      exact .inr (.folded _ _)
  | fold returned letters =>
    cases stepped
    exact .inr (.folded _ _)
  | folded returned letters =>
    cases stepped
    exact .inr (.folded _ _)
  | number multiline letters value missing => cases stepped

/-- A character that stands for itself in every string that may span lines, if it is not its quote. -/
def isCalm (c : Char) : Bool := (!isControl c || c == '\n') && c != '\\'

/-- Calm characters, no two of which are quotes next to each other. -/
def isCalmText : Bool → List Char → Bool
  | _, [] => true
  | last, c :: rest => isCalm c && !(last && isQuote c) && isCalmText (isQuote c) rest

theorem inString_inside {quote : Char} (known : isQuote quote = true) (calm : isCalm c = true)
    (tokens : List Token) (letters : List Char) :
    ∃ position, inString tokens ⟨quote, true⟩ letters c = some ⟨tokens, position⟩ ∧
      Inside (isQuote c) position := by
  simp only [isCalm, Bool.and_eq_true, Bool.or_eq_true, Bool.not_eq_true', beq_iff_eq,
    bne_iff_ne] at calm
  obtain ⟨printed, plain⟩ := calm
  by_cases closing : c = quote
  · subst closing
    refine ⟨.quotes c 1 letters, if_pos rfl, ?_⟩
    rw [known]
    exact .quotes known letters
  · have broken : isControl c = true → c = '\n' := by
      intro control
      exact printed.resolve_left (by simp [control])
    have returned : c ≠ '\r' := by
      rintro rfl
      cases broken rfl
    refine ⟨.string ⟨quote, true⟩ (c :: letters), ?_, .string known _ _⟩
    simpa [inString, closing, plain, returned] using broken

theorem step_inside {last : Bool} {position : Position} (inside : Inside last position)
    (calm : isCalm c = true) (lone : (last && isQuote c) = false) (tokens : List Token) :
    ∃ next, step ⟨tokens, position⟩ c = some ⟨tokens, next⟩ ∧ Inside (isQuote c) next := by
  cases inside with
  | string known letters => exact inString_inside known calm tokens letters
  | @quotes quote known letters =>
    have other : c ≠ quote := by
      rintro rfl
      rw [Bool.true_and, known] at lone
      cases lone
    simp only [step, afterQuotes, other, decide_false, Bool.false_and, Bool.false_eq_true,
      if_false, Nat.reduceLeDiff]
    exact inString_inside known calm tokens _
  | folded letters =>
    simp only [step]
    split
    next same => exact ⟨_, rfl, .folded _ _⟩
    next other =>
      have returned : c ≠ '\r' := by
        rintro rfl
        cases calm
      simp only [Bool.false_eq_true, if_false, if_neg returned]
      split
      · exact ⟨_, rfl, .folded _ _⟩
      · exact inString_inside rfl calm tokens letters

/-- A string that may span lines goes on as long as no two quotes come next to each other. -/
theorem foldlM_inside {text : List Char} {last : Bool} {position : Position}
    (inside : Inside last position) (calm : isCalmText last text = true) (tokens : List Token) :
    ∃ after next, text.foldlM step ⟨tokens, position⟩ = some ⟨tokens, next⟩ ∧ Inside after next := by
  induction text generalizing last position with
  | nil => exact ⟨last, position, rfl, inside⟩
  | cons c rest ih =>
    simp only [isCalmText, Bool.and_eq_true, Bool.not_eq_true'] at calm
    obtain ⟨⟨calmChar, lone⟩, others⟩ := calm
    obtain ⟨next, stepped, stays⟩ := step_inside inside calmChar lone tokens
    rw [List.foldlM_cons, stepped]
    exact ih stays others

theorem finish_of_inside {last : Bool} {scan : Scan} (inside : Inside last scan.position) :
    finish scan = none := by
  obtain ⟨tokens, position⟩ := scan
  cases inside <;> rfl

/-! ### What follows the end of a line -/

theorem exists_withoutMark (front rest : List Char) :
    ∃ kept, withoutMark (front ++ '\n' :: rest) = kept ++ '\n' :: rest := by
  unfold withoutMark
  split
  next behind marked =>
    cases front with
    | nil => cases marked
    | cons c front =>
      obtain ⟨-, rfl⟩ := List.cons.inj marked
      exact ⟨front, rfl⟩
  next => exact ⟨front, rfl⟩

/-- Whatever stands before a line end, a calm text after it has the tokens that it has by itself. -/
theorem tokens_after_newline {front rest : List Char} {tokens ending : List Token}
    (scanned : scan? (front ++ '\n' :: rest) = some tokens)
    (calm : isCalmText false rest = true)
    (alone : rest.foldlM step ⟨[], .between⟩ = some ⟨ending, .between⟩) :
    ∃ before, tokens = before ++ ending.reverse := by
  obtain ⟨kept, whole⟩ := exists_withoutMark front rest
  rw [scan?, whole, List.foldlM_append] at scanned
  obtain ⟨last, read, finished⟩ := Option.bind_eq_some_iff.mp scanned
  obtain ⟨first, begun, read⟩ := Option.bind_eq_some_iff.mp read
  rw [List.foldlM_cons] at read
  obtain ⟨next, stepped, read⟩ := Option.bind_eq_some_iff.mp read
  have held : Held first.position :=
    Json.foldlM_keeps (fun scan : Scan => Held scan.position)
      (fun _ _ _ _ stepped held => step_held held stepped) begun trivial
  obtain ⟨before, position⟩ := next
  rcases step_newline held stepped with between | inside
  · obtain rfl : position = .between := between
    have shifted := foldlM_onto rest ⟨[], .between⟩ before
    rw [alone] at shifted
    have same : some last = some ⟨ending ++ before, .between⟩ := read.symm.trans shifted
    cases same
    obtain rfl := Option.some.inj finished
    exact ⟨before.reverse, List.reverse_append⟩
  · obtain ⟨after, position, stays, still⟩ := foldlM_inside inside calm before
    obtain rfl : (⟨before, position⟩ : Scan) = last := Option.some.inj (stays.symm.trans read)
    rw [finish_of_inside still] at finished
    cases finished

/-! ### Comments -/

/-- A text that can stand in a comment: no control but tabs, save a carriage return at the end. -/
def FitsComment (line : List Char) : Prop :=
  ∃ kept, (line = kept ∨ line = kept ++ ['\r']) ∧ ∀ c ∈ kept, isControl c = false

theorem fitsComment_nil : FitsComment [] := ⟨[], .inl rfl, fun _ => nofun⟩

theorem fitsComment_cons_iff {rest : List Char} :
    FitsComment (c :: rest) ↔
      (c = '\r' ∧ rest = []) ∨ (isControl c = false ∧ FitsComment rest) := by
  constructor
  · rintro ⟨kept, whole, plain⟩
    cases kept with
    | nil =>
      rcases whole with none | returned
      · cases none
      · exact .inl (List.cons.inj returned)
    | cons d kept =>
      obtain ⟨first, others⟩ := List.forall_mem_cons.mp plain
      rcases whole with same | returned
      · obtain ⟨rfl, rfl⟩ := List.cons.inj same
        exact .inr ⟨first, _, .inl rfl, others⟩
      · obtain ⟨rfl, rfl⟩ := List.cons.inj returned
        exact .inr ⟨first, _, .inr rfl, others⟩
  · rintro (⟨rfl, rfl⟩ | ⟨first, kept, whole, others⟩)
    · exact ⟨[], .inr rfl, fun _ => nofun⟩
    · refine ⟨c :: kept, ?_, List.forall_mem_cons.mpr ⟨first, others⟩⟩
      rcases whole with rfl | rfl
      · exact .inl rfl
      · exact .inr rfl

/-- A comment that is one line is read exactly if it fits, and leaves the end of the line. -/
theorem foldlM_comment_iff {line : List Char} (single : '\n' ∉ line) (tokens : List Token)
    {scan : Scan} :
    (line ++ ['\n']).foldlM step ⟨tokens, .comment⟩ = some scan ↔
      FitsComment line ∧ scan = ⟨.newline :: tokens, .between⟩ := by
  induction line with
  | nil =>
    rw [and_iff_right fitsComment_nil]
    exact (Option.some_inj).trans eq_comm
  | cons c rest ih =>
    simp only [List.mem_cons, not_or] at single
    obtain ⟨first, others⟩ := single
    rw [List.cons_append, List.foldlM_cons, fitsComment_cons_iff]
    by_cases returned : c = '\r'
    · subst returned
      have control : isControl '\r' ≠ false := by decide
      cases rest with
      | nil => simpa [step, control] using eq_comm
      | cons d rest =>
        have other : d ≠ '\n' := fun same => others (by simp [same])
        simp [step, control, other]
    · have entered : step ⟨tokens, .comment⟩ c =
          if isControl c then none else some ⟨tokens, .comment⟩ := by
        simp [step, Ne.symm first, returned]
      rw [entered, or_iff_right (fun ends => returned ends.1)]
      cases control : isControl c with
      | true => simp
      | false => simpa using ih others

end Token

end ScenarioResults.Toml
