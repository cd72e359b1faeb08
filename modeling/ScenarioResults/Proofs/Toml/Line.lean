import ScenarioResults.Proofs.Toml.Scan
import ScenarioResults.Proofs.Toml.Table
import ScenarioResults.Toml.Document

/-!
# How lines are read

From the beginning of a line (`atLine`) a header opens its table, and a key with a string defines it
there. So the entries of lines that were read stand in the document, whatever it had before
(`Line.stands_of_read`). A line may also begin inside a list or an inline table that was left open. But
no header follows there, and so one that does follow tells that nothing was open
(`atLine_of_scalarLine`).
-/

namespace ScenarioResults.Toml

/-- A line of a plain document. -/
inductive Line where
  | blank
  | comment (text : String)
  | header (name : String)
  /-- A key and the string that it has. -/
  | entry (key text : String)
  /-- A key and the bare scalar that it has. -/
  | scalar (key word : String)
  deriving DecidableEq, Repr

namespace Reading

def headerLine (name : String) : List Token := [.openBracket, .word name, .closeBracket, .newline]

def entryLine (key : String) (value : Token) : List Token :=
  [.word key, .blank true, .equals, .blank true, value, .newline]

/-- Where a line begins, with nothing open. -/
def atLine (document : Entries) (header : List String) : Reading := ⟨document, header, [], .line⟩

def isBare (key : String) : Bool := key.toList.all isBareKeyChar

variable {r next last : Reading} {document : Entries} {header : List String}
  {key name text : String} {token : Token} {rest : List Token} {value : Value}

theorem keyPart?_word (bare : isBare key = true) : keyPart? (.word key) = some key := if_pos bare

/-! ### From the beginning of a line -/

theorem step_separator :
    step ⟨document, header, [], .separator⟩ .newline = some (atLine document header) := rfl

theorem step_blankLine (document : Entries) (header : List String) :
    step (atLine document header) .newline = some (atLine document header) := rfl

theorem foldlM_newline :
    (.newline :: rest).foldlM step (atLine document header) =
      rest.foldlM step (atLine document header) :=
  foldlM_cons_of_step (step_blankLine document header)

theorem foldlM_headerLine (bare : isBare name = true) :
    (headerLine name ++ rest).foldlM step (atLine document header) =
      (document.openTable [] name).bind fun opened => rest.foldlM step (atLine opened [name]) := by
  have bracket : step (atLine document header) .openBracket =
      some ⟨document, header, [], .header⟩ := rfl
  have named : step ⟨document, header, [], .header⟩ (.word name) =
      some ⟨document, header, [], .keyEnd .tableHeader [] name⟩ := by
    simp only [step, keyPart?_word bare]
    rfl
  simp only [headerLine, List.cons_append, List.nil_append]
  rw [foldlM_cons_of_step bracket, foldlM_cons_of_step named, List.foldlM_cons]
  simp only [step, endKey, List.reverse_nil]
  cases document.openTable [] name with
  | none => rfl
  | some opened => exact foldlM_cons_of_step step_separator

theorem step_key (bare : isBare key = true)
    (begins : r.expected = .line ∨ r.expected = .entryOrEnd) :
    step r (.word key) = some { r with expected := .keyEnd .entry [] key } := by
  obtain ⟨document, header, frames, expected⟩ := r
  rcases begins with line | entry
  · obtain rfl : expected = .line := line
    simp only [step, keyPart?_word bare]
    rfl
  · obtain rfl : expected = .entryOrEnd := entry
    simp only [step, keyPart?_word bare]
    rfl

/-- A key leads to its value, whatever is open around it. -/
theorem foldlM_key (bare : isBare key = true)
    (begins : r.expected = .line ∨ r.expected = .entryOrEnd) :
    (.word key :: .blank true :: .equals :: .blank true :: rest).foldlM step r =
      rest.foldlM step ⟨r.document, r.header, .entry [] key :: r.frames, .value⟩ := by
  have blank : step { r with expected := .keyEnd .entry [] key } (.blank true) =
      some { r with expected := .keyEnd .entry [] key } := rfl
  have equals : step { r with expected := .keyEnd .entry [] key } .equals =
      some ⟨r.document, r.header, .entry [] key :: r.frames, .value⟩ := rfl
  have value : step ⟨r.document, r.header, .entry [] key :: r.frames, .value⟩ (.blank true) =
      some ⟨r.document, r.header, .entry [] key :: r.frames, .value⟩ := rfl
  rw [foldlM_cons_of_step (step_key bare begins), foldlM_cons_of_step blank,
    foldlM_cons_of_step equals, foldlM_cons_of_step value]

theorem foldlM_entryLine (bare : isBare key = true) :
    (entryLine key (.string false text) ++ rest).foldlM step (atLine document header) =
      (document.defineUnder header [] key (.string text)).bind fun defined =>
        rest.foldlM step (atLine defined header) := by
  simp only [entryLine, List.cons_append, List.nil_append]
  rw [foldlM_key bare (.inl rfl), List.foldlM_cons]
  simp only [step, beginValue, close, atLine]
  cases document.defineUnder header [] key (.string text) with
  | none => rfl
  | some defined => exact foldlM_cons_of_step step_separator

theorem foldlM_scalarLine (bare : isBare key = true) :
    (entryLine key (.word text) ++ rest).foldlM step (atLine document header) =
      ((Value.ofScalar? text).bind (document.defineUnder header [] key)).bind fun defined =>
        rest.foldlM step (atLine defined header) := by
  have word : step ⟨document, header, [.entry [] key], .value⟩ (.word text) =
      some ⟨document, header, [.entry [] key], .scalar text⟩ := rfl
  simp only [entryLine, List.cons_append, List.nil_append]
  rw [foldlM_key bare (.inl rfl), List.foldlM_cons, atLine, word, Option.bind_eq_bind,
    Option.bind_some, List.foldlM_cons]
  simp only [step, endScalar, close]
  cases Value.ofScalar? text with
  | none => rfl
  | some value =>
    simp only [Option.bind_eq_bind, Option.bind_some]
    cases document.defineUnder header [] key value <;> rfl

/-! ### From the end of a line -/

theorem expected_of_close (closed : close r value = some next) : next.expected = .separator := by
  unfold close at closed
  split at closed
  · cases closed
    rfl
  · obtain ⟨entries, -, same⟩ := Option.bind_eq_some_iff.mp closed
    cases same
    rfl
  · obtain ⟨document, -, same⟩ := Option.bind_eq_some_iff.mp closed
    cases same
    rfl
  · cases closed

/-- The value of a key is closed in the document or in an inline table. -/
theorem close_entry {frames : List Frame} {path : List String} {expected : Expected}
    (closed : close ⟨document, header, .entry path key :: frames, expected⟩ value = some next) :
    (∃ defined, next = ⟨defined, header, [], .separator⟩) ∨
      ∃ entries rest, next.frames = .inline entries :: rest := by
  cases frames with
  | nil =>
    obtain ⟨defined, -, same⟩ := Option.bind_eq_some_iff.mp closed
    cases same
    exact .inl ⟨defined, rfl⟩
  | cons frame rest =>
    cases frame with
    | inline entries =>
      obtain ⟨entries, -, same⟩ := Option.bind_eq_some_iff.mp closed
      cases same
      exact .inr ⟨entries, rest, rfl⟩
    | _ => cases closed

theorem afterValue_newline (stepped : r.afterValue .newline = some next) :
    next.expected = .line ∨ (next = r ∧ r.frames ≠ []) := by
  obtain ⟨document, header, frames, expected⟩ := r
  cases frames with
  | nil =>
    cases stepped
    exact .inl rfl
  | cons frame rest =>
    cases stepped
    exact .inr ⟨rfl, List.cons_ne_nil frame rest⟩

theorem endScalar_eq_some (ended : r.endScalar text token = some next) :
    ∃ value closed, Value.ofScalar? text = some value ∧ close r value = some closed ∧
      closed.afterValue token = some next := by
  obtain ⟨value, read, rest⟩ := Option.bind_eq_some_iff.mp ended
  obtain ⟨closed, held, after⟩ := Option.bind_eq_some_iff.mp rest
  exact ⟨value, closed, read, held, after⟩

/-- What can be under way where a line has ended. -/
theorem step_newline (stepped : step r .newline = some next) :
    next.expected = .line ∨ next.expected = .entryOrEnd ∨ next.expected = .value ∨
      (next.expected = .separator ∧ next.frames ≠ []) := by
  have scalar {text : String} (ended : r.endScalar text .newline = some next) :
      next.expected = .line ∨ (next.expected = .separator ∧ next.frames ≠ []) := by
    obtain ⟨value, closed, -, held, after⟩ := endScalar_eq_some ended
    rcases afterValue_newline after with line | ⟨rfl, inside⟩
    · exact .inl line
    · exact .inr ⟨expected_of_close held, inside⟩
  obtain ⟨document, header, frames, expected⟩ := r
  cases expected with
  | line =>
    cases stepped
    exact .inl rfl
  | entryOrEnd =>
    cases stepped
    exact .inr (.inl rfl)
  | header | keyPart | secondBracket => cases stepped
  | keyEnd use outer last => cases use <;> cases stepped
  | value =>
    cases frames with
    | nil => cases stepped
    | cons frame rest =>
      cases frame with
      | array items =>
        cases stepped
        exact .inr (.inr (.inl rfl))
      | _ => cases stepped
  | scalar | scalarSpace => exact (scalar stepped).imp_right fun inside => .inr (.inr inside)
  | separator =>
    rcases afterValue_newline stepped with line | ⟨rfl, inside⟩
    · exact .inl line
    · exact .inr (.inr (.inr ⟨rfl, inside⟩))

/-- The end of a line with a bare scalar under a key: nothing is open, or an inline table is. -/
theorem step_entryEnd {frames : List Frame}
    (stepped : step ⟨document, header, .entry [] key :: frames, .scalar text⟩ .newline = some next) :
    (∃ defined, next = atLine defined header) ∨
      next.expected = .separator ∧ ∃ entries rest, next.frames = .inline entries :: rest := by
  obtain ⟨value, closed, -, held, after⟩ := endScalar_eq_some stepped
  have separated := expected_of_close held
  rcases close_entry held with ⟨defined, rfl⟩ | ⟨entries, rest, inline⟩
  · cases after
    exact .inl ⟨defined, rfl⟩
  · obtain ⟨document, header, frames, expected⟩ := closed
    obtain rfl : frames = .inline entries :: rest := inline
    cases after
    exact .inr ⟨separated, entries, rest, rfl⟩

/-- A header can follow a key with a bare scalar only where nothing is open. In an inline table, where
the key might stand, no header follows. In a list the key would be a scalar that there is not. -/
theorem atLine_of_scalarLine (bare : isBare key = true) (unread : Value.ofScalar? key = none)
    (undated : isDate key = false)
    (run : (.newline :: (entryLine key (.word text) ++ .newline :: .openBracket :: rest)).foldlM step r
      = some last) :
    ∃ document header, (.openBracket :: rest).foldlM step (atLine document header) = some last := by
  rw [List.foldlM_cons] at run
  obtain ⟨next, ended, run⟩ := Option.bind_eq_some_iff.mp run
  simp only [entryLine, List.cons_append, List.nil_append] at run
  have begun (begins : next.expected = .line ∨ next.expected = .entryOrEnd) :
      ∃ document header, (.openBracket :: rest).foldlM step (atLine document header) = some last := by
    have word : step ⟨next.document, next.header, .entry [] key :: next.frames, .value⟩ (.word text) =
        some ⟨next.document, next.header, .entry [] key :: next.frames, .scalar text⟩ := rfl
    rw [foldlM_key bare begins, foldlM_cons_of_step word, List.foldlM_cons] at run
    obtain ⟨after, stepped, run⟩ := Option.bind_eq_some_iff.mp run
    rcases step_entryEnd stepped with ⟨defined, rfl⟩ | ⟨separated, entries, outer, inline⟩
    · exact ⟨defined, next.header, foldlM_newline.symm.trans run⟩
    · obtain ⟨document, header, frames, expected⟩ := after
      obtain rfl : expected = .separator := separated
      obtain rfl : frames = .inline entries :: outer := inline
      cases run
  rcases step_newline ended with line | entry | item | ⟨separated, inside⟩
  · exact begun (.inl line)
  · exact begun (.inr entry)
  · obtain ⟨document, header, frames, expected⟩ := next
    obtain rfl : expected = .value := item
    have word : step ⟨document, header, frames, .value⟩ (.word key) =
        some ⟨document, header, frames, .scalar key⟩ := rfl
    have stuck : step ⟨document, header, frames, .scalar key⟩ (.blank true) = none := by
      simp [step, undated, endScalar, unread]
    rw [foldlM_cons_of_step word, List.foldlM_cons, stuck] at run
    cases run
  · obtain ⟨document, header, frames, expected⟩ := next
    obtain rfl : expected = .separator := separated
    cases frames with
    | nil => exact (inside rfl).elim
    | cons frame outer => cases frame <;> cases run

end Reading

/-! ### Line by line -/

namespace Line

open Reading

variable {document : Entries} {header : String}

def tokens : Line → List Token
  | .blank | .comment _ => [.newline]
  | .header name => headerLine name
  | .entry key text => entryLine key (.string false text)
  | .scalar key word => entryLine key (.word word)

def hasBareKey : Line → Bool
  | .blank | .comment _ => true
  | .header name => isBare name
  | .entry key _ | .scalar key _ => isBare key

/-- The strings that lines after a header set: their headers, keys and texts. -/
def entries (header : String) : List Line → List (String × String × String)
  | [] => []
  | .header name :: rest => entries name rest
  | .entry key text :: rest => (header, key, text) :: entries header rest
  | _ :: rest => entries header rest

/-- After lines that can be read all their strings stand, as does what stood before. -/
theorem stands_of_read {lines : List Line} {last : Reading}
    (bare : lines.all hasBareKey = true) (opened : document.Opened header)
    (read : (lines.flatMap tokens).foldlM step (atLine document [header]) = some last) :
    ∃ final ending, last = atLine final [ending] ∧
      (∀ name key value, document.Stands name key value → final.Stands name key value) ∧
      ∀ entry ∈ entries header lines, final.Stands entry.1 entry.2.1 (.string entry.2.2) := by
  induction lines generalizing document header with
  | nil =>
    cases read
    exact ⟨document, header, rfl, fun _ _ _ stands => stands, fun _ => nofun⟩
  | cons line rest ih =>
    obtain ⟨first, others⟩ := Bool.and_eq_true_iff.mp bare
    rw [List.flatMap_cons] at read
    cases line with
    | blank | comment => exact ih others opened (foldlM_newline.symm.trans read)
    | header name =>
      rw [tokens, foldlM_headerLine first] at read
      obtain ⟨next, opens, read⟩ := Option.bind_eq_some_iff.mp read
      obtain ⟨final, ending, same, kept, given⟩ := ih others (Entries.openTable_eq_some opens).1 read
      exact ⟨final, ending, same,
        fun name key value stands => kept name key value (stands.openTable opens), given⟩
    | entry key text =>
      rw [tokens, foldlM_entryLine first] at read
      obtain ⟨next, defines, read⟩ := Option.bind_eq_some_iff.mp read
      have added := Entries.stands_of_defineUnder opened defines
      obtain ⟨final, ending, same, kept, given⟩ := ih others added.opened read
      refine ⟨final, ending, same,
        fun name key value stands => kept name key value (stands.defineUnder opened defines), ?_⟩
      rintro entry (_ | ⟨_, member⟩)
      · exact kept header key (.string text) added
      · exact given entry member
    | scalar key word =>
      rw [tokens, foldlM_scalarLine first] at read
      obtain ⟨next, defines, read⟩ := Option.bind_eq_some_iff.mp read
      obtain ⟨value, -, defines⟩ := Option.bind_eq_some_iff.mp defines
      have added := Entries.stands_of_defineUnder opened defines
      obtain ⟨final, ending, same, kept, given⟩ := ih others added.opened read
      exact ⟨final, ending, same,
        fun name key value stands => kept name key value (stands.defineUnder opened defines), given⟩

/-- Whatever was under way, the strings of lines stand that a scalar under a key and a header begin. -/
theorem stands_of_headed {key word name : String} {lines : List Line} {r last : Reading}
    (bareKey : isBare key = true) (unread : Value.ofScalar? key = none) (undated : isDate key = false)
    (bareName : isBare name = true) (bare : lines.all hasBareKey = true)
    (read : ((.blank :: .scalar key word :: .blank :: .header name :: lines).flatMap tokens).foldlM
      step r = some last) :
    ∃ final ending, last = atLine final [ending] ∧
      ∀ entry ∈ entries name lines, final.Stands entry.1 entry.2.1 (.string entry.2.2) := by
  simp only [List.flatMap_cons, tokens, headerLine, List.cons_append, List.nil_append] at read
  obtain ⟨document, header, read⟩ := atLine_of_scalarLine bareKey unread undated read
  replace read := (foldlM_headerLine bareName).symm.trans read
  obtain ⟨next, opens, read⟩ := Option.bind_eq_some_iff.mp read
  obtain ⟨final, ending, same, -, stands⟩ :=
    stands_of_read bare (Entries.openTable_eq_some opens).1 read
  exact ⟨final, ending, same, stands⟩

end Line

end ScenarioResults.Toml
