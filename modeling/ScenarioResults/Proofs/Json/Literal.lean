import ScenarioResults.Json.Tree

/-!
# String literals are read back

Whatever a string holds, the literal that is written for it is one token of JSON text, and this token
has the string as its value (`scan_literal`). The scanner collects one piece for each character of
the string, `Piece.ofChar` says which.
-/

namespace ScenarioResults.Json

/-- The piece that is read for a character: the character, or the number of a control that has no
short escape. -/
def Piece.ofChar (c : Char) : Piece :=
  match c with
  | '\x08' | '\x0c' | '\n' | '\r' | '\t' => .char c
  | _ => if c.toNat < 32 then .unit c.toNat else .char c

theorem decode_control {n : Nat} (below : n < 32) (rest : List Piece) :
    Piece.decode (.unit n :: rest) = (Piece.decode rest).map (Char.ofNat n :: ·) := by
  have notHigh : isHigh n = false := by simp [isHigh]; omega
  have notLow : isLow n = false := by simp [isLow]; omega
  rw [Piece.decode.eq_def]
  split
  next same => cases same
  next same => cases same
  next same =>
    cases same
    simp [notHigh, notLow]
  next same =>
    cases same
    simp [notHigh, notLow]

theorem decode_ofChar (c : Char) (rest : List Piece) :
    Piece.decode (.ofChar c :: rest) = (Piece.decode rest).map (c :: ·) := by
  unfold Piece.ofChar
  split
  iterate 5 rfl
  split
  next below => rw [decode_control below, Char.ofNat_toNat]
  next => rfl

theorem decode_ofChars (cs : List Char) : Piece.decode (cs.map .ofChar) = some cs := by
  induction cs with
  | nil => rfl
  | cons c rest ih => rw [List.map_cons, decode_ofChar, ih, Option.map_some]

namespace Token

variable {tokens : List Token} {pieces : List Piece}

theorem step_quote (tokens : List Token) :
    step ⟨tokens, .between⟩ '"' = some ⟨tokens, .string []⟩ := rfl

theorem step_plain {c : Char} (quote : c ≠ '"') (backslash : c ≠ '\\') (visible : ¬ c.toNat < 32) :
    step ⟨tokens, .string pieces⟩ c = some ⟨tokens, .string (.char c :: pieces)⟩ := by
  simp [step, quote, backslash, visible]

/-- A control written by its number. The four digits are two zeros and those of the number. -/
theorem foldlM_control {n : Nat} (below : n < 32) :
    ['\\', 'u', '0', '0', Text.hexDigit (n / 16), (Text.hexDigit (n % 16)).toLower].foldlM step
      ⟨tokens, .string pieces⟩ = some ⟨tokens, .string (.unit n :: pieces)⟩ := by
  have high : Text.hexValue? (Text.hexDigit (n / 16)) = some (n / 16) := by
    have all : ∀ n < 32, Text.hexValue? (Text.hexDigit (n / 16)) = some (n / 16) := by decide
    exact all n below
  have low : Text.hexValue? (Text.hexDigit (n % 16)).toLower = some (n % 16) := by
    have all : ∀ n < 32, Text.hexValue? (Text.hexDigit (n % 16)).toLower = some (n % 16) := by decide
    exact all n below
  have zero : Text.hexValue? '0' = some 0 := rfl
  have whole : 16 * (n / 16) + n % 16 = n := by omega
  simp [List.foldlM, step, high, low, zero, whole]

theorem foldlM_literalChar (c : Char) :
    (literalChar c).foldlM step ⟨tokens, .string pieces⟩ =
      some ⟨tokens, .string (.ofChar c :: pieces)⟩ := by
  unfold literalChar
  split
  iterate 7 rfl
  next quote backslash backspace formFeed newline carriageReturn tab =>
    have piece : Piece.ofChar c = if c.toNat < 32 then .unit c.toNat else .char c := by
      unfold Piece.ofChar
      split
      · exact (backspace rfl).elim
      · exact (formFeed rfl).elim
      · exact (newline rfl).elim
      · exact (carriageReturn rfl).elim
      · exact (tab rfl).elim
      · rfl
    rw [piece]
    split
    next below => exact foldlM_control below
    next visible =>
      rw [List.foldlM_cons, step_plain quote backslash visible]
      rfl

theorem foldlM_literalChars (cs : List Char) :
    (cs.flatMap literalChar).foldlM step ⟨tokens, .string pieces⟩ =
      some ⟨tokens, .string ((cs.map .ofChar).reverse ++ pieces)⟩ := by
  induction cs generalizing pieces with
  | nil => rfl
  | cons c rest ih =>
    rw [List.flatMap_cons, List.foldlM_append, foldlM_literalChar]
    simpa using ih

/-- A literal is one token, and it is worth its string. -/
theorem scan_literal (tokens : List Token) (s : String) :
    (literal s).foldlM step ⟨tokens, .between⟩ = some ⟨.string (some s) :: tokens, .between⟩ := by
  rw [literal, List.foldlM_cons, step_quote]
  simp only [Option.bind_eq_bind, Option.bind_some]
  rw [List.foldlM_append, foldlM_literalChars]
  simp [step, decode_ofChars]

end Token

theorem angle_not_mem_literalChar {c : Char} (other : c ≠ '<') : '<' ∉ literalChar c := by
  unfold literalChar
  split
  iterate 7 decide
  split
  next below =>
    have digits : ∀ n < 32, '<' ∉ ['\\', 'u', '0', '0', Text.hexDigit (n / 16),
        (Text.hexDigit (n % 16)).toLower] := by
      decide
    exact digits c.toNat below
  next => simpa using other.symm

/-- A literal holds no angle bracket that its string does not hold. -/
theorem angle_not_mem_literal {s : String} (absent : '<' ∉ s.toList) : '<' ∉ literal s := by
  unfold literal
  simp only [List.mem_cons, List.mem_append, List.mem_flatMap, List.not_mem_nil, not_or, not_exists,
    not_and]
  refine ⟨by decide, ?_, by decide, not_false⟩
  intro c member
  refine angle_not_mem_literalChar ?_
  rintro rfl
  exact absent member

/-- The literal of a string is a JSON text of that string. -/
theorem ofText?_literal (s : String) :
    Value.ofText? (String.ofList (literal s)) = some (.string s) := by
  have scanned : Token.scan? (literal s) = some [.string (some s)] := by
    unfold Token.scan?
    rw [Token.scan_literal]
    rfl
  rw [Value.ofText?, Tree.ofText?, String.toList_ofList, scanned]
  rfl

end ScenarioResults.Json
