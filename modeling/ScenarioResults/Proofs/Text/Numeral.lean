import ScenarioResults.Text.Digits

/-!
# Numerals and their values

A numeral is a row of digits that may follow a plus sign, and the value of the digits is its value. What
can be read within a bound is exactly the numerals whose value keeps to it (`readNumeral_eq_ok_iff`):
reading stops as soon as the bound is passed, and digits never make a value smaller.
-/

namespace ScenarioResults.Text

/-- At least one digit, behind a plus sign or by itself, and the value of the digits. -/
inductive Numeral : List Char → Nat → Prop
  | bare {cs : List Char} (filled : cs ≠ []) (digits : ∀ c ∈ cs, c.isDigit = true) :
      Numeral cs (digitsOnto 0 cs)
  | signed {cs : List Char} (filled : cs ≠ []) (digits : ∀ c ∈ cs, c.isDigit = true) :
      Numeral ('+' :: cs) (digitsOnto 0 cs)

theorem digitsOnto_cons (value : Nat) (c : Char) (rest : List Char) :
    digitsOnto value (c :: rest) = digitsOnto (10 * value + (c.toNat - '0'.toNat)) rest := by
  rw [digitsOnto, List.foldl_cons, digitsOnto]

theorem le_digitsOnto (value : Nat) (cs : List Char) : value ≤ digitsOnto value cs := by
  induction cs generalizing value with
  | nil => exact Nat.le_refl value
  | cons c rest ih =>
    rw [digitsOnto_cons]
    exact Nat.le_trans (by omega) (ih _)

/-- Digits are read to the end exactly if the value that they grow to keeps to the bound. -/
theorem readDigits_eq_ok_iff {bound value n : Nat} {cs : List Char} (within : value ≤ bound) :
    readDigits bound value cs = .ok n ↔
      (∀ c ∈ cs, c.isDigit = true) ∧ digitsOnto value cs = n ∧ n ≤ bound := by
  induction cs generalizing value with
  | nil =>
    simp only [readDigits, Except.ok.injEq, digitsOnto, List.foldl_nil, List.not_mem_nil, false_imp_iff,
      implies_true, true_and]
    exact ⟨fun same => ⟨same, same ▸ within⟩, fun same => same.1⟩
  | cons c rest ih =>
    rw [readDigits, List.forall_mem_cons, digitsOnto_cons]
    by_cases digit : c.isDigit = true
    · rw [digit?, if_pos digit]
      dsimp only
      split
      next below => rw [ih below, and_iff_right digit]
      next above =>
        have grows := le_digitsOnto (10 * value + (c.toNat - '0'.toNat)) rest
        refine iff_of_false (fun read => by cases read) ?_
        rintro ⟨-, rfl, keeps⟩
        omega
    · rw [digit?, if_neg digit]
      exact iff_of_false (fun read => by cases read) fun all => digit all.1.1

theorem numeral_signed_iff {cs : List Char} {n : Nat} :
    Numeral ('+' :: cs) n ↔ cs ≠ [] ∧ (∀ c ∈ cs, c.isDigit = true) ∧ digitsOnto 0 cs = n := by
  constructor
  · rintro (⟨-, digits⟩ | ⟨filled, digits⟩)
    · exact absurd (digits '+' List.mem_cons_self) (by decide)
    · exact ⟨filled, digits, rfl⟩
  · rintro ⟨filled, digits, rfl⟩
    exact .signed filled digits

theorem numeral_bare_iff {cs : List Char} {n : Nat} (bare : ∀ rest, cs ≠ '+' :: rest) :
    Numeral cs n ↔ cs ≠ [] ∧ (∀ c ∈ cs, c.isDigit = true) ∧ digitsOnto 0 cs = n := by
  constructor
  · rintro (⟨filled, digits⟩ | ⟨-, -⟩)
    · exact ⟨filled, digits, rfl⟩
    · exact (bare _ rfl).elim
  · rintro ⟨filled, digits, rfl⟩
    exact .bare filled digits

/-- A numeral is read exactly if its value keeps to the bound, and then as its value. -/
theorem readNumeral_eq_ok_iff {bound n : Nat} {cs : List Char} :
    readNumeral bound cs = .ok n ↔ Numeral cs n ∧ n ≤ bound := by
  unfold readNumeral
  split
  next =>
    rw [numeral_bare_iff (by simp)]
    simp
  next =>
    rw [numeral_signed_iff]
    simp
  next rest filled =>
    rw [readDigits_eq_ok_iff (Nat.zero_le bound), numeral_signed_iff,
      and_iff_right (fun none => filled (by rw [none])), and_assoc]
  next filled _ bare =>
    rw [readDigits_eq_ok_iff (Nat.zero_le bound), numeral_bare_iff bare, and_iff_right filled,
      and_assoc]

/-- A numeral ends in a digit. -/
theorem Numeral.isDigit_last {cs : List Char} {n : Nat} (numeral : Numeral cs n) {c : Char}
    (last : cs.getLast? = some c) : c.isDigit = true := by
  cases numeral with
  | bare filled digits => exact digits c (List.mem_of_getLast? last)
  | signed filled digits =>
    rw [List.getLast?_cons_of_ne_nil filled] at last
    exact digits c (List.mem_of_getLast? last)

end ScenarioResults.Text
