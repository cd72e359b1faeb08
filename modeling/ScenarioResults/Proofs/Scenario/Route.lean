import ScenarioResults.Proofs.Json.Numeral
import ScenarioResults.Proofs.Text.Numeral
import ScenarioResults.Proofs.Text.Trim
import ScenarioResults.Scenario

/-!
# Ids in addresses

An id is read from a numeral with nothing but blanks around it, if its value is positive and fits a
signed word (`ids_read_as_written`). What an id is displayed as is such a numeral, so a positive id comes
back from its own text, whatever blanks are put around that.
-/

namespace ScenarioResults.ScenarioId

open Text

/-- A text that is a numeral between blanks, and the value of the numeral. -/
inductive Written : List Char → Nat → Prop
  | between {before numeral after : List Char} {n : Nat} (left : ∀ c ∈ before, isBlank c = true)
      (value : Numeral numeral n) (right : ∀ c ∈ after, isBlank c = true) :
      Written (before ++ numeral ++ after) n

/-- The numbers of the scenarios that an address can name. -/
def InRange (n : Nat) : Prop := 1 ≤ n ∧ n ≤ 0x7FFFFFFFFFFFFFFF

def greatest : ScenarioId := ⟨Int64.ofNat maxNumber⟩

/-! ### Blanks around a numeral -/

theorem isBlank_of_isDigit {c : Char} (digit : c.isDigit = true) : isBlank c = false := by
  simp only [Char.isDigit, Bool.and_eq_true, decide_eq_true_eq, ge_iff_le] at digit
  have least : 48 ≤ c.toNat := digit.1
  have greatest : c.toNat ≤ 57 := digit.2
  simp only [isBlank, inRanges, blankRanges, List.any_cons, List.any_nil, Bool.or_false,
    Bool.or_eq_false_iff, Bool.and_eq_false_iff, decide_eq_false_iff_not]
  omega

theorem solid_of_numeral {cs : List Char} {n : Nat} (numeral : Numeral cs n) :
    cs ≠ [] ∧ ∀ c ∈ cs, isBlank c = false := by
  cases numeral with
  | bare filled digits => exact ⟨filled, fun c member => isBlank_of_isDigit (digits c member)⟩
  | signed filled digits =>
    refine ⟨List.cons_ne_nil _ _, List.forall_mem_cons.mpr ⟨by decide, ?_⟩⟩
    exact fun c member => isBlank_of_isDigit (digits c member)

/-- The numeral is what is left once the blanks are dropped. -/
theorem written_iff {cs : List Char} {n : Nat} :
    Written cs n ↔ Numeral (dropAround isBlank cs) n := by
  constructor
  · rintro ⟨left, value, right⟩
    obtain ⟨filled, solid⟩ := solid_of_numeral value
    rwa [dropAround_append filled left right (fun c first => solid c (List.mem_of_head? first))
      fun c last => solid c (List.mem_of_getLast? last)]
  · intro value
    obtain ⟨before, after, whole, left, right⟩ := exists_dropAround isBlank cs
    rw [whole]
    exact .between left value right

/-! ### Reading -/

theorem eq_ofNat_iff {id : ScenarioId} {n : Nat} (fits : n ≤ maxNumber) :
    id = ⟨Int64.ofNat n⟩ ↔ id.number.toInt = n := by
  have value : (Int64.ofNat n).toInt = n := Int64.toInt_ofNat_of_lt (Nat.lt_succ_of_le fits)
  cases id with
  | mk number => rw [mk.injEq, ← Int64.toInt_inj, value]

theorem ofRoute_eq_ok_iff {raw : String} {id : ScenarioId} :
    ofRoute raw = .ok id ↔ ∃ n, Written raw.toList n ∧ InRange n ∧ id.number.toInt = n := by
  simp only [written_iff]
  constructor
  · intro done
    unfold ofRoute at done
    split at done
    next n known =>
      obtain ⟨numeral, fits⟩ := readNumeral_eq_ok_iff.mp known
      split at done
      next positive =>
        exact ⟨n, numeral, ⟨positive, fits⟩, (eq_ofNat_iff fits).mp (Except.ok.inj done).symm⟩
      next => cases done
    next => cases done
  · rintro ⟨n, numeral, ⟨positive, fits⟩, same⟩
    have known : readNumeral maxNumber (dropAround isBlank raw.toList) = .ok n :=
      readNumeral_eq_ok_iff.mpr ⟨numeral, fits⟩
    rw [ofRoute, known, (eq_ofNat_iff fits).mpr same]
    exact if_pos positive

/-- Whatever is wrong with a text, it is reported as it was given. -/
theorem ofRoute_ok_or_error (raw : String) :
    (∃ id, ofRoute raw = .ok id) ∨ ofRoute raw = .error (.invalidScenario raw) := by
  unfold ofRoute
  split
  · split
    · exact .inl ⟨_, rfl⟩
    · exact .inr rfl
  · exact .inr rfl

theorem ofRoute_eq_error_iff {raw : String} {error : ViewError} :
    ofRoute raw = .error error ↔
      (∀ n, Written raw.toList n → ¬ InRange n) ∧ error = .invalidScenario raw := by
  rcases ofRoute_ok_or_error raw with ⟨id, accepted⟩ | refused
  · obtain ⟨n, written, inRange, -⟩ := ofRoute_eq_ok_iff.mp accepted
    refine iff_of_false (fun failed => ?_) fun none => none.1 n written inRange
    rw [accepted] at failed
    cases failed
  · have none : ∀ n, Written raw.toList n → ¬ InRange n := by
      intro n written inRange
      have value : (Int64.ofNat n).toInt = n := (eq_ofNat_iff inRange.2).mp rfl
      rw [ofRoute_eq_ok_iff.mpr ⟨n, written, inRange, value⟩] at refused
      cases refused
    rw [refused, Except.error.injEq, eq_comm, and_iff_right none]

/-! ### What is displayed -/

theorem numeral_display {id : ScenarioId} {n : Nat} (number : id.number.toInt = n) :
    Numeral id.display.toList n := by
  have digits : id.display.toList = Nat.toDigits 10 n := by
    rw [display, number, Json.Numeral.toList_toString_int, decide_eq_false (by omega)]
    rfl
  have value : digitsOnto 0 (Nat.toDigits 10 n) = n := Nat.ofDigitChars_ten_toDigits
  rw [digits]
  conv => rhs; rw [← value]
  exact .bare Nat.toDigits_ne_nil fun c member => Decimal.isDigit_of_toDigits member

/-- An address names an id exactly if it is a numeral between blanks whose value is in range, and that
is then the id. Everything else is reported as it was given. A positive id that is displayed between
blanks is read as itself. -/
theorem ids_read_as_written :
    (∀ raw id, ofRoute raw = .ok id ↔
        ∃ n, Written raw.toList n ∧ InRange n ∧ id.number.toInt = n) ∧
      (∀ raw error, ofRoute raw = .error error ↔
        (∀ n, Written raw.toList n → ¬ InRange n) ∧ error = .invalidScenario raw) ∧
      ∀ id : ScenarioId, 0 < id.number.toInt →
        ∀ before after, isAllBlank before = true → isAllBlank after = true →
          ofRoute (before ++ id.display ++ after) = .ok id := by
  refine ⟨fun _ _ => ofRoute_eq_ok_iff, fun _ _ => ofRoute_eq_error_iff, ?_⟩
  intro id positive before after left right
  obtain ⟨n, number⟩ := Int.eq_ofNat_of_zero_le (Int.le_of_lt positive)
  have written : Written (before ++ id.display ++ after).toList n := by
    rw [String.toList_append, String.toList_append]
    exact .between (List.all_eq_true.mp left) (numeral_display number) (List.all_eq_true.mp right)
  have greatest : id.number.toInt < 0x8000000000000000 := id.number.toInt_lt
  have inRange : InRange n := by
    unfold InRange
    omega
  exact ofRoute_eq_ok_iff.mpr ⟨n, written, inRange, number⟩

/-- The greatest id, between an ideographic space and a tab on one side and a next-line control on the
other. -/
theorem ids_read_as_written_greatest :
    greatest.display = "9223372036854775807" ∧ 0 < greatest.number.toInt ∧
      isAllBlank "\u3000\t" = true ∧ isAllBlank "\u0085" = true ∧
      ofRoute ("\u3000\t" ++ greatest.display ++ "\u0085") = .ok greatest := by
  have positive : 0 < greatest.number.toInt := by decide
  have left : isAllBlank "\u3000\t" = true := by decide
  have right : isAllBlank "\u0085" = true := by decide
  exact ⟨by decide, positive, left, right,
    ids_read_as_written.2.2 greatest positive _ _ left right⟩

end ScenarioResults.ScenarioId
