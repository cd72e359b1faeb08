import ScenarioResults.Json.Number
import ScenarioResults.Proofs.Decimal.Shortest

/-!
# Numerals are read back

A numeral that is spelled by the rules is read as what it was spelled from (`ofText?_spelling`), and the
text of every number is such a spelling, unless it is the word for what is no number (`text_spelled`).
-/

namespace ScenarioResults

open Text Decimal

namespace Json.Numeral

/-- The part of a numeral from its point on. -/
def placesText : Option (List Char) → List Char
  | none => []
  | some digits => '.' :: digits

/-- The part of a numeral from its exponent mark on. -/
def exponentText : Option (Bool × List Char) → List Char
  | none => []
  | some (negative, digits) => 'e' :: (if negative then '-' else '+') :: digits

def spelling (numeral : Numeral) : List Char :=
  (if numeral.negative then ['-'] else []) ++
    (numeral.whole ++ (placesText numeral.places ++ exponentText numeral.exponent))

/-- A row of digits, and at least one. -/
structure Row (digits : List Char) : Prop where
  filled : digits ≠ []
  digit : ∀ c ∈ digits, c.isDigit

/-- There is a digit in every part that is there, and no zero stands before others. -/
structure Proper (numeral : Numeral) : Prop where
  whole : Row numeral.whole
  leading : numeral.whole.head? = some '0' → numeral.whole.length = 1
  places : ∀ digits, numeral.places = some digits → Row digits
  exponent : ∀ negative digits, numeral.exponent = some (negative, digits) → Row digits

/-! ### Reading what is spelled -/

section

variable {digits rest : List Char} {places : Option (List Char)}
  {exponent : Option (Bool × List Char)}

/-- A row of digits ends where something else begins. -/
theorem Row.split (row : Row digits) (stops : ∀ c ∈ rest.head?, c.isDigit = false) :
    (digits ++ rest).takeWhile Char.isDigit = digits ∧
      (digits ++ rest).dropWhile Char.isDigit = rest := by
  rw [List.takeWhile_append_of_pos row.digit, List.dropWhile_append_of_pos row.digit]
  cases rest with
  | nil => simp
  | cons c rest => simp [stops c rfl]

theorem exponentText_stops (exponent : Option (Bool × List Char)) :
    ∀ c ∈ (exponentText exponent).head?, c.isDigit = false := by
  rcases exponent with _ | ⟨negative, digits⟩ <;> simp [exponentText]

theorem placesText_stops (places : Option (List Char)) (exponent : Option (Bool × List Char)) :
    ∀ c ∈ (placesText places ++ exponentText exponent).head?, c.isDigit = false := by
  cases places with
  | none => exact exponentText_stops exponent
  | some digits => simp [placesText]

theorem exponent?_spelled
    (rows : ∀ negative digits, exponent = some (negative, digits) → Row digits) :
    exponent? (exponentText exponent) = some exponent := by
  rcases exponent with _ | ⟨negative, digits⟩
  · rfl
  · have row := rows negative digits rfl
    have all : digits.all Char.isDigit = true := List.all_eq_true.mpr row.digit
    cases negative <;> simp [exponentText, exponent?, row.filled, all]

theorem splitPlaces_spelled (rows : ∀ digits, places = some digits → Row digits) :
    splitPlaces (placesText places ++ exponentText exponent) =
      some (places, exponentText exponent) := by
  cases places with
  | none => rcases exponent with _ | ⟨negative, digits⟩ <;> rfl
  | some digits =>
    have row := rows digits rfl
    obtain ⟨taken, left⟩ := row.split (exponentText_stops exponent)
    simp [placesText, splitPlaces, taken, left, row.filled]

/-- The numeral of a text behind its sign. -/
def unsigned? (negative : Bool) (cs : List Char) : Option Numeral :=
  let whole := cs.takeWhile Char.isDigit
  if whole.isEmpty || (whole.head? == some '0' && whole.length != 1) then none
  else
    (splitPlaces (cs.dropWhile Char.isDigit)).bind fun split =>
      (exponent? split.2).bind fun exponent => some ⟨negative, whole, split.1, exponent⟩

theorem ofText?_minus (cs : List Char) : ofText? ('-' :: cs) = unsigned? true cs := by
  simp only [ofText?, unsigned?]
  split <;> rfl

theorem ofText?_bare {cs : List Char} (bare : cs.head? ≠ some '-') :
    ofText? cs = unsigned? false cs := by
  unfold ofText? unsigned?
  split
  next same =>
    split at same
    next => exact (bare rfl).elim
    next =>
      cases same
      dsimp only
      split <;> rfl

theorem ofText?_spelling {numeral : Numeral} (proper : numeral.Proper) :
    ofText? numeral.spelling = some numeral := by
  obtain ⟨negative, whole, places, exponent⟩ := numeral
  obtain ⟨row, leading, placesRow, exponentRow⟩ := proper
  dsimp only at row leading placesRow exponentRow
  have bare : (whole ++ (placesText places ++ exponentText exponent)).head? ≠ some '-' := by
    rw [List.head?_append_of_ne_nil _ row.filled]
    intro first
    have digit := row.digit '-' (List.mem_of_head? first)
    revert digit
    decide
  have unsigned : unsigned? negative (whole ++ (placesText places ++ exponentText exponent)) =
      some ⟨negative, whole, places, exponent⟩ := by
    obtain ⟨taken, left⟩ := row.split (placesText_stops places exponent)
    have rightful : (whole.isEmpty || (whole.head? == some '0' && whole.length != 1)) = false := by
      simpa [row.filled] using leading
    unfold unsigned?
    simp only [taken, left, rightful, Bool.false_eq_true, if_false, splitPlaces_spelled placesRow,
      Option.bind_some, exponent?_spelled exponentRow]
  cases negative with
  | true => exact (ofText?_minus _).trans unsigned
  | false => exact (ofText?_bare bare).trans unsigned

end

/-! ### What a numeral is made of -/

def isMark (c : Char) : Bool :=
  c.isDigit || c == '-' || c == '+' || c == '.' || c == 'e' || c == 'E'

theorem isMark_of_isDigit {c : Char} (digit : c.isDigit) : isMark c := by
  simp [isMark, digit]

theorem isMark_of_exponent? {cs : List Char} {exponent : Option (Bool × List Char)}
    (read : exponent? cs = some exponent) : ∀ c ∈ cs, isMark c := by
  cases cs with
  | nil => simp
  | cons mark rest =>
    by_cases marked : mark = 'e' ∨ mark = 'E'
    · have first : isMark mark := by rcases marked with rfl | rfl <;> decide
      -- Whatever sign there is, digits follow it.
      have digits {cs : List Char} {negative : Bool}
          (read : (if cs.isEmpty || !cs.all Char.isDigit then none
            else some (some (negative, cs))) = some exponent) : ∀ c ∈ cs, isMark c := by
        split at read
        next => cases read
        next allowed =>
          simp only [Bool.or_eq_true, Bool.not_eq_true', not_or, Bool.not_eq_false,
            List.all_eq_true] at allowed
          exact fun c member => isMark_of_isDigit (allowed.2 c member)
      simp only [exponent?, marked, if_true] at read
      refine List.forall_mem_cons.mpr ⟨first, ?_⟩
      split at read
      next => exact List.forall_mem_cons.mpr ⟨by decide, digits read⟩
      next => exact List.forall_mem_cons.mpr ⟨by decide, digits read⟩
      next => exact digits read
    · simp [exponent?, marked] at read

theorem isMark_of_split {cs : List Char}
    (rest : ∀ c ∈ cs.dropWhile Char.isDigit, isMark c) : ∀ c ∈ cs, isMark c := by
  intro c member
  rw [← List.takeWhile_append_dropWhile (p := Char.isDigit) (l := cs)] at member
  rcases List.mem_append.mp member with digit | other
  · exact isMark_of_isDigit (List.mem_takeWhile_imp digit)
  · exact rest c other

theorem isMark_of_unsigned? {negative : Bool} {cs : List Char} {numeral : Numeral}
    (read : unsigned? negative cs = some numeral) : ∀ c ∈ cs, isMark c := by
  unfold unsigned? at read
  dsimp only at read
  split at read
  next => cases read
  next =>
    obtain ⟨⟨places, rest⟩, split, read⟩ := Option.bind_eq_some_iff.mp read
    obtain ⟨exponent, after, -⟩ := Option.bind_eq_some_iff.mp read
    have later := isMark_of_exponent? after
    refine isMark_of_split ?_
    unfold splitPlaces at split
    split at split
    next behind whole =>
      dsimp only at split
      split at split
      next => cases split
      next =>
        cases split
        rw [whole]
        exact List.forall_mem_cons.mpr ⟨by decide, isMark_of_split later⟩
    next =>
      cases split
      exact later

/-- A numeral is made of digits, signs, a point and an exponent mark. -/
theorem isMark_of_ofText? {cs : List Char} {numeral : Numeral}
    (read : ofText? cs = some numeral) : ∀ c ∈ cs, isMark c := by
  by_cases bare : cs.head? = some '-'
  · obtain ⟨rest, rfl⟩ := List.head?_eq_some_iff.mp bare
    rw [ofText?_minus] at read
    exact List.forall_mem_cons.mpr ⟨by decide, isMark_of_unsigned? read⟩
  · rw [ofText?_bare bare] at read
    exact isMark_of_unsigned? read

/-! ### The texts of numbers -/

theorem isDigit_of_zeros {n : Nat} {c : Char} (member : c ∈ zeros n) : c.isDigit := by
  rw [List.eq_of_mem_replicate member]
  decide

theorem row_zero : Row ['0'] := ⟨by simp, List.forall_mem_singleton.mpr rfl⟩

theorem row_toDigits (n : Nat) : Row (Nat.toDigits 10 n) :=
  ⟨Nat.toDigits_ne_nil, fun _ => isDigit_of_toDigits⟩

/-- A text that some numeral is spelled as, with a sign or without. -/
def Spelled (text : List Char) : Prop :=
  ∀ negative, ∃ numeral : Numeral, numeral.Proper ∧ numeral.spelling = signed negative text

theorem spelled_of_parts {whole : List Char} (places : Option (List Char))
    (exponent : Option (Bool × List Char))
    (proper : ∀ negative, Proper ⟨negative, whole, places, exponent⟩) :
    Spelled (whole ++ (placesText places ++ exponentText exponent)) := by
  intro negative
  refine ⟨⟨negative, whole, places, exponent⟩, proper negative, ?_⟩
  cases negative <;> rfl

theorem spelled_of_places {whole fraction : List Char} (row : Row whole)
    (leading : whole.head? = some '0' → whole.length = 1) (behind : Row fraction) :
    Spelled (whole ++ '.' :: fraction) := by
  have places : ∀ digits, some fraction = some digits → Row digits := by
    rintro _ ⟨⟩
    exact behind
  simpa [placesText, exponentText] using spelled_of_parts (some fraction) none fun _ =>
    ⟨row, leading, places, fun _ _ given => nomatch given⟩

theorem spelled_of_row {whole : List Char} (row : Row whole)
    (leading : whole.head? = some '0' → whole.length = 1) : Spelled whole := by
  simpa [placesText, exponentText] using spelled_of_parts none none fun _ =>
    ⟨row, leading, fun _ given => (nomatch given), fun _ _ given => nomatch given⟩

section

variable {s : Significant}

/-- Written with an exponent, the first digit stands before the point and the others behind it. -/
theorem spelled_scientific (neat : s.Neat) (filled : s.digits ≠ []) : Spelled s.scientific := by
  obtain ⟨digits, point⟩ := s
  obtain ⟨first, fraction, rfl⟩ := List.exists_cons_of_ne_nil filled
  obtain ⟨firstDigit, fractionDigits⟩ := List.forall_mem_cons.mp neat.digit
  have leading : first ≠ '0' := by simpa using neat.leading
  have written : Significant.scientific ⟨first :: fraction, point⟩ = [first] ++
      (placesText (if fraction = [] then none else some fraction) ++
        exponentText (some (decide (point - 1 < 0), Nat.toDigits 10 (point - 1).natAbs))) := by
    cases fraction <;> simp [Significant.scientific, placesText, exponentText]
  rw [written]
  refine spelled_of_parts _ _ fun negative =>
    ⟨⟨by simp, by simpa using firstDigit⟩, fun _ => rfl, ?_, ?_⟩
  · intro digits given
    dsimp only at given
    split at given
    next => cases given
    next some => cases given; exact ⟨some, fractionDigits⟩
  · intro negative digits given
    cases given
    exact row_toDigits _

/-- The digits of a whole number go on in zeros to the point, and a zero stands behind it. -/
theorem spelled_whole (neat : s.Neat) (whole : Int.ofNat s.digits.length ≤ s.point) :
    Spelled (s.positional ++ ['.', '0']) := by
  obtain ⟨digits, point⟩ := s
  by_cases filled : digits = []
  · subst filled
    obtain rfl : point = 1 := neat.bare rfl
    exact spelled_of_places row_zero (fun _ => rfl) row_zero
  · have positive : 0 < point := Int.lt_of_lt_of_le (by simpa [List.length_pos_iff]) whole
    have written : Significant.positional ⟨digits, point⟩ =
        digits ++ zeros (point.toNat - digits.length) := by
      simp only [Significant.positional, Int.not_le.mpr positive, whole, if_true, if_false]
    rw [written]
    refine spelled_of_places ⟨by simp [filled], ?_⟩ (fun first => ?_) row_zero
    · exact List.forall_mem_append.mpr ⟨neat.digit, fun _ => isDigit_of_zeros⟩
    · rw [List.head?_append_of_ne_nil _ filled] at first
      exact (neat.leading first).elim

/-- The digits of a fraction stand behind the point, or the point among them. -/
theorem spelled_fraction (neat : s.Neat) (fraction : s.point < Int.ofNat s.digits.length) :
    Spelled s.positional := by
  obtain ⟨digits, point⟩ := s
  dsimp only at fraction
  by_cases small : point ≤ 0
  · rw [Significant.positional, if_pos small]
    have filled : digits ≠ [] := fun none => by
      have := neat.bare none
      dsimp only at this
      omega
    exact spelled_of_places row_zero (fun _ => rfl)
      ⟨by simp [filled], List.forall_mem_append.mpr ⟨fun _ => isDigit_of_zeros, neat.digit⟩⟩
  · rw [Significant.positional, if_neg small, if_neg (Int.not_le.mpr fraction)]
    have before : point.toNat ≠ 0 := by omega
    have behind : point.toNat < digits.length := by
      simp only [Int.ofNat_eq_natCast] at fraction
      omega
    have filled : digits ≠ [] := List.ne_nil_of_length_pos (by omega)
    have leading : (digits.take point.toNat).head? ≠ some '0' := by
      rw [List.head?_take, if_neg before]
      exact neat.leading
    exact spelled_of_places
      ⟨by simp [before, filled], fun c member => neat.digit c (List.mem_of_mem_take member)⟩
      (fun first => (leading first).elim)
      ⟨by simpa using behind, fun c member => neat.digit c (List.mem_of_mem_drop member)⟩

theorem spelled_significant (neat : s.Neat) :
    Spelled (if s.point < -4 ∨ 16 < s.point then s.scientific
      else if Int.ofNat s.digits.length ≤ s.point then s.positional ++ ['.', '0']
      else s.positional) := by
  split
  next far =>
    refine spelled_scientific neat fun none => ?_
    have := neat.bare none
    omega
  next =>
    split
    next whole => exact spelled_whole neat whole
    next fraction => exact spelled_fraction neat (Int.not_le.mp fraction)

end

theorem spelled_nat (n : Nat) : Spelled (Nat.toDigits 10 n) := by
  refine spelled_of_row (row_toDigits n) fun first => ?_
  rcases Nat.eq_zero_or_pos n with rfl | positive
  · rfl
  · exact (head?_toDigits positive first).elim

theorem toList_toString_int (n : Int) :
    (toString n).toList = signed (decide (n < 0)) (Nat.toDigits 10 n.natAbs) := by
  rw [Int.toString_eq_repr, Int.repr_eq_if]
  split
  next natural =>
    rw [Nat.toList_repr, show n.natAbs = n.toNat by omega, decide_eq_false (by omega)]
    rfl
  next negative =>
    rw [String.toList_append, Nat.toList_repr, show n.natAbs = (-n).toNat by omega,
      decide_eq_true (by omega)]
    rfl

/-- The text of a number is spelled by the rules, except where it is no number at all. -/
theorem text_spelled (n : Number) :
    n.text = ['n', 'u', 'l', 'l'] ∨
      ∃ numeral : Numeral, numeral.Proper ∧ numeral.spelling = n.text := by
  cases n with
  | whole n =>
    rw [Number.text, toList_toString_int]
    exact .inr (spelled_nat n.natAbs _)
  | binary x =>
    unfold Number.text binaryText
    dsimp only
    split
    next => exact .inl rfl
    next => exact .inl rfl
    next negative _ _ => exact .inr (spelled_of_places row_zero (fun _ => rfl) row_zero negative)
    next negative m e positive _ =>
      exact .inr (spelled_significant (shortest_neat .even (Nat.pos_of_ne_zero positive) e) negative)

end Json.Numeral

end ScenarioResults
