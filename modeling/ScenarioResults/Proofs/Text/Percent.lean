import ScenarioResults.Text.Percent

/-!
# Percent-encoding loses nothing

Whichever characters stand for themselves, as long as the percent sign is not one of them: decoding an
encoded text gives its UTF-8 bytes back (`percentDecode_encodeWith`), so no two texts are encoded
alike. Of other characters only percent signs, digits and letters occur in an encoded text.
-/

namespace ScenarioResults.Text

variable {plain : Char → Bool}

theorem hexValue?_hexDigit {n : Nat} (below : n < 16) : hexValue? (hexDigit n) = some n := by
  have all : ∀ n < 16, hexValue? (hexDigit n) = some n := by decide
  exact all n below

theorem isAlphanum_hexDigit {n : Nat} (below : n < 16) : (hexDigit n).isAlphanum = true := by
  have all : ∀ n < 16, (hexDigit n).isAlphanum = true := by decide
  exact all n below

theorem percentDecode_percentByte (b : UInt8) (rest : List Char) :
    percentDecode (percentByte b ++ rest) = b :: percentDecode rest := by
  have size := b.toNat_lt
  have high : b.toNat / 16 < 16 := by omega
  have low : b.toNat % 16 < 16 := by omega
  have whole : 16 * (b.toNat / 16) + b.toNat % 16 = b.toNat := by omega
  simp only [percentByte, List.cons_append, List.nil_append, percentDecode,
    hexValue?_hexDigit high, hexValue?_hexDigit low, whole, UInt8.ofNat_toNat]

theorem percentDecode_percentBytes (bytes : List UInt8) (rest : List Char) :
    percentDecode (bytes.flatMap percentByte ++ rest) = bytes ++ percentDecode rest := by
  induction bytes with
  | nil => rfl
  | cons b bytes ih =>
    rw [List.flatMap_cons, List.append_assoc, percentDecode_percentByte, ih, List.cons_append]

theorem percentDecode_cons {c : Char} (ordinary : c ≠ '%') (rest : List Char) :
    percentDecode (c :: rest) = String.utf8EncodeChar c ++ percentDecode rest := by
  rw [percentDecode.eq_def]
  split
  next same => cases same
  next same => exact (ordinary (List.cons.inj same).1).elim
  next same =>
    obtain ⟨rfl, rfl⟩ := List.cons.inj same
    rfl

theorem percentDecode_percentChar (escaped : plain '%' = false) (c : Char) (rest : List Char) :
    percentDecode (percentChar plain c ++ rest) =
      String.utf8EncodeChar c ++ percentDecode rest := by
  unfold percentChar
  split
  next kept =>
    have ordinary : c ≠ '%' := by
      rintro rfl
      rw [escaped] at kept
      cases kept
    exact percentDecode_cons ordinary rest
  next => exact percentDecode_percentBytes _ rest

/-- What is encoded decodes to the bytes of the text. -/
theorem percentDecode_encodeWith (escaped : plain '%' = false) (cs : List Char) :
    percentDecode (percentEncodeWith plain cs) = cs.flatMap String.utf8EncodeChar := by
  induction cs with
  | nil => rfl
  | cons c rest ih =>
    rw [percentEncodeWith, List.flatMap_cons, percentDecode_percentChar escaped]
    exact congrArg (String.utf8EncodeChar c ++ ·) ih

theorem eq_of_utf8_eq {first second : List Char}
    (same : first.flatMap String.utf8EncodeChar = second.flatMap String.utf8EncodeChar) :
    first = second := by
  have encoded : first.utf8Encode = second.utf8Encode := congrArg List.toByteArray same
  have decoded := congrArg ByteArray.utf8Decode? encoded
  rw [List.utf8Decode?_utf8Encode, List.utf8Decode?_utf8Encode] at decoded
  exact List.toArray_inj (Option.some.inj decoded)

theorem percentEncodeWith_inj (escaped : plain '%' = false) {first second : List Char} :
    percentEncodeWith plain first = percentEncodeWith plain second ↔ first = second := by
  constructor
  · intro same
    have decoded := congrArg percentDecode same
    rw [percentDecode_encodeWith escaped, percentDecode_encodeWith escaped] at decoded
    exact eq_of_utf8_eq decoded
  · rintro rfl
    rfl

/-! ### Which characters occur -/

theorem of_mem_percentByte {b : UInt8} {c : Char} (member : c ∈ percentByte b) :
    c = '%' ∨ c.isAlphanum = true := by
  have size := b.toNat_lt
  rcases List.mem_cons.mp member with rfl | digits
  · exact .inl rfl
  rcases List.mem_cons.mp digits with rfl | last
  · exact .inr (isAlphanum_hexDigit (by omega))
  · rw [List.mem_singleton.mp last]
    exact .inr (isAlphanum_hexDigit (by omega))

theorem of_mem_percentEncodeWith {cs : List Char} {c : Char}
    (member : c ∈ percentEncodeWith plain cs) :
    plain c = true ∨ c = '%' ∨ c.isAlphanum = true := by
  obtain ⟨d, -, inside⟩ := List.mem_flatMap.mp member
  unfold percentChar at inside
  split at inside
  next kept =>
    rw [List.mem_singleton.mp inside]
    exact .inl kept
  next =>
    obtain ⟨b, -, digit⟩ := List.mem_flatMap.mp inside
    exact .inr (of_mem_percentByte digit)

end ScenarioResults.Text
