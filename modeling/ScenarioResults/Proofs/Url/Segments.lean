import Mathlib.Data.List.Forall2
import Mathlib.Data.String.Basic
import ScenarioResults.Proofs.Text.Percent
import ScenarioResults.Url.Reader

/-!
# Segments added to a URL

A text that is added to a URL becomes one segment that decodes to it, unless the text is one dot or two
or holds a tab or a line end. A text of dots goes missing, and so does what counts for nothing. What is
left of a text may then be dots again, which leave an empty segment or take the one before them along.
So the segments that are added are as many as the texts, and decode to them, exactly if every text is
`Upright` (`foldl_push_iff`).
-/

namespace ScenarioResults.Url

/-- A text that is neither one dot nor two and that counts as a whole. -/
structure Upright (text : String) : Prop where
  oneDot : text ≠ "."
  twoDots : text ≠ ".."
  counts : ∀ c ∈ text.toList, isIgnored c = false

theorem upright_iff {text : String} : Upright text ↔
    text ≠ "." ∧ text ≠ ".." ∧ (text.toList.all fun c => !isIgnored c) = true := by
  simp only [List.all_eq_true, Bool.not_eq_true']
  exact ⟨fun upright => ⟨upright.oneDot, upright.twoDots, upright.counts⟩,
    fun ⟨one, two, counts⟩ => ⟨one, two, counts⟩⟩

instance (text : String) : Decidable (Upright text) := decidable_of_iff _ upright_iff.symm

/-- A segment that nothing in it divides and that decodes to a text. -/
structure Spells (segment text : String) : Prop where
  undivided : ∀ c ∈ segment.toList, c ≠ '/' ∧ c ≠ '?' ∧ c ≠ '#'
  decoded : Text.percentDecode segment.toList = text.toList.flatMap String.utf8EncodeChar

theorem Spells.unique {segment text other : String} (first : Spells segment text)
    (second : Spells segment other) : text = other :=
  String.toList_inj.mp (Text.eq_of_utf8_eq (first.decoded.symm.trans second.decoded))

/-! ### Encoded segments -/

theorem segmentPlain_percent (special : Bool) : segmentPlain special '%' = false := by
  simp [segmentPlain, String.contains_char_eq]

theorem of_segmentPlain {special : Bool} {c : Char} (plain : segmentPlain special c = true) :
    c ≠ '/' ∧ c ≠ '?' ∧ c ≠ '#' := by
  simp only [segmentPlain, pathPlain, String.contains_char_eq, Bool.and_eq_true] at plain
  refine ⟨?_, ?_, ?_⟩ <;> rintro rfl <;> simp at plain

theorem spells_encode (special : Bool) (cs : List Char) :
    Spells (encode (segmentPlain special) cs) (String.ofList cs) := by
  constructor
  · intro c member
    rw [encode, String.toList_ofList] at member
    rcases Text.of_mem_percentEncodeWith member with plain | rfl | letter
    · exact of_segmentPlain plain
    · decide
    · refine ⟨?_, ?_, ?_⟩ <;> rintro rfl <;> cases letter
  · rw [encode, String.toList_ofList, String.toList_ofList]
    exact Text.percentDecode_encodeWith (segmentPlain_percent special) cs

/-- Letters, digits and the dash, which are encoded nowhere. -/
def isWordChar (c : Char) : Bool := c.isAlphanum || c == '-'

theorem segmentPlain_of_isWordChar (special : Bool) {c : Char} (word : isWordChar c = true) :
    segmentPlain special c = true := by
  have other (d : Char) (foreign : isWordChar d = false) : c ≠ d := by
    rintro rfl
    simp [word] at foreign
  have printable : isPrintableAscii c = true := by
    simp only [isWordChar, Bool.or_eq_true, beq_iff_eq] at word
    rcases word with letter | rfl
    · have ranges : ((decide (c.val ≥ 65 ∧ c.val ≤ 90) || (c.val ≥ 97 && c.val ≤ 122)) ||
          (c.val ≥ 48 && c.val ≤ 57)) = true := letter
      simp only [Bool.or_eq_true, Bool.and_eq_true, decide_eq_true_eq] at ranges
      have codes : ((65 ≤ c.toNat ∧ c.toNat ≤ 90) ∨ (97 ≤ c.toNat ∧ c.toNat ≤ 122)) ∨
          (48 ≤ c.toNat ∧ c.toNat ≤ 57) := ranges
      simp only [isPrintableAscii, Bool.and_eq_true, decide_eq_true_eq]
      omega
    · decide
  simp [segmentPlain, pathPlain, fragmentPlain, printable, String.contains_char_eq,
    other ' ' (by decide), other '"' (by decide), other '<' (by decide), other '>' (by decide),
    other '\x60' (by decide), other '#' (by decide), other '?' (by decide),
    other '\x7b' (by decide), other '\x7d' (by decide), other '/' (by decide),
    other '%' (by decide), other '\\' (by decide)]

theorem encode_of_plain {plain : Char → Bool} {cs : List Char} (all : ∀ c ∈ cs, plain c = true) :
    encode plain cs = String.ofList cs := by
  have same : Text.percentEncodeWith plain cs = cs := by
    induction cs with
    | nil => rfl
    | cons c rest ih =>
      have later := ih fun d member => all d (List.mem_cons_of_mem _ member)
      rw [Text.percentEncodeWith] at later ⊢
      rw [List.flatMap_cons, later, Text.percentChar, if_pos (all c List.mem_cons_self)]
      rfl
  rw [encode, same]

/-! ### Dots -/

theorem of_toLower {c d : Char} (lower : c.toLower = d) :
    c = d ∨ (65 ≤ c.toNat ∧ c.toNat ≤ 90) ∧ d.toNat = c.toNat + 32 := by
  unfold Char.toLower at lower
  split at lower
  next upper =>
    have range : 65 ≤ c.val.toNat ∧ c.val.toNat ≤ 90 := upper
    have shift : (32 : UInt32).toNat = 32 := rfl
    have lowered : (c.val + 32).toNat = c.val.toNat + 32 := by
      rw [UInt32.toNat_add]
      omega
    exact .inr ⟨range, by rw [← lower]; exact lowered⟩
  next => exact .inl lower

/-- A dot at the front, as it is or encoded, decodes to a dot. -/
theorem decode_dot {cs rest : List Char} (lower : cs.map Char.toLower = '.' :: rest ∨
    cs.map Char.toLower = '%' :: '2' :: 'e' :: rest) :
    ∃ left, left.map Char.toLower = rest ∧
      Text.percentDecode cs = 46 :: Text.percentDecode left := by
  have same {c d : Char} (lower : c.toLower = d) (low : d.toNat < 97) : c = d := by
    rcases of_toLower lower with equal | ⟨range, shifted⟩
    · exact equal
    · omega
  rcases lower with plain | encoded
  · obtain ⟨c, left, rfl, dot, others⟩ := List.map_eq_cons_iff.mp plain
    obtain rfl := same dot (by decide)
    exact ⟨left, others, Text.percentDecode_cons (by decide) left⟩
  · obtain ⟨percent, more, rfl, sign, encoded⟩ := List.map_eq_cons_iff.mp encoded
    obtain ⟨high, more, rfl, two, encoded⟩ := List.map_eq_cons_iff.mp encoded
    obtain ⟨low, left, rfl, e, others⟩ := List.map_eq_cons_iff.mp encoded
    obtain rfl := same sign (by decide)
    obtain rfl := same two (by decide)
    have value : Text.hexValue? low = some 14 := by
      rcases of_toLower e with rfl | ⟨range, shifted⟩
      · decide
      · have code : low.toNat = 'E'.toNat := Nat.add_right_cancel shifted.symm
        obtain rfl := Char.toNat_inj.mp code
        decide
    have two : Text.hexValue? '2' = some 2 := by decide
    exact ⟨left, others, by rw [Text.percentDecode, two, value]; rfl⟩

theorem toList_toLower (text : String) : text.toLower.toList = text.toList.map Char.toLower :=
  String.toList_map

theorem decode_of_isOneDot {segment : String} (dot : isOneDot segment = true) :
    Text.percentDecode segment.toList = [46] := by
  have lower : segment.toList.map Char.toLower = '.' :: [] ∨
      segment.toList.map Char.toLower = '%' :: '2' :: 'e' :: [] := by
    simp only [isOneDot, Bool.or_eq_true, beq_iff_eq] at dot
    rw [← toList_toLower]
    rcases dot with same | same
    · exact .inl (congrArg String.toList same)
    · exact .inr (congrArg String.toList same)
  obtain ⟨left, none, decoded⟩ := decode_dot lower
  rw [decoded, List.map_eq_nil_iff.mp none]
  rfl

theorem decode_of_isTwoDots {segment : String} (dots : isTwoDots segment = true) :
    Text.percentDecode segment.toList = [46, 46] := by
  have lower : ∃ rest, (segment.toList.map Char.toLower = '.' :: rest ∨
      segment.toList.map Char.toLower = '%' :: '2' :: 'e' :: rest) ∧
        (rest = '.' :: [] ∨ rest = '%' :: '2' :: 'e' :: []) := by
    simp only [isTwoDots, Bool.or_eq_true, beq_iff_eq] at dots
    rw [← toList_toLower]
    rcases dots with ((same | same) | same) | same
    · exact ⟨_, .inl (congrArg String.toList same), .inl rfl⟩
    · exact ⟨_, .inl (congrArg String.toList same), .inr rfl⟩
    · exact ⟨_, .inr (congrArg String.toList same), .inl rfl⟩
    · exact ⟨_, .inr (congrArg String.toList same), .inr rfl⟩
  obtain ⟨rest, first, second⟩ := lower
  obtain ⟨left, rfl, decoded⟩ := decode_dot first
  obtain ⟨last, none, also⟩ := decode_dot second
  rw [decoded, also, List.map_eq_nil_iff.mp none]
  rfl

/-- Only a text of a dot is encoded as a segment of one dot. -/
theorem eq_of_isOneDot {special : Bool} {cs : List Char}
    (dot : isOneDot (encode (segmentPlain special) cs) = true) : cs = ['.'] := by
  have decoded : cs.flatMap String.utf8EncodeChar = ['.'].flatMap String.utf8EncodeChar := by
    rw [← String.toList_ofList (l := cs), ← (spells_encode special cs).decoded]
    exact decode_of_isOneDot dot
  exact Text.eq_of_utf8_eq decoded

theorem eq_of_isTwoDots {special : Bool} {cs : List Char}
    (dots : isTwoDots (encode (segmentPlain special) cs) = true) : cs = ['.', '.'] := by
  have decoded : cs.flatMap String.utf8EncodeChar = ['.', '.'].flatMap String.utf8EncodeChar := by
    rw [← String.toList_ofList (l := cs), ← (spells_encode special cs).decoded]
    exact decode_of_isTwoDots dots
  exact Text.eq_of_utf8_eq decoded

/-! ### One segment -/

theorem counted_eq_iff {text : String} :
    counted text.toList = text.toList ↔ ∀ c ∈ text.toList, isIgnored c = false := by
  simp [counted]

/-- A text of which another text counts is not upright. -/
theorem crooked_of_counted {text : String} {cs : List Char} (counts : counted text.toList = cs)
    (other : text ≠ String.ofList cs) : ¬ Upright text := by
  intro upright
  rw [counted_eq_iff.mpr upright.counts] at counts
  exact other (by rw [← counts, String.ofList_toList])

theorem not_spells_empty {text : String} (filled : counted text.toList ≠ []) : ¬ Spells "" text := by
  intro spells
  have empty : Spells "" "" := ⟨by simp, rfl⟩
  obtain rfl := empty.unique spells
  exact filled rfl

/-- What comes of a text that is added after at least two segments: one more segment, which spells the
text exactly if it is upright, or no more segments than before. -/
inductive Pushed (parts : List String) (text : String) : List String → Prop where
  | placed (segment : String) (told : Spells segment text ↔ Upright text) :
      Pushed parts text (parts ++ [segment])
  | lost {next : List String} (crooked : ¬ Upright text) (size : next.length = parts.length) :
      Pushed parts text next

theorem push_pushed (special : Bool) {parts : List String} (two : 2 ≤ parts.length)
    (text : String) : Pushed parts text (push special parts text) := by
  unfold push
  by_cases dots : text = "." ∨ text = ".."
  · rw [if_pos dots]
    refine .lost ?_ rfl
    rintro ⟨one, two, -⟩
    exact dots.elim one two
  rw [if_neg dots]
  obtain ⟨one, both⟩ := not_or.mp dots
  have kept : parts ≠ [""] := by
    rintro rfl
    exact absurd two (by decide)
  simp only [if_neg kept, extend, if_true]
  generalize counts : counted text.toList = cs
  have empty (crooked : ¬ Upright text) (filled : cs ≠ []) : Pushed parts text (parts ++ [""]) := by
    rw [← counts] at filled
    exact .placed "" (iff_of_false (not_spells_empty filled) crooked)
  -- Only a text that had something ignored in it can come to dots after it was encoded.
  by_cases isTwo : isTwoDots (encode (segmentPlain special) cs) = true
  · obtain rfl := eq_of_isTwoDots isTwo
    have crooked : ¬ Upright text := crooked_of_counted counts both
    rw [if_pos isTwo, parent]
    split
    · exact empty crooked (by decide)
    · refine .lost crooked ?_
      rw [List.length_append, List.length_dropLast, List.length_singleton]
      omega
  rw [if_neg isTwo]
  by_cases isOne : isOneDot (encode (segmentPlain special) cs) = true
  · obtain rfl := eq_of_isOneDot isOne
    rw [if_pos isOne]
    exact empty (crooked_of_counted counts one) (by decide)
  rw [if_neg isOne]
  refine .placed _ ?_
  have spelled := spells_encode special cs
  constructor
  · intro spells
    have same := spelled.unique spells
    refine ⟨one, both, counted_eq_iff.mp ?_⟩
    rw [counts, ← same, String.toList_ofList]
  · intro upright
    rw [counted_eq_iff.mpr upright.counts] at counts
    rw [← counts, String.ofList_toList] at spelled
    rw [← counts]
    exact spelled

/-- A word is added as it is. -/
theorem push_word (special : Bool) (parts : List String) {text : String}
    (word : text.toList.all isWordChar = true) :
    push special parts text = (if parts = [""] then [] else parts) ++ [text] := by
  have each : ∀ c ∈ text.toList, isWordChar c = true := List.all_eq_true.mp word
  have foreign (other : List Char) (dot : '.' ∈ other) : text.toList ≠ other := by
    intro same
    rw [← same] at dot
    exact absurd (each '.' dot) (by decide)
  have undotted : ¬ (text = "." ∨ text = "..") := by
    rintro (rfl | rfl)
    · exact foreign ".".toList (by decide) rfl
    · exact foreign "..".toList (by decide) rfl
  have counts : counted text.toList = text.toList := by
    refine counted_eq_iff.mpr ?_
    intro c member
    refine Bool.eq_false_iff.mpr ?_
    intro ignored
    simp only [isIgnored, Bool.or_eq_true, beq_iff_eq] at ignored
    rcases ignored with (rfl | rfl) | rfl <;> exact absurd (each _ member) (by decide)
  have encoded : encode (segmentPlain special) text.toList = text := by
    rw [encode_of_plain fun c member => segmentPlain_of_isWordChar special (each c member),
      String.ofList_toList]
  have two : isTwoDots text = false := by
    refine Bool.eq_false_iff.mpr fun dots => ?_
    rw [← encoded] at dots
    exact foreign _ (by decide) (eq_of_isTwoDots dots)
  have one : isOneDot text = false := by
    refine Bool.eq_false_iff.mpr fun dot => ?_
    rw [← encoded] at dot
    exact foreign _ (by decide) (eq_of_isOneDot dot)
  rw [push, if_neg undotted, counts, encoded]
  simp [extend, two, one]

theorem foldl_push_words (special : Bool) {parts words : List String} (some : parts ≠ [])
    (bare : parts ≠ [""]) (each : ∀ word ∈ words, word.toList.all isWordChar = true) :
    words.foldl (push special) parts = parts ++ words := by
  induction words generalizing parts with
  | nil => rw [List.foldl_nil, List.append_nil]
  | cons word rest ih =>
    have more : parts ++ [word] ≠ [""] := by
      intro same
      have one : parts.length + 1 = 1 := by simpa using congrArg List.length same
      exact some (List.eq_nil_of_length_eq_zero (by omega))
    rw [List.foldl_cons, push_word _ _ (each word List.mem_cons_self), if_neg bare,
      ih (by simp) more fun other member => each other (List.mem_cons_of_mem _ member),
      List.append_assoc, List.singleton_append]

/-! ### Many segments -/

/-- What comes of texts that are added one after the other: at most as many segments more, which spell
the texts exactly where these are upright, and fewer only if a text is not. -/
structure Added (parts texts added : List String) : Prop where
  size : added.length ≤ parts.length + texts.length
  whole : added.length = parts.length + texts.length → ∃ segments, added = parts ++ segments ∧
    List.Forall₂ (fun text segment => Spells segment text ↔ Upright text) texts segments
  upright : (∀ text ∈ texts, Upright text) → added.length = parts.length + texts.length

theorem foldl_push (special : Bool) {parts : List String} (two : 2 ≤ parts.length)
    (texts : List String) : Added parts texts (texts.foldl (push special) parts) := by
  -- A text that is lost is never made up for, so the length tells whether any was.
  induction texts generalizing parts with
  | nil => exact ⟨Nat.le_refl _, fun _ => ⟨[], (List.append_nil _).symm, .nil⟩, fun _ => rfl⟩
  | cons text rest ih =>
    rw [List.foldl_cons]
    have pushed := push_pushed special two text
    generalize push special parts text = next at pushed
    cases pushed with
    | placed segment told =>
      have later := @ih (parts ++ [segment]) (by rw [List.length_append]; omega)
      have size := later.size
      have upright := later.upright
      have whole := later.whole
      simp only [List.length_append, List.length_singleton] at size upright whole
      refine ⟨by rw [List.length_cons]; omega, ?_, ?_⟩
      · intro full
        rw [List.length_cons] at full
        obtain ⟨segments, same, others⟩ := whole (by omega)
        exact ⟨segment :: segments, by rw [same]; simp, .cons told others⟩
      · intro all
        rw [List.length_cons, upright fun other member => all other (List.mem_cons_of_mem _ member)]
        omega
    | lost crooked same =>
      have later := (@ih next (by omega)).size
      refine ⟨by rw [List.length_cons]; omega, ?_, ?_⟩
      · intro full
        rw [List.length_cons] at full
        omega
      · intro all
        exact (crooked (all text List.mem_cons_self)).elim

theorem spelled_iff {texts segments : List String}
    (told : List.Forall₂ (fun text segment => Spells segment text ↔ Upright text) texts segments) :
    List.Forall₂ (fun text segment => Spells segment text) texts segments ↔
      ∀ text ∈ texts, Upright text := by
  induction told with
  | nil => simp
  | cons first _ ih => simp [first, ih]

/-- The texts have one segment each, which decodes to it, exactly if all of them are upright. -/
theorem foldl_push_iff (special : Bool) {parts : List String} (two : 2 ≤ parts.length)
    (texts : List String) :
    (∃ segments, texts.foldl (push special) parts = parts ++ segments ∧
      List.Forall₂ (fun text segment => Spells segment text) texts segments) ↔
        ∀ text ∈ texts, Upright text := by
  have added := foldl_push special two texts
  generalize texts.foldl (push special) parts = result at added
  constructor
  · rintro ⟨segments, rfl, spelled⟩
    obtain ⟨others, same, told⟩ := added.whole (by rw [List.length_append, spelled.length_eq])
    obtain rfl := List.append_cancel_left same
    exact (spelled_iff told).mp spelled
  · intro upright
    obtain ⟨segments, same, told⟩ := added.whole (added.upright upright)
    exact ⟨segments, same, (spelled_iff told).mpr upright⟩

end ScenarioResults.Url
