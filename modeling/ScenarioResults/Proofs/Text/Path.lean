import Mathlib.Data.String.Basic
import ScenarioResults.Text.Path

/-!
# The parts of a path

A path is cut at its slashes (`splitOn_slash`). So a name without a slash is one more part of whatever
path it is joined to, unless it is empty, stays or goes up (`parts_join`).
-/

namespace ScenarioResults.Text.Path

open String in
/-- Behind what is done and the part that has begun, the rest of a text is cut at its slashes. -/
theorem splitOnAux_slash (done part rest : List Char) (cut : List String) :
    splitOnAux (ofList (done ++ part ++ rest)) "/" ⟨utf8Len done⟩ ⟨utf8Len done + utf8Len part⟩ 0
        cut =
      cut.reverse ++ (List.splitOnPPrepend (· == '/') rest part.reverse).map ofList := by
  have beyond : utf8Len part + utf8Len rest ≤ utf8Len part ↔ utf8Len rest = 0 := by omega
  rw [splitOnAux]
  simp only [List.append_assoc, atEnd_iff, rawEndPos_ofList, utf8Len_append, Pos.Raw.mk_le_mk,
    Nat.add_le_add_iff_left, beyond, utf8Len_eq_zero, List.reverse_cons]
  cases rest with
  | nil => simpa using extract_of_valid done part []
  | cons c rest =>
    have separator : Pos.Raw.get "/" 0 = '/' := rfl
    have one : Pos.Raw.next "/" 0 = ⟨1⟩ := rfl
    have short : "/".rawEndPos ≤ ⟨1⟩ := by decide
    have stay (n : Nat) : Pos.Raw.unoffsetBy ⟨n⟩ 0 = ⟨n⟩ := rfl
    have back (n : Nat) : Pos.Raw.unoffsetBy ⟨n + '/'.utf8Size⟩ ⟨1⟩ = ⟨n⟩ := rfl
    have char : Pos.Raw.get (ofList (done ++ (part ++ c :: rest)))
        ⟨utf8Len done + utf8Len part⟩ = c := by
      simpa [-ofList_append] using get_of_valid (done ++ part) (c :: rest)
    have next : Pos.Raw.next (ofList (done ++ (part ++ c :: rest)))
        ⟨utf8Len done + utf8Len part⟩ = ⟨utf8Len done + utf8Len part + c.utf8Size⟩ := by
      simpa [-ofList_append] using next_of_valid (done ++ part) c rest
    have extract : Pos.Raw.extract (ofList (done ++ (part ++ c :: rest))) ⟨utf8Len done⟩
        ⟨utf8Len done + utf8Len part⟩ = ofList part := by
      simpa [-ofList_append] using extract_of_valid done part (c :: rest)
    rw [if_neg (List.cons_ne_nil c rest)]
    simp only [separator, one, short, char, next, if_true, beq_iff_eq, stay]
    by_cases slash : c = '/'
    · subst slash
      have more := splitOnAux_slash (done ++ part ++ ['/']) [] rest (ofList part :: cut)
      rw [if_pos rfl, back, extract]
      simpa [-ofList_append, List.splitOnPPrepend_cons_eq_if, Nat.add_assoc] using more
    · have more := splitOnAux_slash done (part ++ [c]) rest cut
      rw [if_neg slash]
      simpa [-ofList_append, List.splitOnPPrepend_cons_eq_if, slash, Nat.add_assoc] using more

theorem splitOn_slash (path : String) :
    path.splitOn "/" = (path.toList.splitOn '/').map String.ofList := by
  have cut := splitOnAux_slash [] [] path.toList []
  rw [List.nil_append, List.nil_append, String.ofList_toList] at cut
  rw [String.splitOn, if_neg (by decide), List.splitOn_eq_splitOnP,
    List.splitOnP_eq_splitOnPPrepend]
  exact cut

/-- What stands behind the last slash of a path is its last part. -/
theorem parts_append_slash {name : String} (inside : '/' ∉ name.toList) (front : String) :
    parts (front ++ "/" ++ name) = descend (parts front) name := by
  have cut : (front ++ "/" ++ name).splitOn "/" = front.splitOn "/" ++ [name] := by
    have text : (front ++ "/" ++ name).toList = front.toList ++ '/' :: name.toList := by simp
    rw [splitOn_slash, splitOn_slash, text, List.splitOn_append_cons_self,
      List.splitOn_eq_singleton inside, List.map_append, List.map_singleton, String.ofList_toList]
  rw [parts, cut, List.foldl_append]
  rfl

theorem parts_of_slashless {name : String} (inside : '/' ∉ name.toList) :
    parts name = descend [] name := by
  have alone : name.splitOn "/" = [name] := by
    rw [splitOn_slash, List.splitOn_eq_singleton inside, List.map_singleton, String.ofList_toList]
  rw [parts, alone]
  rfl

theorem eq_append_of_endsWith_slash {folder : String} (ends : folder.endsWith "/" = true) :
    ∃ front, folder = front ++ "/" := by
  rw [String.endsWith_eq_endsWith_toSlice, String.Slice.endsWith_string_iff,
    String.copy_toSlice] at ends
  obtain ⟨front, whole⟩ := ends
  exact ⟨String.ofList front, String.toList_inj.mp (by simp [← whole])⟩

/-- A name that is a part of its own is one more part of the path that it is joined to. -/
theorem parts_join {name : String} (inside : '/' ∉ name.toList) (filled : name ≠ "")
    (moves : name ≠ ".") (down : name ≠ "..") (folder : String) :
    parts (join folder name) = parts folder ++ [name] := by
  have below (parts : List String) : descend parts name = parts ++ [name] := by
    simp [descend, filled, moves, down]
  have relative : name.startsWith "/" = false := by
    rw [String.startsWith_string_eq_false_iff]
    exact fun start => inside (start.subset (List.mem_singleton.mpr rfl))
  rw [join, relative, if_neg Bool.false_ne_true]
  split
  next bare =>
    rcases Bool.or_eq_true_iff.mp bare with empty | ends
    · have none : parts "" = descend [] "" := parts_of_slashless List.not_mem_nil
      rw [String.isEmpty_iff.mp empty, String.empty_append, parts_of_slashless inside, none, below]
      rfl
    · obtain ⟨front, rfl⟩ := eq_append_of_endsWith_slash ends
      have same : parts (front ++ "/") = parts front := by
        have cut : parts (front ++ "/" ++ "") = descend (parts front) "" :=
          parts_append_slash List.not_mem_nil front
        rwa [String.append_empty] at cut
      rw [parts_append_slash inside, same, below]
  next => rw [parts_append_slash inside, below]

end ScenarioResults.Text.Path
