import ScenarioResults.Json.Record
import ScenarioResults.Proofs.Json.Scan

/-!
# Members of objects

An object in a text may repeat a name, and the last member of the name counts: it is the one that the
value of the object has (`member?_of_valueIn?`). No text without a brace is an object
(`brace_of_object`).
-/

namespace ScenarioResults.Json

theorem lookup_cons_eq {κ α : Type} [DecidableEq κ] (key other : κ) (a : α) (rest : List (κ × α)) :
    ((other, a) :: rest).lookup key = if key = other then some a else rest.lookup key := by
  by_cases same : key = other
  · subst same
    simp
  · have missed : (key == other) = false := beq_eq_false_iff_ne.mpr same
    simp [List.lookup_cons, missed, same]

theorem Members.get?_put (name other : String) (value : Value) (members : Members) :
    (members.put name value).get? other =
      if other = name then some value else members.get? other := by
  induction members with
  | nil => exact lookup_cons_eq other name value []
  | cons pair rest ih =>
    obtain ⟨first, old⟩ := pair
    unfold get? at ih ⊢
    by_cases replaced : first = name
    · subst replaced
      rw [put, if_pos rfl, lookup_cons_eq, lookup_cons_eq]
      split <;> rfl
    · rw [put, if_neg replaced, lookup_cons_eq, lookup_cons_eq, ih]
      by_cases same : other = first
      · simp [same, replaced]
      · simp [same]

theorem Members.put_of_not_mem {name : String} {members : Members} (fresh : name ∉ members.names)
    (value : Value) : members.put name value = members ++ [(name, value)] := by
  induction members with
  | nil => rfl
  | cons pair rest ih =>
    rw [names_cons, List.mem_cons, not_or] at fresh
    rw [put, if_neg (Ne.symm fresh.1), ih fresh.2, List.cons_append]

theorem Members.get?_foldl (name : String) (pairs : List (String × Value)) (members : Members) :
    (pairs.foldl (fun members pair => members.put pair.1 pair.2) members).get? name =
      (pairs.reverse.lookup name).or (members.get? name) := by
  induction pairs generalizing members with
  | nil => rfl
  | cons pair rest ih =>
    rw [List.foldl_cons, ih, get?_put, List.reverse_cons, List.lookup_append, lookup_cons_eq]
    cases rest.reverse.lookup name with
    | some later => rfl
    | none => by_cases same : name = pair.1 <;> simp [same]

/-- What stands last under a name is in the place of all under it. -/
theorem Members.get?_ofPairs (name : String) (pairs : List (String × Value)) :
    (Members.ofPairs pairs).get? name = pairs.reverse.lookup name := by
  unfold ofPairs
  rw [get?_foldl]
  exact Option.or_none

namespace Tree

/-- The last member with a name. -/
def member? (name : String) : Tree → Option Tree
  | .object members => members.reverse.lookup (some name)
  | _ => none

section

variable {outer : Nat} {tree : Tree} {value : Value}

theorem lookup_memberValuesIn? {members : List (Option String × Tree)}
    {pairs : List (String × Value)} (read : memberValuesIn? outer members = some pairs)
    (name : String) : (members.reverse.lookup (some name)).map (valueIn? outer) =
      (pairs.reverse.lookup name).map some := by
  induction members generalizing pairs with
  | nil =>
    cases read
    rfl
  | cons member rest ih =>
    obtain ⟨given, tree⟩ := member
    obtain ⟨first, rfl, read⟩ := Option.bind_eq_some_iff.mp read
    obtain ⟨value, worth, read⟩ := Option.bind_eq_some_iff.mp read
    obtain ⟨others, later, read⟩ := Option.bind_eq_some_iff.mp read
    cases read
    have ih := ih later
    simp only [List.reverse_cons, List.lookup_append, lookup_cons_eq]
    cases found : rest.reverse.lookup (some name) with
    | some last =>
      rw [found] at ih
      cases known : others.reverse.lookup name with
      | some other => simpa [known] using ih
      | none => simp [known] at ih
    | none =>
      rw [found] at ih
      cases known : others.reverse.lookup name with
      | some other => simp [known] at ih
      | none => by_cases same : name = first <;> simp [same, worth]

/-- A tree that has a value is a string or an object, or neither it nor its value has any text or
member. -/
theorem valueIn?_cases (read : tree.valueIn? outer = some value) :
    (∃ s, tree = .string (some s) ∧ value = .string s) ∨
      (∃ members pairs, tree = .object members ∧
        memberValuesIn? (outer + 1) members = some pairs ∧
        value = .object (Members.ofPairs pairs)) ∨
      ((tree.text? = none ∧ value.string? = none) ∧
        ∀ name, tree.member? name = none ∧ value.member? name = none) := by
  cases tree with
  | string s =>
    obtain ⟨s, rfl, rfl⟩ := Option.map_eq_some_iff.mp read
    exact .inl ⟨s, rfl, rfl⟩
  | object members =>
    rw [valueIn?] at read
    split at read
    next =>
      obtain ⟨pairs, worth, rfl⟩ := Option.map_eq_some_iff.mp read
      exact .inr (.inl ⟨members, pairs, rfl, worth, rfl⟩)
    next => cases read
  | array items =>
    rw [valueIn?] at read
    split at read
    next =>
      obtain ⟨values, -, rfl⟩ := Option.map_eq_some_iff.mp read
      exact .inr (.inr ⟨⟨rfl, rfl⟩, fun _ => ⟨rfl, rfl⟩⟩)
    next => cases read
  | number n =>
    obtain ⟨n, rfl, rfl⟩ := Option.map_eq_some_iff.mp read
    exact .inr (.inr ⟨⟨rfl, rfl⟩, fun _ => ⟨rfl, rfl⟩⟩)
  | null | bool =>
    cases read
    exact .inr (.inr ⟨⟨rfl, rfl⟩, fun _ => ⟨rfl, rfl⟩⟩)

/-- A value has the last members of its tree. -/
theorem member?_of_valueIn? (read : tree.valueIn? outer = some value) (name : String) :
    (tree.member? name = none ∧ value.member? name = none) ∨
      ∃ member worth, tree.member? name = some member ∧ value.member? name = some worth ∧
        member.valueIn? (outer + 1) = some worth := by
  have last : (tree.member? name).map (valueIn? (outer + 1)) = (value.member? name).map some := by
    rcases valueIn?_cases read with ⟨s, rfl, rfl⟩ | ⟨members, pairs, rfl, worth, rfl⟩ | ⟨-, bare⟩
    · rfl
    · rw [Value.member?, Members.get?_ofPairs]
      exact lookup_memberValuesIn? worth name
    · rw [(bare name).1, (bare name).2]
      rfl
  cases given : tree.member? name with
  | none =>
    rw [given] at last
    exact .inl ⟨rfl, Option.map_eq_none_iff.mp last.symm⟩
  | some member =>
    rw [given] at last
    obtain ⟨worth, held, same⟩ := Option.map_eq_some_iff.mp last.symm
    exact .inr ⟨member, worth, rfl, held, same.symm⟩

theorem string?_of_valueIn? (read : tree.valueIn? outer = some value) :
    value.string? = tree.text? := by
  rcases valueIn?_cases read with ⟨s, rfl, rfl⟩ | ⟨members, pairs, rfl, -, rfl⟩ | ⟨bare, -⟩
  · rfl
  · rfl
  · rw [bare.1, bare.2]

end

end Tree

/-! ### Where objects begin -/

namespace Tree

def isObject : Tree → Bool
  | .object _ => true
  | _ => false

end Tree

namespace Build

/-- No object is open, nor is one done. -/
structure Flat (build : Build) : Prop where
  frames : ∀ members name, Frame.object members name ∉ build.frames
  expected : match build.expected with
    | .value | .itemOrEnd | .commaOrEnd => True
    | .nothing tree => tree.isObject = false
    | .name _ | .nameOrEnd | .colon _ _ => False

theorem flat_close {tree : Tree} {frames : List Frame} (plain : tree.isObject = false)
    (closed : ∀ members name, Frame.object members name ∉ frames) :
    (Tree.close tree frames).Flat := by
  match frames with
  | [] => exact ⟨closed, plain⟩
  | .array items :: rest =>
    refine ⟨fun members name member => ?_, trivial⟩
    exact closed members name (by simpa [Tree.close] using member)
  | .object members name :: rest => exact (closed members name List.mem_cons_self).elim

theorem flat_begin {frames : List Frame} {token : Token} {next : Build}
    (closed : ∀ members name, Frame.object members name ∉ frames) (other : token ≠ .openBrace)
    (begun : Tree.begin frames token = some next) : next.Flat := by
  unfold Tree.begin at begun
  split at begun
  iterate 4
    cases begun
    exact flat_close rfl closed
  next =>
    cases begun
    exact ⟨by simpa using closed, trivial⟩
  next => exact (other rfl).elim
  next => cases begun

theorem Flat.step {build next : Build} {token : Token} (flat : build.Flat)
    (other : token ≠ .openBrace) (stepped : Tree.step build token = some next) : next.Flat := by
  obtain ⟨frames, expected⟩ := build
  obtain ⟨closed, expects⟩ := flat
  have below {frame : Frame} {rest : List Frame} (opened : frames = frame :: rest)
      (members : List (Option String × Tree)) (name : Option String) :
      Frame.object members name ∉ rest := fun member =>
    closed members name (opened ▸ List.mem_cons_of_mem frame member)
  have shut {members : List (Option String × Tree)} {name : Option String} {rest : List Frame}
      (opened : frames = .object members name :: rest) : False :=
    closed members name (opened ▸ List.mem_cons_self)
  cases expected with
  | value => exact flat_begin closed other stepped
  | itemOrEnd =>
    unfold Tree.step at stepped
    split at stepped <;> try contradiction
    next opened =>
      cases stepped
      exact flat_close rfl (below opened)
    next => exact flat_begin closed other stepped
  | commaOrEnd =>
    unfold Tree.step at stepped
    split at stepped <;> try contradiction
    next opened =>
      cases stepped
      exact ⟨opened ▸ closed, trivial⟩
    next opened => exact (shut opened).elim
    next opened =>
      cases stepped
      exact flat_close rfl (below opened)
    next opened => exact (shut opened).elim
  | nothing tree => cases stepped
  | name | nameOrEnd | colon => exact expects.elim

end Build

namespace Tree

theorem openBrace_of_object {tokens : List Token} {members : List (Option String × Tree)}
    (built : ofTokens? tokens = some (.object members)) : Token.openBrace ∈ tokens := by
  refine Classical.byContradiction fun plain => ?_
  unfold ofTokens? at built
  split at built
  next frames tree last =>
    cases built
    have flat : Build.Flat ⟨frames, .nothing (.object members)⟩ := by
      refine foldlM_keeps Build.Flat ?_ last ⟨fun _ _ => List.not_mem_nil, trivial⟩
      intro token member build next stepped flat
      refine flat.step ?_ stepped
      rintro rfl
      exact plain member
    cases flat.expected
  next => cases built

/-- A text that is an object has a brace. -/
theorem brace_of_object {text : String} {members : List (Option String × Tree)}
    (read : ofText? text = some (.object members)) : '\x7b' ∈ text.toList := by
  obtain ⟨tokens, scanned, built⟩ := Option.bind_eq_some_iff.mp read
  exact Token.brace_of_openBrace scanned (openBrace_of_object built)

end Tree

end ScenarioResults.Json
