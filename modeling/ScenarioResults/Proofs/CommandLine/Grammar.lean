import ScenarioResults.CommandLine.Arguments

/-!
# The grammar of the command line

Arguments are good if they fall into items one after the other (`Splits`), where an item is the name of
a switch or the name of a parameter and any one argument. What they say is told item by item
(`Arguments.ofItems`). If they do not fall into items, the error is about the first argument that begins
none (`read_by_grammar`).
-/

namespace ScenarioResults.CommandLine

/-- The names that a switch goes by. -/
def Switch.names : Switch → List String
  | .listViews => ["--list-views"]
  | .printConfigPath => ["--print-config-path"]
  | .printTemplate => ["--print-example-config"]
  | .check => ["--check"]
  | .help => ["--help", "-h"]

/-- The arguments that items are written as. Whatever follows the name of a parameter is its value. -/
inductive Splits : List String → List Item → Prop
  | done : Splits [] []
  | switch {name : String} {switch : Switch} {rest : List String} {said : List Item}
      (named : name ∈ switch.names) (more : Splits rest said) :
      Splits (name :: rest) (.switch switch :: said)
  | parameter (parameter : Parameter) (value : String) {rest : List String} {said : List Item}
      (more : Splits rest said) :
      Splits (parameter.name :: value :: rest) (.parameter parameter value :: said)

/-- No item begins these arguments, and the error says why not of the first one: it is a parameter and
nothing follows, or it is no name at all. -/
inductive Stuck : List String → ArgumentError → Prop
  | missingValue (parameter : Parameter) : Stuck [parameter.name] (.missingValue parameter)
  | unknown {name : String} (rest : List String) (noSwitch : ∀ switch : Switch, name ∉ switch.names)
      (noParameter : ∀ parameter : Parameter, name ≠ parameter.name) :
      Stuck (name :: rest) (.unknown name)

/-- The arguments fall into items up to a place, and no farther. -/
structure SplitsUpTo (args front rest : List String) : Prop where
  whole : args = front ++ rest
  splits : ∃ said, Splits front said
  farthest : ∀ longer, longer <+: args → (∃ said, Splits longer said) → longer <+: front

/-! ### Names -/

/-- A name of a switch is read as that switch, and it is no name of a parameter. -/
theorem Switch.ofName?_of_mem (switch : Switch) : ∀ name ∈ switch.names,
    Switch.ofName? name = some switch ∧ Parameter.ofName? name = none := by
  cases switch <;> decide

theorem Switch.ofName?_eq_some_iff {name : String} {switch : Switch} :
    ofName? name = some switch ↔ name ∈ switch.names := by
  constructor
  · intro named
    unfold ofName? at named
    split at named <;> cases named <;> decide
  · intro named
    exact (ofName?_of_mem switch name named).1

theorem Parameter.ofName?_eq_some_iff {name : String} {parameter : Parameter} :
    ofName? name = some parameter ↔ name = parameter.name := by
  constructor
  · intro named
    unfold ofName? at named
    split at named <;> cases named <;> rfl
  · rintro rfl
    exact ofName?_name parameter

/-! ### One item after the other -/

theorem items_parameter (parameter : Parameter) (value : String) (rest : List String) :
    items (parameter.name :: value :: rest) =
      (items rest).map (.parameter parameter value :: ·) := by
  simp only [items, Parameter.ofName?_name]

theorem items_switch {name : String} {switch : Switch} (named : name ∈ switch.names)
    (rest : List String) : items (name :: rest) = (items rest).map (.switch switch :: ·) := by
  obtain ⟨isSwitch, noParameter⟩ := Switch.ofName?_of_mem switch name named
  cases rest with
  | nil => simp only [items, noParameter, isSwitch, Except.map]
  | cons value rest => simp only [items, noParameter, isSwitch]

theorem items_stuck {rest : List String} {error : ArgumentError} (stuck : Stuck rest error) :
    items rest = .error error := by
  cases stuck with
  | missingValue parameter => simp only [items, Parameter.ofName?_name]
  | @unknown name rest noSwitch noParameter =>
    have parameter : Parameter.ofName? name = none := by
      refine Option.eq_none_iff_forall_ne_some.mpr fun parameter named => ?_
      exact noParameter _ (Parameter.ofName?_eq_some_iff.mp named)
    have switch : Switch.ofName? name = none := by
      refine Option.eq_none_iff_forall_ne_some.mpr fun switch named => ?_
      exact noSwitch _ (Switch.ofName?_eq_some_iff.mp named)
    cases rest <;> simp only [items, parameter, switch]

theorem stuck_of_none {name : String} (parameter : Parameter.ofName? name = none)
    (switch : Switch.ofName? name = none) (rest : List String) :
    Stuck (name :: rest) (.unknown name) := by
  refine .unknown rest (fun switch' named => ?_) fun parameter' named => ?_
  · rw [Switch.ofName?_eq_some_iff.mpr named] at switch
    cases switch
  · rw [Parameter.ofName?_eq_some_iff.mpr named] at parameter
    cases parameter

/-- What falls into items is read as these, whatever follows. -/
theorem items_append {front : List String} {said : List Item} (splits : Splits front said)
    (rest : List String) : items (front ++ rest) = (items rest).map (said ++ ·) := by
  induction splits with
  | done =>
    rw [List.nil_append]
    cases items rest <;> rfl
  | switch named more ih =>
    rw [List.cons_append, items_switch named, ih]
    cases items rest <;> rfl
  | parameter parameter value more ih =>
    rw [List.cons_append, List.cons_append, items_parameter, ih]
    cases items rest <;> rfl

/-- Arguments fall into items up to a place: their end, or where they are stuck. -/
theorem exists_splits (args : List String) :
    ∃ front said rest, args = front ++ rest ∧ Splits front said ∧
      (rest = [] ∨ ∃ error, Stuck rest error) := by
  fun_induction items args with
  | case1 => exact ⟨[], [], [], rfl, .done, .inl rfl⟩
  | case2 name parameter named =>
    rw [Parameter.ofName?_eq_some_iff.mp named]
    exact ⟨[], [], _, rfl, .done, .inr ⟨_, .missingValue parameter⟩⟩
  | case3 name switch named =>
    have splits := Splits.switch (Switch.ofName?_eq_some_iff.mp named) .done
    exact ⟨[name], _, [], rfl, splits, .inl rfl⟩
  | case4 name switch parameter =>
    exact ⟨[], [], _, rfl, .done, .inr ⟨_, stuck_of_none parameter switch []⟩⟩
  | case5 name value rest parameter named ih =>
    obtain ⟨front, said, rest, rfl, splits, ended⟩ := ih
    rw [Parameter.ofName?_eq_some_iff.mp named]
    exact ⟨parameter.name :: value :: front, _, rest, rfl, .parameter parameter value splits, ended⟩
  | case6 name value rest switch named noParameter ih =>
    obtain ⟨front, said, rest, whole, splits, ended⟩ := ih
    have more := Splits.switch (Switch.ofName?_eq_some_iff.mp named) splits
    exact ⟨name :: front, _, rest, by rw [whole, List.cons_append], more, ended⟩
  | case7 name value rest switch parameter =>
    exact ⟨[], [], _, rfl, .done, .inr ⟨_, stuck_of_none parameter switch _⟩⟩

theorem items_of_splits {args : List String} {said : List Item} (splits : Splits args said) :
    items args = .ok said := by
  have read := items_append splits []
  rwa [List.append_nil, items, Except.map, List.append_nil] at read

theorem items_of_stuck {front rest : List String} {said : List Item} {error : ArgumentError}
    (splits : Splits front said) (stuck : Stuck rest error) :
    items (front ++ rest) = .error error := by
  rw [items_append splits, items_stuck stuck, Except.map]

theorem items_eq_ok_iff {args : List String} {said : List Item} :
    items args = .ok said ↔ Splits args said := by
  refine ⟨fun read => ?_, items_of_splits⟩
  obtain ⟨front, others, rest, rfl, splits, rfl | ⟨error, stuck⟩⟩ := exists_splits args
  · rw [List.append_nil] at read ⊢
    rw [items_of_splits splits] at read
    exact Except.ok.inj read ▸ splits
  · rw [items_of_stuck splits stuck] at read
    cases read

/-! ### The place where the arguments are stuck -/

/-- What is stuck is stuck at its first argument. -/
theorem Stuck.begin {rest more : List String} {error : ArgumentError} (stuck : Stuck rest error)
    (begins : more <+: rest) (filled : more ≠ []) : Stuck more error := by
  cases stuck with
  | missingValue parameter =>
    obtain ⟨below, rfl, none⟩ := (List.prefix_cons_iff.mp begins).resolve_left filled
    rw [List.prefix_nil.mp none]
    exact .missingValue parameter
  | unknown rest noSwitch noParameter =>
    obtain ⟨below, rfl, -⟩ := (List.prefix_cons_iff.mp begins).resolve_left filled
    exact .unknown below noSwitch noParameter

theorem splitsUpTo_of_stuck {front rest : List String} {said : List Item} {error : ArgumentError}
    (splits : Splits front said) (stuck : Stuck rest error) :
    SplitsUpTo (front ++ rest) front rest := by
  refine ⟨rfl, ⟨said, splits⟩, ?_⟩
  rintro longer begins ⟨others, known⟩
  rcases List.prefix_or_prefix_of_prefix begins (List.prefix_append front rest) with
    short | ⟨more, rfl⟩
  · exact short
  · have begun : more <+: rest := (List.prefix_append_right_inj front).mp begins
    by_cases none : more = []
    · simp [none]
    · have refused := items_of_stuck splits (stuck.begin begun none)
      rw [items_of_splits known] at refused
      cases refused

theorem items_eq_error_iff {args : List String} {error : ArgumentError} :
    items args = .error error ↔
      ∃ front rest, SplitsUpTo args front rest ∧ Stuck rest error := by
  constructor
  · intro read
    obtain ⟨front, said, rest, rfl, splits, rfl | ⟨cause, stuck⟩⟩ := exists_splits args
    · rw [List.append_nil, items_of_splits splits] at read
      cases read
    · rw [items_of_stuck splits stuck] at read
      obtain rfl := Except.error.inj read
      exact ⟨front, rest, splitsUpTo_of_stuck splits stuck, stuck⟩
  · rintro ⟨front, rest, ⟨rfl, ⟨said, splits⟩, -⟩, stuck⟩
    exact items_of_stuck splits stuck

/-! ### What the items say -/

def Item.value? (parameter : Parameter) : Item → Option String
  | .parameter other value => if other = parameter then some value else none
  | .switch _ => none

def Item.filter? : Item → Option (Filter × String)
  | .parameter (.filter filter) value => some (filter, value)
  | _ => none

/-- Of several values of one parameter the last one. -/
def lastValue? (parameter : Parameter) (said : List Item) : Option String :=
  (said.filterMap (Item.value? parameter)).getLast?

namespace Arguments

/-- What items say: the last path, scenario and view, all filters in order, and the switches among
them. -/
def ofItems (defaultPath : String) (said : List Item) : Arguments where
  configPath := (lastValue? .config said).getD defaultPath
  scenario? := lastValue? .scenario said
  view? := lastValue? .view said
  filters := said.filterMap Item.filter?
  listsViews := said.contains (.switch .listViews)
  printsConfigPath := said.contains (.switch .printConfigPath)
  printsTemplate := said.contains (.switch .printTemplate)
  checksOnly := said.contains (.switch .check)
  showsHelp := said.contains (.switch .help)

/-- One item more has its say after all others. -/
theorem ofItems_concat (defaultPath : String) (said : List Item) (item : Item) :
    ofItems defaultPath (said ++ [item]) = (ofItems defaultPath said).take item := by
  cases item with
  | switch switch => cases switch <;> simp [ofItems, take, lastValue?, Item.value?, Item.filter?]
  | parameter parameter value =>
    cases parameter <;> simp [ofItems, take, lastValue?, Item.value?, Item.filter?]

theorem foldl_take (defaultPath : String) (done said : List Item) :
    said.foldl take (ofItems defaultPath done) = ofItems defaultPath (done ++ said) := by
  induction said generalizing done with
  | nil => rw [List.append_nil, List.foldl_nil]
  | cons item rest ih =>
    rw [List.foldl_cons, ← ofItems_concat, ih, List.append_assoc, List.singleton_append]

/-- Arguments are read exactly if they fall into items, and as these say. If they do not, the error is
about the first argument behind all that falls into items. -/
theorem read_by_grammar (defaultPath : String) (args : List String) :
    (∀ arguments, read defaultPath args = .ok arguments ↔
        ∃ said, Splits args said ∧ arguments = ofItems defaultPath said) ∧
      ∀ error, read defaultPath args = .error error ↔
        ∃ front rest, SplitsUpTo args front rest ∧ Stuck rest error := by
  have told (said : List Item) :
      said.foldl take { configPath := defaultPath } = ofItems defaultPath said :=
    foldl_take defaultPath [] said
  refine ⟨fun arguments => ?_, fun error => ?_⟩
  · simp only [← items_eq_ok_iff, read, told]
    cases items args with
    | ok said => simp [Except.map, eq_comm]
    | error cause => simp [Except.map]
  · rw [← items_eq_error_iff, read]
    cases items args with
    | ok said => simp [Except.map]
    | error cause => simp [Except.map]

/-- A value that looks like a switch is a value. -/
example : read "default.toml" ["--view", "--check", "--stage", "1", "-h", "--stage", "-h"] =
    .ok { configPath := "default.toml", view? := some "--check"
          filters := [(.stage, "1"), (.stage, "-h")], showsHelp := true } := by
  rfl

end Arguments

end ScenarioResults.CommandLine
