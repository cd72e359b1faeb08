import ScenarioResults.Config

/-!
# Which configurations are loaded

A document is usable if it has the version, what it says under the known names are texts, and these can
be used. Exactly the usable documents are loaded, each as what it says (`loads_iff_usable`). So the
timeout of a configuration that is loaded can be read again, and is some time.
-/

namespace ScenarioResults

namespace Toml.Value

def isTable : Value → Bool
  | .table _ => true
  | _ => false

def isString : Value → Bool
  | .string _ => true
  | _ => false

/-- A string, or a moment, which is taken for its text. -/
def IsText (value : Value) : Prop := (∃ s, value = .string s) ∨ ∃ text, value = .moment text

/-- What a document has under a name in a section. -/
def entry? (document : Value) (header name : String) : Option Value :=
  (document.get? header).bind (get? name)

def textAt? (document : Value) (header name : String) : Option String :=
  (document.entry? header name).bind text?

/-- Nothing, or a text, stands under a name in a section. -/
def TextOnly (document : Value) (header name : String) : Prop :=
  ∀ value, document.entry? header name = some value → value.IsText

theorem isText_iff {value : Value} : value.IsText ↔ ∃ text, value.text? = some text := by
  cases value <;> simp [IsText, text?]

end Toml.Value

namespace Config

open Toml (Value)

def sections : List String := ["server", "output", "logging"]

/-- Where a configuration is read from: names and the sections that they are in. -/
def places : List (String × String) :=
  [("server", "base_url"), ("server", "timeout"), ("output", "plot_dir"), ("output", "bokeh_js"),
    ("logging", "filter")]

/-- What a document says, as far as it is in texts. -/
def said (document : Value) : Config where
  baseUrl? := document.textAt? "server" "base_url"
  timeout? := document.textAt? "server" "timeout"
  plotFolder? := document.textAt? "output" "plot_dir"
  script? := document.textAt? "output" "bokeh_js"
  logFilter? := document.textAt? "logging" "filter"

/-- What is set can be used: the base URL and the folder are not blank, and the timeout is some time. -/
structure Sound (config : Config) : Prop where
  baseUrl : ∀ url, config.baseUrl? = some url → Text.isAllBlank url = false
  timeout : ∀ raw, config.timeout? = some raw →
    ∃ span, Duration.read raw = .ok span ∧ 0 < span.milliseconds
  plotFolder : ∀ folder, config.plotFolder? = some folder → Text.isAllBlank folder = false

/-- The sections that a document has are tables. -/
def Sectioned (document : Value) : Prop :=
  ∀ header ∈ sections, (document.get? header).all Value.isTable

instance (document : Value) : Decidable (Sectioned document) :=
  inferInstanceAs (Decidable (∀ header ∈ sections, (document.get? header).all Value.isTable))

/-- A document of the one version that says what it says in texts, all of which can be used. -/
structure Usable (document : Value) : Prop where
  version : document.get? "version" = some (.integer 1)
  texts : ∀ place ∈ places, document.TextOnly place.1 place.2
  sound : (said document).Sound

/-! ### Checking -/

theorem checkTimeout_eq_ok_iff {path raw : String} :
    checkTimeout path raw = .ok () ↔
      ∃ span, Duration.read raw = .ok span ∧ 0 < span.milliseconds := by
  unfold checkTimeout
  cases Duration.read raw with
  | error cause => simp
  | ok span => by_cases none : span.milliseconds = 0 <;> simp [none, Nat.pos_iff_ne_zero]

theorem any_eq_false_iff {p : String → Bool} {text? : Option String} :
    text?.any p = false ↔ ∀ text, text? = some text → p text = false := by
  cases text? <;> simp

theorem check_eq_ok_iff {path : String} {config : Config} :
    config.check path = .ok () ↔ config.Sound := by
  have timely : config.timeout?.elim (.ok ()) (checkTimeout path) = .ok () ↔
      ∀ raw, config.timeout? = some raw →
        ∃ span, Duration.read raw = .ok span ∧ 0 < span.milliseconds := by
    cases config.timeout? <;> simp [checkTimeout_eq_ok_iff]
  constructor
  · intro checked
    unfold check at checked
    split at checked
    · cases checked
    next address =>
      split at checked
      · cases checked
      next timeout =>
        split at checked
        · cases checked
        next folder =>
          exact ⟨any_eq_false_iff.mp (Bool.eq_false_iff.mpr address), timely.mp timeout,
            any_eq_false_iff.mp (Bool.eq_false_iff.mpr folder)⟩
  · rintro ⟨address, timeout, folder⟩
    simp [check, any_eq_false_iff.mpr address, timely.mpr timeout, any_eq_false_iff.mpr folder]

/-! ### Reading -/

theorem mapM_eq_some_iff {α β : Type} {f : α → Option β} {good : α → Prop} {g : α → β}
    (each : ∀ a b, f a = some b ↔ good a ∧ b = g a) {as : List α} {bs : List β} :
    as.mapM f = some bs ↔ (∀ a ∈ as, good a) ∧ bs = as.map g := by
  induction as generalizing bs with
  | nil => simp [eq_comm]
  | cons a as ih =>
    simp only [List.mapM_cons, List.forall_mem_cons, List.map_cons, bind, Option.bind_eq_some_iff,
      each, ih]
    constructor
    · rintro ⟨_, ⟨first, rfl⟩, _, ⟨others, rfl⟩, same⟩
      exact ⟨⟨first, others⟩, (Option.some.inj same).symm⟩
    · rintro ⟨⟨first, others⟩, rfl⟩
      exact ⟨_, ⟨first, rfl⟩, _, ⟨others, rfl⟩, rfl⟩

/-- A section that is a table, or is left out, is read if all under the names is texts. -/
theorem sectionTexts?_eq_some_iff {document : Value} {header : String} {names : List String}
    {texts : List (Option String)} (table : (document.get? header).all Value.isTable) :
    sectionTexts? names (document.get? header) = some texts ↔
      (∀ name ∈ names, document.TextOnly header name) ∧
        texts = names.map (document.textAt? header) := by
  cases given : document.get? header with
  | none =>
    have nothing : document.textAt? header = fun _ => none := by
      funext name
      simp [Toml.Value.textAt?, Toml.Value.entry?, given]
    simp [sectionTexts?, Toml.Value.TextOnly, Toml.Value.entry?, given, nothing, eq_comm]
  | some value =>
    have entry (name : String) : document.entry? header name = value.get? name := by
      rw [Toml.Value.entry?, given, Option.bind_some]
    cases value with
    | table entries =>
      refine mapM_eq_some_iff fun name text => ?_
      simp only [Toml.Value.TextOnly, entry, Toml.Value.textAt?, Toml.Value.get?]
      cases entries.lookup name with
      | none => simp [eq_comm]
      | some value =>
        simp only [Option.some.injEq, forall_eq', Toml.Value.isText_iff, Option.bind_some,
          Option.map_eq_some_iff]
        cases value.text? <;> simp [eq_comm]
    | _ => simp [given, Value.isTable] at table

theorem forall_places {good : String → String → Prop} :
    (∀ place ∈ places, good place.1 place.2) ↔
      (∀ name ∈ ["base_url", "timeout"], good "server" name) ∧
        (∀ name ∈ ["plot_dir", "bokeh_js"], good "output" name) ∧
        ∀ name ∈ ["filter"], good "logging" name := by
  simp [places, and_assoc]

theorem ofDocument?_eq_some_iff {document : Value} {config : Config}
    (tables : Sectioned document) :
    ofDocument? document = some config ↔
      (∀ place ∈ places, document.TextOnly place.1 place.2) ∧ config = said document := by
  have server := tables "server" (by decide)
  have output := tables "output" (by decide)
  have logging := tables "logging" (by decide)
  rw [forall_places]
  simp only [ofDocument?, bind, Option.bind_eq_some_iff, sectionTexts?_eq_some_iff server,
    sectionTexts?_eq_some_iff output, sectionTexts?_eq_some_iff logging]
  constructor
  · rintro ⟨_, ⟨first, rfl⟩, _, ⟨second, rfl⟩, _, ⟨third, rfl⟩, same⟩
    exact ⟨⟨first, second, third⟩, (Option.some.inj same).symm⟩
  · rintro ⟨⟨first, second, third⟩, rfl⟩
    exact ⟨_, ⟨first, rfl⟩, _, ⟨second, rfl⟩, _, ⟨third, rfl⟩, rfl⟩

theorem ofDocument_eq_ok_iff {path : String} {document : Value} {config : Config} :
    ofDocument path document = .ok config ↔
      document.get? "version" = some (.integer 1) ∧ ofDocument? document = some config ∧
        config.Sound := by
  have versioned : document.get? "version" = some (.integer 1) ↔
      (document.get? "version").bind Value.integer? = some version := by
    cases document.get? "version" with
    | none => simp
    | some value => cases value <;> simp [Value.integer?, version]
  have checked (found : Config) :
      ((found.check path).map fun () => found) = .ok config ↔ found = config ∧ found.Sound := by
    rw [← @check_eq_ok_iff path]
    cases found.check path <;> simp [Except.map]
  rw [versioned, ofDocument]
  cases (document.get? "version").bind Value.integer? with
  | none => simp
  | some number =>
    by_cases same : number = version
    · cases ofDocument? document with
      | none => simp [same]
      | some found =>
        simp only [same, ne_eq, not_true_eq_false, if_false, checked, Option.some.injEq, true_and]
        exact and_congr_right fun same => by rw [same]
    · simp [same]

theorem timeout_of_sound {config : Config} (sound : config.Sound) :
    ∃ timeout, config.timeout = .ok timeout ∧ 0 < timeout.milliseconds := by
  unfold timeout
  cases given : config.timeout? with
  | none => exact ⟨⟨10000⟩, rfl, by decide⟩
  | some raw => exact sound.timeout raw given

theorem sound_of_load {path : String} {entry : FileEntry} {config : Config}
    (loaded : load path entry = .ok config) : config.Sound := by
  cases entry with
  | nothing =>
    obtain rfl := Except.ok.inj loaded
    exact ⟨fun _ given => (Option.some_ne_none _ given.symm).elim,
      fun _ given => (Option.some_ne_none _ given.symm).elim,
      fun _ given => (Option.some_ne_none _ given.symm).elim⟩
  | folder => cases loaded
  | file text =>
    simp only [load, ofText] at loaded
    split at loaded
    · cases loaded
    · exact (ofDocument_eq_ok_iff.mp loaded).2.2

/-- A file whose sections are tables is loaded exactly if its document is usable, and then as what the
document says. A configuration that was loaded, from a file or without one, has a timeout that is some
time. -/
theorem loads_iff_usable :
    (∀ path text document, Value.ofDocument? text = some document → Sectioned document →
        ∀ config, load path (.file text) = .ok config ↔ Usable document ∧ config = said document) ∧
      ∀ path entry config, load path entry = .ok config →
        ∃ timeout, config.timeout = .ok timeout ∧ 0 < timeout.milliseconds := by
  refine ⟨?_, fun path entry config loaded => timeout_of_sound (sound_of_load loaded)⟩
  intro path text document parsed tables config
  simp only [load, ofText, parsed, ofDocument_eq_ok_iff, ofDocument?_eq_some_iff tables]
  constructor
  · rintro ⟨version, ⟨texts, rfl⟩, sound⟩
    exact ⟨⟨version, texts, sound⟩, rfl⟩
  · rintro ⟨⟨version, texts, sound⟩, rfl⟩
    exact ⟨version, ⟨texts, rfl⟩, sound⟩

/-! ### A date in the place of a folder -/

def datedFolder : String :=
  "version = 1\nserver.timeout = \"2m\"\n[output]\nplot_dir = 1979-05-27\n"

theorem exists_datedFolder :
    ∃ document, Value.ofDocument? datedFolder = some document ∧ Sectioned document ∧
      document.textAt? "output" "plot_dir" = some "1979-05-27" ∧
      ¬ (document.entry? "output" "plot_dir").all Value.isString := by
  have parsed : (Value.ofDocument? datedFolder).isSome := by decide +kernel
  have dated : ∀ document ∈ Value.ofDocument? datedFolder, Sectioned document ∧
      document.textAt? "output" "plot_dir" = some "1979-05-27" ∧
      ¬ (document.entry? "output" "plot_dir").all Value.isString := by decide +kernel
  obtain ⟨document, same⟩ := Option.isSome_iff_exists.mp parsed
  exact ⟨document, same, dated document same⟩

theorem loads_datedFolder : ∃ config, load "config.toml" (.file datedFolder) = .ok config := by
  have loaded : (load "config.toml" (.file datedFolder)).isOk := by decide +kernel
  cases read : load "config.toml" (.file datedFolder) with
  | ok config => exact ⟨config, rfl⟩
  | error error => rw [read] at loaded; cases loaded

/-- The date is the name of the folder, and there is nothing to object to the document. -/
theorem loads_iff_usable_dated :
    ∃ document config, Value.ofDocument? datedFolder = some document ∧ Sectioned document ∧
      load "config.toml" (.file datedFolder) = .ok config ∧ Usable document ∧
      config.plotFolder? = some "1979-05-27" ∧
      ∃ timeout, config.timeout = .ok timeout ∧ 0 < timeout.milliseconds := by
  obtain ⟨document, parsed, tables, folder, -⟩ := exists_datedFolder
  obtain ⟨config, loaded⟩ := loads_datedFolder
  obtain ⟨usable, rfl⟩ := (loads_iff_usable.1 _ _ _ parsed tables config).mp loaded
  exact ⟨document, _, parsed, tables, loaded, usable, folder, loads_iff_usable.2 _ _ _ loaded⟩

/-- Not only strings are loaded: this folder is a date. -/
theorem loads_without_string :
    ∃ document, Value.ofDocument? datedFolder = some document ∧ Sectioned document ∧
      (∃ config, load "config.toml" (.file datedFolder) = .ok config) ∧
      ¬ ∀ place ∈ places, (document.entry? place.1 place.2).all Value.isString := by
  obtain ⟨document, parsed, tables, -, date⟩ := exists_datedFolder
  exact ⟨document, parsed, tables, loads_datedFolder,
    fun strings => date (strings ("output", "plot_dir") (by decide))⟩

end Config

end ScenarioResults
