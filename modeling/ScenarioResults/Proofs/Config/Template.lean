import ScenarioResults.Proofs.Config.Usable
import ScenarioResults.Proofs.Toml.Written

/-!
# The template of a configuration

The template is a document with the path in a comment. A path of one line is read exactly if it fits a
comment, and then the template sets what is the default anyway (`load_template_of_fits`). A path of
several lines ends the comment. The rest of it is a part of the document, which may be refused for it,
and may name a folder of plots, of which the template has none. What the template sets it cannot change
(`alike_of_load`).
-/

namespace ScenarioResults.Config

open Toml (Value Token Entries Line Reading)

/-- Two configurations with which the same service is asked, the same script is used and the same is
logged. -/
structure Alike (one other : Config) : Prop where
  baseUrl : one.baseUrl = other.baseUrl
  timeout : one.timeout = other.timeout
  script : one.script = other.script
  logFilter : one.logFilter = other.logFilter

/-! ### The text -/

/-- The template in front of the path. -/
def templateFront : String := "# gpresults config\n# Place this file at: "

/-- The template from the first header. -/
def sectionLines : List Line :=
  [.entry "base_url" defaultBaseUrl, .entry "timeout" defaultTimeout, .blank,
    .header "output",
    .comment (" Optional. Default is the platform data dir "
      ++ "(for example ~/.local/share/gpresults/plots)"),
    .comment " plot_dir = \"/absolute/path/to/plots\"",
    .entry "bokeh_js" defaultScript, .blank,
    .header "logging", .comment " RUST_LOG takes precedence when set",
    .entry "filter" defaultLogFilter]

/-- The template after the line of the path. -/
def templateLines : List Line :=
  .blank :: .scalar "version" "1" :: .blank :: .header "server" :: sectionLines

theorem toList_template (path : String) :
    (template path).toList =
      templateFront.toList ++ (path.toList ++ '\n' :: templateLines.flatMap Line.text) := by
  unfold template templateFront
  simp only [String.toList_append, List.append_assoc]
  refine congrArg (fun rest => _ ++ (path.toList ++ rest)) ?_
  decide +kernel

theorem templateLines_plain :
    templateLines.all Line.isPlain = true ∧ templateLines.all Line.isCalm = true := by
  decide

/-- The path is scanned in a comment, up to the end of its last line. -/
theorem scan?_template (path : String) :
    Token.scan? (template path).toList =
      ((path.toList ++ ['\n']).foldlM Token.step ⟨[.newline], .comment⟩).bind fun scan =>
        ((templateLines.flatMap Line.text).foldlM Token.step scan).bind Token.finish := by
  have marked : templateFront.toList = '#' :: templateFront.toList.tail := by decide
  have unmarked (rest : List Char) :
      Token.withoutMark (templateFront.toList ++ rest) = templateFront.toList ++ rest := by
    rw [marked]
    rfl
  have begun : templateFront.toList.foldlM Token.step ⟨[], .between⟩ =
      some ⟨[.newline], .comment⟩ := by decide
  rw [toList_template, Token.scan?, unmarked, Toml.foldlM_append_of_run begun, List.append_cons,
    List.foldlM_append, Option.bind_eq_bind, Option.bind_assoc]

/-- A path that ends between tokens comes before the lines of the template. -/
theorem scan?_template_of_run {path : String} {before : List Token}
    (run : (path.toList ++ ['\n']).foldlM Token.step ⟨[.newline], .comment⟩ =
      some ⟨before, .between⟩) :
    Token.scan? (template path).toList =
      some (before.reverse ++ templateLines.flatMap Line.tokens) := by
  rw [scan?_template, run, Option.bind_some, Line.foldlM_lines templateLines_plain.1,
    Option.bind_some, Token.finish, List.reverse_append, List.reverse_reverse]

/-- A path of one line is scanned exactly if it fits a comment, and leaves no trace. -/
theorem scan?_template_iff {path : String} (single : '\n' ∉ path.toList) {tokens : List Token} :
    Token.scan? (template path).toList = some tokens ↔
      Token.FitsComment path.toList ∧
        tokens = .newline :: .newline :: templateLines.flatMap Line.tokens := by
  constructor
  · intro scanned
    have whole := scanned
    rw [scan?_template] at scanned
    obtain ⟨scan, run, -⟩ := Option.bind_eq_some_iff.mp scanned
    obtain ⟨fits, rfl⟩ := (Token.foldlM_comment_iff single _).mp run
    exact ⟨fits, Option.some.inj (whole.symm.trans (scan?_template_of_run run))⟩
  · rintro ⟨fits, rfl⟩
    exact scan?_template_of_run ((Token.foldlM_comment_iff single _).mpr ⟨fits, rfl⟩)

/-! ### Loading -/

theorem load_file_eq_ok_iff {place text : String} {config : Config} :
    load place (.file text) = .ok config ↔
      ∃ document, Value.ofDocument? text = some document ∧
        ofDocument place document = .ok config := by
  simp only [load, ofText]
  cases Value.ofDocument? text <;> simp

theorem load_file_of_none {text : String} (none : Value.ofDocument? text = none) (place : String) :
    load place (.file text) = .error (.notToml place) := by
  simp only [load, ofText, none]

/-- The value of the template with tokens in front of its lines. -/
def valueAfter? (before : List Token) : Option Value := do
  let entries ← Reading.ofTokens? (before ++ templateLines.flatMap Line.tokens)
  Value.withMoments? (.table (Toml.Node.finishEntries entries))

theorem valueAfter?_of_run {path : String} {before : List Token}
    (run : (path.toList ++ ['\n']).foldlM Token.step ⟨[.newline], .comment⟩ =
      some ⟨before, .between⟩) :
    Value.ofDocument? (template path) = valueAfter? before.reverse := by
  rw [Value.ofDocument?, scan?_template_of_run run, Option.bind_eq_bind, Option.bind_some]
  rfl

theorem exists_of_parsed {text : String} {document : Value}
    (parsed : Value.ofDocument? text = some document) :
    ∃ tokens entries, Token.scan? text.toList = some tokens ∧
      Reading.ofTokens? tokens = some entries ∧
      Value.withMoments? (.table (Toml.Node.finishEntries entries)) = some document := by
  obtain ⟨tokens, scanned, parsed⟩ := Option.bind_eq_some_iff.mp parsed
  obtain ⟨entries, read, valued⟩ := Option.bind_eq_some_iff.mp parsed
  exact ⟨tokens, entries, scanned, read, valued⟩

/-- What the template sets. -/
def written : Config where
  baseUrl? := some defaultBaseUrl
  timeout? := some defaultTimeout
  script? := some defaultScript
  logFilter? := some defaultLogFilter

theorem load_template_of_fits {path : String} (single : '\n' ∉ path.toList)
    (fits : Token.FitsComment path.toList) (place : String) :
    load place (.file (template path)) = .ok written := by
  have run := (Token.foldlM_comment_iff single [.newline]).mpr ⟨fits, rfl⟩
  have somewhere : (valueAfter? [.newline, .newline]).map (ofDocument "config.toml") =
      some (.ok written) := by decide +kernel
  obtain ⟨document, valued, usable⟩ := Option.map_eq_some_iff.mp somewhere
  refine load_file_eq_ok_iff.mpr ⟨document, (valueAfter?_of_run run).trans valued, ?_⟩
  exact ofDocument_eq_ok_iff.mpr (ofDocument_eq_ok_iff.mp usable)

/-- What stands in a document that is loaded is what it says. -/
theorem textAt?_of_stands {final : Entries} {document : Value} {header key text : String}
    {names : List String} {texts : List (Option String)}
    (stands : final.Stands header key (.string text))
    (valued : Value.withMoments? (.table (Toml.Node.finishEntries final)) = some document)
    (versioned : document.get? "version" = some (.integer 1))
    (read : sectionTexts? names (document.get? header) = some texts) :
    (document.get? header).all Value.isTable = true ∧ document.textAt? header key = some text := by
  rcases Value.get?_of_stands stands valued with ⟨moment, rfl⟩ | ⟨moment, got⟩ | ⟨entries, got, there⟩
  · cases versioned
  · rw [got] at read
    cases read
  · rw [Value.textAt?, Value.entry?, got]
    exact ⟨rfl, by simp [Value.get?, there, Value.text?]⟩

/-- Whatever the path is, what the template sets stands in its document, if there is one. -/
theorem stands_of_template {path : String} {document : Value}
    (parsed : Value.ofDocument? (template path) = some document) :
    ∃ final : Entries,
      Value.withMoments? (.table (Toml.Node.finishEntries final)) = some document ∧
      ∀ entry ∈ Line.entries "server" sectionLines,
        final.Stands entry.1 entry.2.1 (.string entry.2.2) := by
  obtain ⟨tokens, final, scanned, read, valued⟩ := exists_of_parsed parsed
  refine ⟨final, valued, ?_⟩
  rw [toList_template, ← List.append_assoc] at scanned
  obtain ⟨before, rfl⟩ := Line.tokens_after templateLines_plain.1 templateLines_plain.2 scanned
  obtain ⟨last, run, finished⟩ := Option.bind_eq_some_iff.mp read
  have ended : templateLines.flatMap Line.tokens ++ [.newline] =
      (templateLines ++ [Line.blank]).flatMap Line.tokens := by
    rw [List.flatMap_append]
    rfl
  rw [List.append_assoc, ended, List.foldlM_append] at run
  obtain ⟨r, -, run⟩ := Option.bind_eq_some_iff.mp run
  have bare : (sectionLines ++ [Line.blank]).all Line.hasBareKey = true := by decide
  have unread : Value.ofScalar? "version" = none := by decide
  have undated : Reading.isDate "version" = false := by decide
  obtain ⟨closed, ending, rfl, stands⟩ :=
    Line.stands_of_headed (by decide) unread undated (by decide) bare run
  obtain rfl := Option.some.inj finished
  exact stands

/-- A path cannot change what the template sets. -/
theorem alike_of_load {place path : String} {config : Config}
    (loaded : load place (.file (template path)) = .ok config) : config.Alike {} := by
  obtain ⟨document, parsed, usable⟩ := load_file_eq_ok_iff.mp loaded
  obtain ⟨versioned, usable, -⟩ := ofDocument_eq_ok_iff.mp usable
  obtain ⟨final, valued, stands⟩ := stands_of_template parsed
  have read := usable
  simp only [ofDocument?, bind, Option.bind_eq_some_iff] at read
  obtain ⟨_, server, _, output, _, logging, -⟩ := read
  obtain ⟨isServer, baseUrl⟩ := textAt?_of_stands
    (stands ("server", "base_url", defaultBaseUrl) (by decide)) valued versioned server
  obtain ⟨-, timeout⟩ := textAt?_of_stands
    (stands ("server", "timeout", defaultTimeout) (by decide)) valued versioned server
  obtain ⟨isOutput, script⟩ := textAt?_of_stands
    (stands ("output", "bokeh_js", defaultScript) (by decide)) valued versioned output
  obtain ⟨isLogging, logFilter⟩ := textAt?_of_stands
    (stands ("logging", "filter", defaultLogFilter) (by decide)) valued versioned logging
  have tables : Sectioned document := by
    intro header member
    simp only [sections, List.mem_cons, List.not_mem_nil, or_false] at member
    rcases member with rfl | rfl | rfl
    · exact isServer
    · exact isOutput
    · exact isLogging
  obtain ⟨-, rfl⟩ := (ofDocument?_eq_some_iff tables).mp usable
  constructor
  · simp only [Config.baseUrl, said, baseUrl, Option.getD_some, Option.getD_none]
  · simp only [Config.timeout, said, timeout, Option.getD_some, Option.getD_none]
  · simp only [Config.script, said, script, Option.getD_some, Option.getD_none]
  · simp only [Config.logFilter, said, logFilter, Option.getD_some, Option.getD_none]

/-- With every path the template sets, if it is loaded, what is the default anyway. With a path of one
line it is loaded exactly if that fits a comment, and the folder of plots is the default then too. -/
theorem template_loads_iff (place : String) :
    ∃ absent, load place .nothing = .ok absent ∧
      (∀ path config, load place (.file (template path)) = .ok config → config.Alike absent) ∧
      ∀ path, '\n' ∉ path.toList →
        ((∃ config, load place (.file (template path)) = .ok config) ↔
            Token.FitsComment path.toList) ∧
          ∀ config, load place (.file (template path)) = .ok config →
            ∀ dataHome, config.plotFolder dataHome = absent.plotFolder dataHome := by
  refine ⟨{}, rfl, fun path config loaded => alike_of_load loaded, fun path single => ?_⟩
  have fits {config : Config} (loaded : load place (.file (template path)) = .ok config) :
      Token.FitsComment path.toList := by
    obtain ⟨document, parsed, -⟩ := load_file_eq_ok_iff.mp loaded
    obtain ⟨tokens, entries, scanned, -⟩ := exists_of_parsed parsed
    exact ((scan?_template_iff single).mp scanned).1
  refine ⟨⟨fun ⟨config, loaded⟩ => fits loaded,
    fun fitting => ⟨written, load_template_of_fits single fitting place⟩⟩, ?_⟩
  intro config loaded dataHome
  obtain rfl := Except.ok.inj ((load_template_of_fits single (fits loaded) place).symm.trans loaded)
  rfl

theorem template_loads_iff_usual :
    '\n' ∉ "/etc/gpresults.toml".toList ∧
      ∃ config absent, load "config.toml" .nothing = .ok absent ∧
        load "config.toml" (.file (template "/etc/gpresults.toml")) = .ok config ∧
        config.Alike absent ∧ config.plotFolder (some "/data") = absent.plotFolder (some "/data") := by
  have single : '\n' ∉ "/etc/gpresults.toml".toList := by decide
  have printed : "/etc/gpresults.toml".toList.all (fun c => !Token.isControl c) = true := by decide
  have fits : Token.FitsComment "/etc/gpresults.toml".toList :=
    ⟨_, .inl rfl, fun c member => by simpa using List.all_eq_true.mp printed c member⟩
  obtain ⟨absent, missing, alike, loads⟩ := template_loads_iff "config.toml"
  obtain ⟨loadsIff, folder⟩ := loads _ single
  obtain ⟨config, loaded⟩ := loadsIff.mpr fits
  exact ⟨single, config, absent, missing, loaded, alike _ _ loaded, folder _ loaded (some "/data")⟩

/-- A path that brings a header of its own, for the folder of plots, and a moment under it. -/
def datedPath : String :=
  "a\nversion = 1\n[output.plot_dir]\n\"$__toml_private_datetime\" = \"1979-05-27\""

/-- A path of two lines may be refused, and may set the folder of plots. -/
theorem template_not_loaded :
    load "a\nb" (.file (template "a\nb")) = .error (.notToml "a\nb") ∧
      ∃ config, load datedPath (.file (template datedPath)) = .ok config ∧
        config.plotFolder (some "/data") ≠ ({} : Config).plotFolder (some "/data") := by
  constructor
  · have run : ("a\nb".toList ++ ['\n']).foldlM Token.step ⟨[.newline], .comment⟩ =
        some ⟨[.newline, .word "b", .newline, .newline], .between⟩ := by decide
    have refused : (valueAfter? [.newline, .newline, .word "b", .newline]).isNone := by decide
    exact load_file_of_none ((valueAfter?_of_run run).trans (Option.isNone_iff_eq_none.mp refused))
      "a\nb"
  · have read : ((datedPath.toList ++ ['\n']).foldlM Token.step ⟨[.newline], .comment⟩).map
          (fun scan =>
            (scan.position, (valueAfter? scan.tokens.reverse).map (ofDocument datedPath))) =
        some (.between, some (.ok { written with plotFolder? := some "1979-05-27" })) := by
      decide +kernel
    obtain ⟨⟨before, _⟩, run, read⟩ := Option.map_eq_some_iff.mp read
    obtain ⟨rfl, usable⟩ := Prod.mk.inj read
    obtain ⟨document, valued, usable⟩ := Option.map_eq_some_iff.mp usable
    refine ⟨_, load_file_eq_ok_iff.mpr ⟨document, (valueAfter?_of_run run).trans valued, usable⟩, ?_⟩
    decide +kernel

end ScenarioResults.Config
