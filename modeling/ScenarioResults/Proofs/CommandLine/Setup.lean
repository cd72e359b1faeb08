import ScenarioResults.CommandLine.Run
import ScenarioResults.Proofs.Config.Usable

/-!
# What a run has read before it asks for anything

A configuration that is loaded has been checked, so its timeout can be read: of the settings only the
base URL can still be refused. With that, arguments that say what a run needs set it up
(`setup_scenario`).
-/

namespace ScenarioResults

namespace CommandLine

theorem mapError_ok {ε ε' α : Type} (f : ε → ε') (a : α) :
    (Except.ok a : Except ε α).mapError f = .ok a := rfl

theorem ok_of_mapError {ε ε' α : Type} {f : ε → ε'} {answer : Except ε α} {a : α}
    (mapped : answer.mapError f = .ok a) : answer = .ok a := by
  cases answer with
  | error error => cases mapped
  | ok other => exact congrArg Except.ok (Except.ok.inj mapped)

theorem ok_of_bind {ε α β : Type} {answer : Except ε α} {next : α → Except ε β} {b : β}
    (bound : answer >>= next = .ok b) : ∃ a, answer = .ok a ∧ next a = .ok b := by
  cases answer with
  | error error => cases bound
  | ok a => exact ⟨a, rfl, bound⟩

theorem timeout_of_load {path : String} {file : FileEntry} {config : Config}
    (loaded : Config.load path file = .ok config) : ∃ timeout, config.timeout = .ok timeout := by
  obtain ⟨timeout, read, -⟩ := Config.timeout_of_sound (Config.sound_of_load loaded)
  exact ⟨timeout, read⟩

theorem setup_scenario {around : Surroundings} {arguments : Arguments} {config : Config}
    {timeout : Duration} {client : Client} {scenario : ScenarioId}
    (loaded : Config.load arguments.configPath (around.fileAt arguments.configPath) = .ok config)
    (timed : config.timeout = .ok timeout)
    (accepted : Client.ofText config.baseUrl around.network around.decoder = .ok client)
    (named : arguments.scenario?.map ScenarioId.ofRoute = some (.ok scenario)) :
    setup around arguments = .ok ⟨config, timeout, client, some scenario⟩ := by
  obtain ⟨raw, said, known⟩ := Option.map_eq_some_iff.mp named
  simp only [setup, loaded, accepted, timed, said, known, mapError_ok, bind, Except.bind,
    Option.mapM_some]
  rfl

/-- What is set up was read, reached and named. -/
theorem of_setup {around : Surroundings} {arguments : Arguments} {ready : Setup}
    (set : setup around arguments = .ok ready) :
    Config.load arguments.configPath (around.fileAt arguments.configPath) = .ok ready.config ∧
      ready.config.timeout = .ok ready.timeout ∧
      Client.ofText ready.config.baseUrl around.network around.decoder = .ok ready.client ∧
      arguments.scenario?.map ScenarioId.ofRoute = ready.scenario?.map .ok := by
  obtain ⟨config, loaded, set⟩ := ok_of_bind set
  obtain ⟨timeout, timed, set⟩ := ok_of_bind set
  obtain ⟨client, reached, set⟩ := ok_of_bind set
  obtain ⟨scenario?, named, set⟩ := ok_of_bind set
  cases set
  refine ⟨ok_of_mapError loaded, ok_of_mapError timed, ok_of_mapError reached, ?_⟩
  cases said : arguments.scenario? with
  | none =>
    rw [said] at named
    obtain rfl := Except.ok.inj named
    rfl
  | some raw =>
    rw [said, Option.mapM_some] at named
    cases known : ScenarioId.ofRoute raw with
    | error error => rw [known] at named; cases named
    | ok scenario =>
      rw [known] at named
      obtain rfl := Except.ok.inj named
      exact congrArg some known

/-- Some text is printed in place of everything else. -/
def Arguments.Prints (arguments : Arguments) : Prop :=
  arguments.showsHelp ∨ arguments.printsConfigPath ∨ arguments.printsTemplate ∨
    arguments.listsViews

theorem printed?_eq_none {arguments : Arguments} :
    printed? arguments = none ↔ ¬ arguments.Prints := by
  unfold printed? Arguments.Prints
  grind

end CommandLine

end ScenarioResults
