import ScenarioResults.Embedder.Recorder
import ScenarioResults.Proofs.Backend.Sampled
import ScenarioResults.Proofs.Page.Observed
import ScenarioResults.Proofs.Page.Paired

/-!
# Options are on offer and no more

What a backend answers when it is asked for options decides what is on offer in the forms and nothing
else. Two runs that differ only in these answers cannot be told apart by what the page answers, shows,
fetches or draws (`options_never_matter`).
-/

namespace ScenarioResults

variable {σ τ ε : Type}

/-- Two backends that behave alike in all but the options. Neither changes its ways for having been
asked for options. A page asks for tables and plots only by the fetches that it starts. -/
structure Backend.AlikeButOptions [Backend σ] [Backend τ] (related : σ → τ → Prop) : Prop where
  spawn : ∀ {first second}, related first second → ∀ request,
    (Backend.spawn request second).1 = (Backend.spawn request first).1 ∧
      related (Backend.spawn request first).2 (Backend.spawn request second).2
  cancel : ∀ {first second}, related first second → ∀ ticket,
    (Backend.cancel ticket second).1 = (Backend.cancel ticket first).1 ∧
      related (Backend.cancel ticket first).2 (Backend.cancel ticket second).2
  arrivals : ∀ {first second}, related first second →
    (Backend.arrivals second).1 = (Backend.arrivals first).1 ∧
      related (Backend.arrivals first).2 (Backend.arrivals second).2
  asked : ∀ {first second}, related first second → ∀ scenario,
    related (Backend.options scenario first).2 second ∧
      related first (Backend.options scenario second).2

/-- Backends that are alike, with the same calls for fetches on record and the same queue. -/
def ObservedBackend.Alike (related : σ → τ → Prop) :
    Backend.Relation (ObservedBackend σ) (ObservedBackend τ) :=
  fun first queue second other =>
    related first.inner second.inner ∧ second.calls = first.calls ∧ other = queue

section

variable [Backend σ] [Backend τ] {related : σ → τ → Prop}
  (alike : Backend.AlikeButOptions related)

include alike

theorem Backend.AlikeButOptions.pairs : Backend.Pairs (ObservedBackend.Alike related) := by
  constructor
  · rintro first queue second _ ⟨inner, calls, rfl⟩ request
    obtain ⟨answer, after⟩ := alike.spawn inner request
    simp only [Backend.spawn, answer, calls]
    cases (Backend.spawn request first.inner).1 with
    | error fault => exact .refused ⟨after, rfl, rfl⟩
    | ok events => exact .started ⟨after, rfl, rfl⟩
  · rintro first queue second _ ⟨inner, calls, rfl⟩ ticket
    obtain ⟨answer, after⟩ := alike.cancel inner ticket
    refine ⟨after, ?_, rfl⟩
    simp only [Backend.cancel, answer, calls]

theorem Backend.AlikeButOptions.apart : Backend.Apart (ObservedBackend.Alike related) := by
  constructor
  · rintro first queue second _ ⟨inner, calls, rfl⟩ scenario
    exact ⟨(alike.asked inner scenario).1, calls, rfl⟩
  · rintro first queue second _ ⟨inner, calls, rfl⟩ scenario
    exact ⟨(alike.asked inner scenario).2, calls, rfl⟩

end

namespace Page

/-- What an action is answered. -/
def answer [Backend σ] [Embedder ε] (page : Page σ ε) (action : PageAction) :
    List (Except ViewError (List PageEvent)) := [(page.perform action).1]

/-- Two pages that cannot be told apart by anything but the options on offer. -/
abbrev Indistinct (related : σ → τ → Prop) : Page (ObservedBackend σ) ε →
    Page (ObservedBackend τ) ε → Prop := Paired (ObservedBackend.Alike related)

section

variable [Backend σ] [Backend τ] [Embedder ε] {related : σ → τ → Prop}
  {page : Page (ObservedBackend σ) ε} {twin : Page (ObservedBackend τ) ε}

omit [Backend σ] [Backend τ] in
theorem Indistinct.process (same : Indistinct related page twin) (now : Instant) :
    Agree (ObservedBackend.Alike related) (page.process now) (twin.process now) := by
  obtain ⟨inner, calls, queue⟩ := same.backends
  have dequeued : Indistinct related { page with queue := [] } { twin with queue := [] } :=
    ⟨same.scenario, same.catalog, same.selection, same.forms, same.coordinator, same.embedder,
      inner, calls, rfl⟩
  unfold Page.process
  rw [queue]
  exact dequeued.applyEvents now page.queue

variable (alike : Backend.AlikeButOptions related)

include alike

omit [Embedder ε] in
theorem Indistinct.gather (same : Indistinct related page twin) :
    Indistinct related page.gather twin.gather := by
  obtain ⟨inner, calls, queue⟩ := same.backends
  obtain ⟨arrived, after⟩ := alike.arrivals inner
  refine ⟨same.scenario, same.catalog, same.selection, same.forms, same.coordinator,
    same.embedder, after, calls, ?_⟩
  simp only [Page.gather, Page.deliver, Backend.arrivals, arrived, queue]

/-- No action tells the pages apart. -/
theorem Indistinct.perform (same : Indistinct related page twin) (action : PageAction) :
    Agree (ObservedBackend.Alike related) (page.perform action) (twin.perform action) := by
  have pairs := alike.pairs
  cases action with
  | select key => exact same.select pairs key
  | selectSlug raw => exact same.selectSlug pairs raw
  | setFilter key filter value => exact same.setFilter pairs key filter value
  | setFilterRaw key filter raw => exact same.setFilterRaw pairs key filter raw
  | refresh => exact (same.refresh pairs).map Except.ok
  | process now => exact (Indistinct.process same now).map Except.ok
  | wait now => exact (Indistinct.process (Indistinct.gather alike same) now).map Except.ok
  | leave now =>
    have processed := Indistinct.process (same.depart pairs) now
    exact processed.map fun events =>
      (Except.ok (.selectionCleared :: events) : Except ViewError (List PageEvent))
  | loadOptions => exact ⟨rfl, same.loadOptions alike.apart⟩
  | subscribe =>
    refine ⟨rfl, ?_⟩
    simp only [Page.perform, Page.subscribe, same.selection]
    exact same.selected _
  | unsubscribe id =>
    refine ⟨rfl, ?_⟩
    simp only [Page.perform, Page.unsubscribe, same.selection]
    exact same.selected _
  | deliver events =>
    obtain ⟨inner, calls, queue⟩ := same.backends
    refine ⟨rfl, same.scenario, same.catalog, same.selection, same.forms, same.coordinator,
      same.embedder, inner, calls, ?_⟩
    simp only [Page.perform, Page.deliver, queue]

theorem Indistinct.run (same : Indistinct related page twin) (actions : List PageAction) :
    twin.along answer actions = page.along answer actions ∧
      Indistinct related (page.run actions) (twin.run actions) := by
  induction actions generalizing page twin with
  | nil => exact ⟨rfl, same⟩
  | cons action rest ih =>
    have first := Indistinct.perform alike same action
    obtain ⟨answers, after⟩ := ih first.paired
    refine ⟨?_, after⟩
    simp only [along, answer, first.answer, answers]

/-- Of two runs over backends that differ in their options only, every action has the same answer. They
leave the same selection and notices, values of filters, slots, tables and queue, and the same fetches
were started and cancelled and the same plots drawn. -/
theorem options_never_matter {backend : σ} {other : τ} (start : related backend other)
    (scenario : ScenarioId) (catalog : Catalog) (embedder : ε) (actions : List PageAction) :
    let page := (enter scenario catalog backend embedder).observe
    let twin := (enter scenario catalog other embedder).observe
    (page.run actions).plain = (enter scenario catalog backend embedder).run actions ∧
      (twin.run actions).plain = (enter scenario catalog other embedder).run actions ∧
      twin.along answer actions = page.along answer actions ∧
      (twin.run actions).selection = (page.run actions).selection ∧
      (twin.run actions).forms.forms = (page.run actions).forms.forms ∧
      (twin.run actions).coordinator = (page.run actions).coordinator ∧
      (twin.run actions).queue = (page.run actions).queue ∧
      (twin.run actions).backend.calls = (page.run actions).backend.calls ∧
      (twin.run actions).embedder = (page.run actions).embedder := by
  intro page twin
  have unnoticed : Backend.Apart fun first (queue : List FetchEvent) second other =>
      related first second ∧ other = queue :=
    ⟨fun before scenario => ⟨(alike.asked before.1 scenario).1, before.2⟩,
      fun before scenario => ⟨(alike.asked before.1 scenario).2, before.2⟩⟩
  have loaded := enter_paired unnoticed ⟨start, rfl⟩ scenario catalog embedder
  have entered : Indistinct related page twin :=
    ⟨loaded.scenario, loaded.catalog, loaded.selection, loaded.forms, loaded.coordinator,
      congrArg (fun inner => ({ inner } : ObservedEmbedder ε)) loaded.embedder, loaded.backends.1,
      rfl, loaded.backends.2⟩
  obtain ⟨answers, same⟩ := Indistinct.run alike entered actions
  obtain ⟨options, forms⟩ := same.forms
  obtain ⟨-, calls, queue⟩ := same.backends
  refine ⟨run_plain _ actions, run_plain _ actions, answers, same.selection, ?_, same.coordinator,
    queue, calls, same.embedder⟩
  rw [forms]

end

/-- A sampled backend that offers other options, and that may have been asked more often. -/
def Reoffered (backend other : SampledBackend) : Prop :=
  ∃ offered calls, other = { backend with offered, calls }

theorem reoffered_alike : Backend.AlikeButOptions Reoffered := by
  constructor
  · rintro first _ ⟨offered, calls, rfl⟩ request
    have akin : first.Akin { first with offered, calls } := ⟨rfl, rfl, rfl⟩
    by_cases deferred : first.deferred = true
    · have also : ({ first with offered, calls } : SampledBackend).deferred = true := deferred
      rw [SampledBackend.spawn_deferred deferred, SampledBackend.spawn_deferred also]
      exact ⟨rfl, offered, calls, rfl⟩
    · have prompt : first.deferred = false := Bool.eq_false_iff.mpr deferred
      have also : ({ first with offered, calls } : SampledBackend).deferred = false := prompt
      rw [SampledBackend.spawn_prompt prompt, SampledBackend.spawn_prompt also, akin.events]
      exact ⟨rfl, offered, _, rfl⟩
  · rintro first _ ⟨offered, calls, rfl⟩ ticket
    exact ⟨rfl, offered, calls, rfl⟩
  · rintro first _ ⟨offered, calls, rfl⟩
    exact ⟨rfl, offered, calls, rfl⟩
  · rintro first _ ⟨offered, calls, rfl⟩ scenario
    exact ⟨⟨offered, calls, rfl⟩, offered, _, rfl⟩

/-- A page that gets no options draws what a page draws that gets some. -/
theorem options_never_matter_unoffered :
    let backend : SampledBackend := .ofSeed 1
    let other : SampledBackend := { backend with offered := .error "no options" }
    let actions : List PageAction :=
      [.loadOptions, .select .dispatchPlot, .setFilter .dispatchPlot .loadZone (some (.text "North")),
        .process ⟨0⟩, .select .systemRps, .leave ⟨0⟩, .loadOptions]
    let page := (enter ⟨7⟩ .standard backend ({} : Recorder)).observe.run actions
    let twin := (enter ⟨7⟩ .standard other ({} : Recorder)).observe.run actions
    Reoffered backend other ∧ page.optionsError = none ∧ twin.optionsError = some "no options" ∧
      twin.embedder = page.embedder ∧ page.embedder.drawn.length = 1 := by
  intro backend other actions page twin
  have related : Reoffered backend other := ⟨_, _, rfl⟩
  obtain ⟨-, -, -, -, -, -, -, -, same⟩ := options_never_matter reoffered_alike related ⟨7⟩ .standard
    ({} : Recorder) actions
  exact ⟨related, by decide +kernel, by decide +kernel, same, by decide +kernel⟩

end Page

end ScenarioResults
