import ScenarioResults.Proofs.Form.Written
import ScenarioResults.Proofs.Surface.Request

/-!
# Where the catalog and the forms agree

A view is resolved to the first entry that it has in the catalog. Its form, if it has one, is of the
last entry that is a plot (`formSpec?_eq_lastPlot?`), whatever comes first. The two are looked up apart,
and for a view that is listed once they come to the same. `forms_agree_iff` says of every catalog which
views they agree on, and `forms_disagree` has a table with a form and a plot with the form of another.
-/

namespace ScenarioResults

namespace ViewDescriptor

variable {view other : ViewDescriptor}

theorem plotSpec?_eq_none_iff : view.plotSpec? = none ↔ view.kind ≠ .plot := by
  unfold plotSpec? kind
  cases view.fetch <;> simp

theorem plotSpec?_eq_iff (plot : view.kind = .plot) :
    view.plotSpec? = other.plotSpec? ↔ view.fetch = other.fetch := by
  unfold kind at plot
  unfold plotSpec?
  cases given : view.fetch with
  | table => simp [given] at plot
  | plot spec => cases other.fetch <;> simp

end ViewDescriptor

namespace Catalog

variable {catalog : Catalog} {key : ViewKey}

def entries (catalog : Catalog) (key : ViewKey) : List ViewDescriptor :=
  catalog.views.filter fun view => view.key = key

/-- The last entry of a view that is a plot. -/
def lastPlot? (catalog : Catalog) (key : ViewKey) : Option ViewDescriptor :=
  ((catalog.entries key).filter fun view => view.kind = .plot).getLast?

/-- If a view is listed as a plot, the last such entry is fetched as the first entry of all is. -/
def Settled (catalog : Catalog) (key : ViewKey) : Prop :=
  ∀ last ∈ catalog.lastPlot? key, ∀ first ∈ (catalog.entries key).head?, last.fetch = first.fetch

instance : Decidable (catalog.Settled key) :=
  inferInstanceAs <| Decidable <|
    ∀ last ∈ catalog.lastPlot? key, ∀ first ∈ (catalog.entries key).head?, last.fetch = first.fetch

theorem mem_entries {view : ViewDescriptor} :
    view ∈ catalog.entries key ↔ view ∈ catalog.views ∧ view.key = key := by
  simp [entries]

theorem mem_of_lastPlot? {last : ViewDescriptor} (found : last ∈ catalog.lastPlot? key) :
    last ∈ catalog.entries key ∧ last.kind = .plot := by
  simpa using List.mem_of_getLast? found

/-! ### The two lookups -/

theorem head?_entries (catalog : Catalog) (key : ViewKey) :
    (catalog.entries key).head? = (catalog.resolve key).toOption := by
  simp only [entries, List.head?_filter, resolve, beq_eq_decide]
  cases catalog.views.find? fun view => view.key = key <;> rfl

theorem formSpec?_eq_lastPlot? (catalog : Catalog) (key : ViewKey) :
    catalog.formSpec? key = (catalog.lastPlot? key).bind ViewDescriptor.plotSpec? := by
  have last : catalog.lastPlot? key =
      catalog.views.reverse.find? fun view => view.kind = .plot ∧ view.key = key := by
    rw [lastPlot?, entries, List.filter_filter, List.getLast?_eq_head?_reverse, ← List.filter_reverse,
      List.head?_filter]
    simp
  have either (view : ViewDescriptor) :
      (view.plotSpec?.map fun spec => (view, spec)).any (fun plot => plot.1.key = key) =
        decide (view.kind = .plot ∧ view.key = key) := by
    unfold ViewDescriptor.plotSpec? ViewDescriptor.kind
    cases view.fetch <;> simp
  rw [formSpec?, plots, ← List.filterMap_reverse, List.find?_filterMap, last]
  simp only [either]
  cases catalog.views.reverse.find? fun view => view.kind = .plot ∧ view.key = key with
  | none => rfl
  | some view => simp [Function.comp_def]

/-- A view is settled if its form is of the plot that its first entry is. -/
theorem settled_iff :
    catalog.Settled key ↔
      catalog.formSpec? key = (catalog.resolve key).toOption.bind ViewDescriptor.plotSpec? := by
  rw [formSpec?_eq_lastPlot?, ← head?_entries, Settled]
  cases first? : (catalog.entries key).head? with
  | none =>
    have nothing : catalog.entries key = [] := List.head?_eq_none_iff.mp first?
    simp [lastPlot?, nothing]
  | some first =>
    cases last? : catalog.lastPlot? key with
    | none =>
      have tables := List.filter_eq_nil_iff.mp (List.getLast?_eq_none_iff.mp last?)
      have table : first.kind ≠ .plot := by simpa using tables first (List.mem_of_head? first?)
      simp [ViewDescriptor.plotSpec?_eq_none_iff.mpr table]
    | some last =>
      simp [ViewDescriptor.plotSpec?_eq_iff (mem_of_lastPlot? last?).2]

/-- A view whose entries are all fetched alike is settled. -/
theorem settled_of_alike
    (alike : ∀ view ∈ catalog.entries key, ∀ other ∈ catalog.entries key, view.fetch = other.fetch) :
    catalog.Settled key :=
  fun last isLast first isFirst =>
    alike last (mem_of_lastPlot? isLast).1 first (List.mem_of_head? isFirst)

end Catalog

namespace ParameterForms

/-- The form of a view is of the plot that the view is resolved to. It takes values for the filters of
that plot, and whatever it holds for them, in their order, is asked for and names the surface. -/
structure Serves (forms : ParameterForms) (descriptor : ViewDescriptor) (spec : PlotSpec)
    (form : ParameterForm) : Prop where
  held : forms.form descriptor.key = .ok form
  own : form.key = descriptor.key
  fits : form.spec = spec
  takes : ∀ filter value,
    (forms.setFilter descriptor.key filter value).isOk ↔ filter ∈ spec.filters
  asks : ∀ (coordinator : Coordinator) scenario,
    coordinator.Asks descriptor scenario forms form
      (.ofValues spec (spec.filters.map fun filter => (filter, form.value? filter)))
      (spec.filters.map fun filter => ParameterForm.argument filter (form.value? filter))

/-- What the catalog says of a view is what the forms say: a plot has a form of that very plot, and
neither a table nor a view that is not listed has any. -/
def Agrees (forms : ParameterForms) (catalog : Catalog) (key : ViewKey) : Prop :=
  match catalog.resolve key with
  | .error _ => forms.form key = .error (.notAPlot key)
  | .ok descriptor =>
    match descriptor.fetch with
    | .table => forms.form key = .error (.notAPlot key)
    | .plot spec => ∃ form, forms.Serves descriptor spec form

section

variable {forms : ParameterForms} {catalog : Catalog} {key : ViewKey}
  (shape : forms.shape = (ofCatalog catalog).shape)
include shape

theorem form_eq_error_iff :
    forms.form key = .error (.notAPlot key) ↔ catalog.formSpec? key = none := by
  have known := shape_eq_formSpec? shape key
  constructor
  · intro refused
    cases given : catalog.formSpec? key with
    | none => rfl
    | some spec =>
      rw [given] at known
      obtain ⟨form, found, -⟩ := form_of_shape known
      rw [found] at refused
      cases refused
  · intro absent
    rw [absent, Option.map_none, ParameterForms.shape, Option.map_eq_none_iff] at known
    simp only [ParameterForms.form, known]

theorem exists_serves_iff {descriptor : ViewDescriptor} {spec : PlotSpec}
    (plot : descriptor.fetch = .plot spec) :
    (∃ form, forms.Serves descriptor spec form) ↔
      catalog.formSpec? descriptor.key = some spec := by
  have known := shape_eq_formSpec? shape descriptor.key
  constructor
  · rintro ⟨form, serves⟩
    rw [form_shape serves.held] at known
    obtain ⟨given, found, same⟩ := Option.map_eq_some_iff.mp known.symm
    obtain rfl : given = form.spec := (Prod.mk.inj same).2
    rw [found, serves.fits]
  · intro given
    rw [given] at known
    obtain ⟨form, found, own, rfl⟩ := form_of_shape known
    refine ⟨form, found, own, rfl, ?_, ?_⟩
    · intro filter value
      rw [setFilter_isOk_iff shape]
      simp [given]
    · intro coordinator scenario
      have sent : form.arguments =
          form.spec.filters.map fun filter => ParameterForm.argument filter (form.value? filter) := by
        simp [ParameterForm.arguments, ParameterForm.currentValues]
      rw [← sent]
      exact Coordinator.asks_of_form plot found own coordinator scenario

theorem agrees_iff : forms.Agrees catalog key ↔ catalog.Settled key := by
  rw [Catalog.settled_iff]
  cases resolved : catalog.resolve key with
  | error error =>
    simp only [Agrees, resolved, form_eq_error_iff shape, Except.toOption, Option.bind_none]
  | ok descriptor =>
    obtain rfl := Catalog.key_of_resolve resolved
    cases fetch : descriptor.fetch with
    | table =>
      simp only [Agrees, resolved, fetch, form_eq_error_iff shape, Except.toOption,
        Option.bind_some, ViewDescriptor.plotSpec?]
    | plot spec =>
      simp only [Agrees, resolved, fetch, exists_serves_iff shape fetch, Except.toOption,
        Option.bind_some, ViewDescriptor.plotSpec?]

end

/-- Whatever has been done to the forms of a catalog, they agree with it on the views that are settled
and on no other. So they agree on every view if no view is listed with two ways to fetch it. -/
theorem forms_agree_iff (catalog : Catalog) (actions : List FormAction) :
    let forms := (ofCatalog catalog).run actions
    (∀ key, forms.Agrees catalog key ↔ catalog.Settled key) ∧
      ((∀ view ∈ catalog.views, ∀ other ∈ catalog.views,
          view.key = other.key → view.fetch = other.fetch) →
        ∀ key, forms.Agrees catalog key) := by
  intro forms
  have shape : forms.shape = (ofCatalog catalog).shape := shape_run _ actions
  refine ⟨fun key => agrees_iff shape, ?_⟩
  intro alike key
  refine (agrees_iff shape).mpr (Catalog.settled_of_alike ?_)
  intro view among other also
  rw [Catalog.mem_entries] at among also
  exact alike view among.1 other also.1 (among.2.trans also.2.symm)

/-- A plot that is listed twice with the same filters, and a table between. -/
theorem forms_agree_iff_repeated :
    let plot := Catalog.plot .energyPlot "Energy" "energyPlot" [.loadZone, .stage]
    let catalog : Catalog := ⟨[plot, Catalog.table .systemRps "RPS", { plot with caption := "Plot" }]⟩
    let forms := (ofCatalog catalog).run [.set .energyPlot .stage (some (.text "2"))]
    (∀ view ∈ catalog.views, ∀ other ∈ catalog.views,
        view.key = other.key → view.fetch = other.fetch) ∧
      (∃ form, forms.Serves plot ⟨"energyPlot", [.loadZone, .stage]⟩ form) ∧
      forms.form .systemRps = .error (.notAPlot .systemRps) ∧
      forms.form .costPlot = .error (.notAPlot .costPlot) := by
  intro plot catalog forms
  have alike : ∀ view ∈ catalog.views, ∀ other ∈ catalog.views,
      view.key = other.key → view.fetch = other.fetch := by decide
  have agree := (forms_agree_iff catalog [.set .energyPlot .stage (some (.text "2"))]).2 alike
  exact ⟨alike, agree .energyPlot, agree .systemRps, agree .costPlot⟩

/-- A view that is resolved to a table but has the form of a plot, and one that is resolved to a plot
but has the form of another, with other filters. -/
theorem forms_disagree :
    let table := Catalog.table .energyPlot "Energy"
    let zoned := Catalog.plot .energyPlot "Energy" "energyPlot" [.loadZone]
    let staged := Catalog.plot .energyPlot "Energy" "energyPlot" [.stage]
    ((⟨[table, zoned]⟩ : Catalog).resolve .energyPlot = .ok table ∧
      (∃ form, (ofCatalog ⟨[table, zoned]⟩).form .energyPlot = .ok form) ∧
      ¬ (ofCatalog ⟨[table, zoned]⟩).Agrees ⟨[table, zoned]⟩ .energyPlot) ∧
    ((⟨[zoned, staged]⟩ : Catalog).resolve .energyPlot = .ok zoned ∧
      (∃ form, (ofCatalog ⟨[zoned, staged]⟩).form .energyPlot = .ok form ∧
        form.spec.filters = [.stage]) ∧
      ¬ (ofCatalog ⟨[zoned, staged]⟩).Agrees ⟨[zoned, staged]⟩ .energyPlot) := by
  intro table zoned staged
  refine ⟨⟨rfl, ⟨_, rfl⟩, ?_⟩, ⟨rfl, ⟨_, rfl, rfl⟩, ?_⟩⟩
  · rw [agrees_iff rfl]
    decide
  · rw [agrees_iff rfl]
    decide

end ParameterForms

end ScenarioResults
