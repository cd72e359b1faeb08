import ScenarioResults.Proofs.Text.Percent
import ScenarioResults.SurfaceName

/-!
# Which values share a surface

The segments of a name hold neither a hyphen nor a tilde, whatever the values are. So the hyphens of a
name stand between its segments and nowhere else, and a name tells for each filter of its plot whether
it is set and what it shows (`ofValues_eq_iff`). The words of the standard plots hold no hyphen either,
so a name tells its plot too.
-/

namespace ScenarioResults

/-- What a filter shows, if it is set. -/
def FilterValues.shown? (values : FilterValues) (filter : Filter) : Option String :=
  (values.get? filter).map FilterValue.display

namespace Surface

/-! ### Segments -/

/-- The characters that stand for themselves in a segment. -/
def isPlain (c : Char) : Bool := c.isAlphanum || c == '_' || c == '.'

theorem segmentChar_of_ordinary {c : Char} (hyphen : c ≠ '-') (tilde : c ≠ '~') :
    segmentChar c = [c] := by
  simp [segmentChar, hyphen, tilde]

theorem flatMap_segmentChar_of_ordinary {cs : List Char} (ordinary : ∀ c ∈ cs, c ≠ '-' ∧ c ≠ '~') :
    cs.flatMap segmentChar = cs := by
  induction cs with
  | nil => rfl
  | cons c rest ih =>
    obtain ⟨hyphen, tilde⟩ := ordinary c List.mem_cons_self
    rw [List.flatMap_cons, segmentChar_of_ordinary hyphen tilde,
      ih fun d member => ordinary d (List.mem_cons_of_mem _ member), List.singleton_append]

theorem flatMap_segmentChar_percentChar (c : Char) :
    (Text.percentChar Text.isUnreserved c).flatMap segmentChar = Text.percentChar isPlain c := by
  by_cases hyphen : c = '-'
  · subst hyphen
    decide
  by_cases tilde : c = '~'
  · subst tilde
    decide
  have kept : Text.isUnreserved c = isPlain c := by
    simp [Text.isUnreserved, isPlain, beq_eq_false_iff_ne.mpr hyphen, beq_eq_false_iff_ne.mpr tilde]
  unfold Text.percentChar
  rw [kept]
  split
  · simp [segmentChar_of_ordinary hyphen tilde]
  · apply flatMap_segmentChar_of_ordinary
    intro d member
    obtain ⟨b, -, digit⟩ := List.mem_flatMap.mp member
    rcases Text.of_mem_percentByte digit with rfl | letter
    · decide
    · constructor
      · rintro rfl
        cases letter
      · rintro rfl
        cases letter

/-- Both steps of escaping are one: hyphens and tildes are among the characters to be encoded. -/
theorem segment_eq (value : FilterValue) :
    segment value = Text.percentEncodeWith isPlain value.display.toList := by
  unfold segment Text.percentEncodeWith
  rw [List.flatMap_assoc]
  exact congrArg (value.display.toList.flatMap ·) (funext flatMap_segmentChar_percentChar)

theorem segment_inj {first second : FilterValue} :
    segment first = segment second ↔ first.display = second.display := by
  rw [segment_eq, segment_eq, Text.percentEncodeWith_inj (by decide), String.toList_inj]

theorem of_mem_segment {value : FilterValue} {c : Char} (member : c ∈ segment value) :
    c = '%' ∨ isPlain c = true := by
  rw [segment_eq] at member
  rcases Text.of_mem_percentEncodeWith member with plain | percent | letter
  · exact .inr plain
  · exact .inl percent
  · exact .inr (by simp [isPlain, letter])

theorem not_mem_segment {c : Char} (value : FilterValue) (percent : c ≠ '%')
    (escaped : isPlain c = false) : c ∉ segment value := by
  intro member
  rcases of_mem_segment member with same | plain
  · exact percent same
  · rw [escaped] at plain
    cases plain

/-- The segment of a filter, set or not. -/
def mark (value : Option FilterValue) : List Char := (value.map segment).getD unsetSegment

theorem hyphen_not_mem_mark (value : Option FilterValue) : '-' ∉ mark value := by
  cases value with
  | none => decide
  | some value => exact not_mem_segment value (by decide) (by decide)

/-- No segment is that of an unset filter. -/
theorem segment_ne_unset (value : FilterValue) : segment value ≠ unsetSegment := by
  intro same
  have tilde : '~' ∈ segment value := by
    rw [same]
    exact List.mem_singleton.mpr rfl
  exact not_mem_segment value (by decide) (by decide) tilde

theorem mark_inj {first second : Option FilterValue} :
    mark first = mark second ↔ first.map FilterValue.display = second.map FilterValue.display := by
  cases first with
  | none =>
    cases second with
    | none => exact iff_of_true rfl rfl
    | some value => exact iff_of_false (segment_ne_unset value).symm (by simp)
  | some value =>
    cases second with
    | none => exact iff_of_false (segment_ne_unset value) (by simp)
    | some other => exact segment_inj.trans (by simp)

/-! ### Names taken apart at their hyphens -/

/-- What can follow a segment: nothing, or the next hyphen. -/
def Follows (rest : List Char) : Prop := ∀ c ∈ rest.head?, c = '-'

theorem follows_hyphen (rest : List Char) : Follows ('-' :: rest) := by simp [Follows]

theorem takeWhile_segment {segment rest : List Char} (clean : '-' ∉ segment)
    (follows : Follows rest) : (segment ++ rest).takeWhile (· != '-') = segment := by
  have inside : ∀ c ∈ segment, (c != '-') = true := by
    intro c member
    simp only [bne_iff_ne]
    rintro rfl
    exact clean member
  have outside : rest.takeWhile (· != '-') = [] := by
    cases rest with
    | nil => rfl
    | cons c rest =>
      have hyphen : c = '-' := follows c rfl
      simp [hyphen]
  rw [List.takeWhile_append_of_pos inside, outside, List.append_nil]

theorem segment_append_inj {first second rest other : List Char} (clean : '-' ∉ first)
    (alsoClean : '-' ∉ second) (follows : Follows rest) (alsoFollows : Follows other) :
    first ++ rest = second ++ other ↔ first = second ∧ rest = other := by
  constructor
  · intro same
    have taken := congrArg (List.takeWhile (· != '-')) same
    rw [takeWhile_segment clean follows, takeWhile_segment alsoClean alsoFollows] at taken
    subst taken
    exact ⟨rfl, List.append_cancel_left same⟩
  · rintro ⟨rfl, rfl⟩
    rfl

theorem placed_of_ne {filter : Filter} (values : FilterValues) (early : filter ≠ .yAxisMax) :
    placed values filter = '-' :: mark (values.get? filter) := if_neg early

theorem follows_placed (filters : List Filter) (values : FilterValues) {last : List Char}
    (follows : Follows last) : Follows (filters.flatMap (placed values) ++ last) := by
  induction filters with
  | nil => exact follows
  | cons filter rest ih =>
    rw [List.flatMap_cons, List.append_assoc]
    by_cases late : filter = .yAxisMax
    · rw [placed, if_pos late]
      exact ih
    · rw [placed_of_ne values late]
      exact follows_hyphen _

theorem placed_append_inj (filters : List Filter) {first second : FilterValues}
    {last other : List Char} (follows : Follows last) (alsoFollows : Follows other) :
    filters.flatMap (placed first) ++ last = filters.flatMap (placed second) ++ other ↔
      (∀ filter ∈ filters, filter ≠ .yAxisMax → first.shown? filter = second.shown? filter) ∧
        last = other := by
  induction filters with
  | nil => simp
  | cons filter rest ih =>
    rw [List.flatMap_cons, List.flatMap_cons, List.append_assoc, List.append_assoc,
      List.forall_mem_cons]
    by_cases late : filter = .yAxisMax
    · rw [placed, placed, if_pos late, if_pos late, List.nil_append, List.nil_append, ih]
      simp [late]
    · rw [placed_of_ne first late, placed_of_ne second late, List.cons_append, List.cons_append,
        List.cons_inj_right,
        segment_append_inj (hyphen_not_mem_mark _) (hyphen_not_mem_mark _)
          (follows_placed rest first follows) (follows_placed rest second alsoFollows),
        mark_inj, ih, and_assoc]
      simp only [late, ne_eq, not_false_eq_true, true_implies]
      rfl

theorem follows_maximum (spec : PlotSpec) (values : FilterValues) :
    Follows (maximum spec values) := by
  unfold maximum
  split
  · cases values.get? .yAxisMax with
    | none => simp [Follows]
    | some value => exact follows_hyphen _
  · simp [Follows]

theorem maximum_inj {spec : PlotSpec} {first second : FilterValues} :
    maximum spec first = maximum spec second ↔
      (.yAxisMax ∈ spec.filters → first.shown? .yAxisMax = second.shown? .yAxisMax) := by
  unfold maximum FilterValues.shown?
  by_cases named : .yAxisMax ∈ spec.filters
  · -- An unset maximum leaves no trace, and a set one at least its hyphen.
    simp only [List.contains_iff_mem.mpr named, if_true, named, true_implies]
    cases first.get? .yAxisMax with
    | none => cases second.get? .yAxisMax <;> simp
    | some value => cases second.get? .yAxisMax <;> simp [segment_inj]
  · simp [named]

/-- A name without the word of its plot. -/
def tail (spec : PlotSpec) (values : FilterValues) : List Char :=
  spec.filters.flatMap (placed values) ++ maximum spec values

theorem follows_tail (spec : PlotSpec) (values : FilterValues) : Follows (tail spec values) :=
  follows_placed spec.filters values (follows_maximum spec values)

theorem tail_inj {spec : PlotSpec} {first second : FilterValues} :
    tail spec first = tail spec second ↔
      ∀ filter ∈ spec.filters, first.shown? filter = second.shown? filter := by
  unfold tail
  rw [placed_append_inj spec.filters (follows_maximum spec first) (follows_maximum spec second),
    maximum_inj]
  constructor
  · rintro ⟨early, late⟩ filter member
    by_cases same : filter = .yAxisMax
    · subst same
      exact late member
    · exact early filter member same
  · intro shown
    exact ⟨fun filter member _ => shown filter member, shown .yAxisMax⟩

theorem name_ofValues (spec : PlotSpec) (values : FilterValues) :
    (ofValues spec values).name.toList = spec.surface.toList ++ tail spec values := by
  simp [ofValues, tail]

theorem ofValues_inj_toList {spec other : PlotSpec} {first second : FilterValues} :
    ofValues spec first = ofValues other second ↔
      spec.surface.toList ++ tail spec first = other.surface.toList ++ tail other second := by
  rw [← name_ofValues, ← name_ofValues, String.toList_inj, Surface.mk.injEq]

/-- Two rows of values give a plot the same surface if each of its filters shows the same. -/
theorem ofValues_eq_iff {spec : PlotSpec} {first second : FilterValues} :
    ofValues spec first = ofValues spec second ↔
      ∀ filter ∈ spec.filters, first.shown? filter = second.shown? filter := by
  rw [ofValues_inj_toList, List.append_cancel_left_eq, tail_inj]

/-! ### The standard plots -/

theorem standard_word_clean : ∀ plot ∈ Catalog.standard.plots, '-' ∉ plot.2.surface.toList := by
  decide

theorem standard_word_distinct : ∀ plot ∈ Catalog.standard.plots,
    ∀ other ∈ Catalog.standard.plots, plot.2.surface = other.2.surface → plot = other := by
  decide

theorem of_mem_mark {value : Option FilterValue} {c : Char} (member : c ∈ mark value) :
    c = '~' ∨ c = '%' ∨ isPlain c = true := by
  cases value with
  | none => exact .inl (List.mem_singleton.mp member)
  | some value => exact .inr (of_mem_segment member)

theorem of_mem_tail {spec : PlotSpec} {values : FilterValues} {c : Char}
    (member : c ∈ tail spec values) : c = '-' ∨ c = '~' ∨ c = '%' ∨ isPlain c = true := by
  rcases List.mem_append.mp member with early | late
  · obtain ⟨filter, -, inside⟩ := List.mem_flatMap.mp early
    unfold placed at inside
    split at inside
    · cases inside
    · exact (List.mem_cons.mp inside).imp_right of_mem_mark
  · unfold maximum at late
    split at late
    · cases set : values.get? .yAxisMax with
      | none => simp [set] at late
      | some value =>
        rw [set] at late
        exact (List.mem_cons.mp late).imp_right fun inside => .inr (of_mem_segment inside)
    · cases late

/-- Which characters the name of a standard plot is made of. -/
theorem of_mem_name {plot : ViewDescriptor × PlotSpec} (listed : plot ∈ Catalog.standard.plots)
    {values : FilterValues} {c : Char} (member : c ∈ (ofValues plot.2 values).name.toList) :
    c = '-' ∨ c = '~' ∨ c = '%' ∨ isPlain c = true := by
  have words : Catalog.standard.plots.all (fun plot => plot.2.surface.toList.all isPlain) = true := by
    decide
  rw [name_ofValues] at member
  rcases List.mem_append.mp member with word | rest
  · exact .inr (.inr (.inr (List.all_eq_true.mp (List.all_eq_true.mp words plot listed) c word)))
  · exact of_mem_tail rest

/-- Standard plots that share a surface are the same plot. -/
theorem plot_eq_of_ofValues_eq {plot other : ViewDescriptor × PlotSpec}
    (listed : plot ∈ Catalog.standard.plots) (alsoListed : other ∈ Catalog.standard.plots)
    {first second : FilterValues} (same : ofValues plot.2 first = ofValues other.2 second) :
    plot = other := by
  have names := ofValues_inj_toList.mp same
  have words := (segment_append_inj (standard_word_clean plot listed)
    (standard_word_clean other alsoListed) (follows_tail _ _) (follows_tail _ _)).mp names
  exact standard_word_distinct plot listed other alsoListed (String.toList_inj.mp words.1)

/-- A surface is shared exactly by the rows of values that show the same for every filter of the
plot, and two standard plots never share one. -/
theorem shared_iff_shown :
    (∀ (spec : PlotSpec) (first second : FilterValues),
      ofValues spec first = ofValues spec second ↔
        ∀ filter ∈ spec.filters, first.shown? filter = second.shown? filter) ∧
    ∀ plot ∈ Catalog.standard.plots, ∀ other ∈ Catalog.standard.plots,
      ∀ first second : FilterValues, ofValues plot.2 first = ofValues other.2 second ↔
        plot = other ∧ ∀ filter ∈ plot.2.filters, first.shown? filter = second.shown? filter := by
  refine ⟨fun _ _ _ => ofValues_eq_iff, ?_⟩
  intro plot listed other alsoListed first second
  constructor
  · intro same
    obtain rfl := plot_eq_of_ofValues_eq listed alsoListed same
    exact ⟨rfl, ofValues_eq_iff.mp same⟩
  · rintro ⟨rfl, shown⟩
    exact ofValues_eq_iff.mpr shown

/-- A hyphen inside a value is not taken for one between values. -/
theorem shared_iff_shown_hyphen :
    let spec : PlotSpec := ⟨"dispatchPlot", Catalog.dispatchFilters⟩
    let plot := (Catalog.plot .dispatchPlot "Dispatch Plot" "dispatchPlot" spec.filters, spec)
    let first : FilterValues := [(.loadZone, some (.text "A-B")), (.horizon, some (.text "C"))]
    let second : FilterValues := [(.loadZone, some (.text "A")), (.horizon, some (.text "B-C"))]
    plot ∈ Catalog.standard.plots ∧ ofValues spec first ≠ ofValues spec second := by
  intro spec plot first second
  have listed : plot ∈ Catalog.standard.plots := by decide
  refine ⟨listed, fun same => ?_⟩
  have shown := ((shared_iff_shown.2 plot listed plot listed first second).mp same).2
  have zones := shown .loadZone (by decide)
  revert zones
  decide

end Surface

end ScenarioResults
