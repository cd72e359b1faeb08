import ScenarioResults.Toml.MomentTable
import ScenarioResults.Toml.Node

/-!
# What a document has under its headers

What a header opens stays open, and what is defined under it stands (`Stands`): later headers and later
definitions neither replace it nor add to it. So it is in the value of the document too, unless its table
stands for a moment.
-/

namespace ScenarioResults.Toml

namespace Entries

variable {document next : Entries} {header key : String} {node : Node} {value : Value}

theorem lookup_put_self (entries : Entries) : (put key node entries).lookup key = some node := by
  induction entries with
  | nil => exact List.lookup_cons_self
  | cons pair rest ih =>
    obtain ⟨other, old⟩ := pair
    by_cases same : other = key
    · rw [put, if_pos same, List.lookup_cons_self]
    · have different : (key == other) = false := beq_eq_false_iff_ne.mpr (Ne.symm same)
      rw [put, if_neg same, List.lookup_cons, different, ih]

theorem lookup_put_of_ne {other : String} (different : other ≠ key) (entries : Entries) :
    (put key node entries).lookup other = entries.lookup other := by
  induction entries with
  | nil => rw [put, List.lookup_cons, beq_eq_false_iff_ne.mpr different]
  | cons pair rest ih =>
    obtain ⟨first, old⟩ := pair
    by_cases same : first = key
    · subst same
      rw [put, if_pos rfl, List.lookup_cons, List.lookup_cons, beq_eq_false_iff_ne.mpr different]
    · rw [put, if_neg same, List.lookup_cons, List.lookup_cons, ih]

theorem lookup_concat_self (absent : document.lookup key = none) :
    (document ++ [(key, node)]).lookup key = some node := by
  rw [List.lookup_append, absent, Option.none_or, List.lookup_cons_self]

theorem lookup_concat_of_ne {other : String} (different : other ≠ key) :
    (document ++ [(key, node)]).lookup other = document.lookup other := by
  rw [List.lookup_append, List.lookup_cons, beq_eq_false_iff_ne.mpr different, List.lookup_nil,
    Option.or_none]

/-- The table of a header was opened by the header. -/
def Opened (document : Entries) (header : String) : Prop :=
  ∃ below, document.lookup header = some (.table .header below)

/-- A value is defined in the table that a header opened. -/
def Stands (document : Entries) (header key : String) (value : Value) : Prop :=
  ∃ below, document.lookup header = some (.table .header below) ∧
    below.lookup key = some (.value value)

/-- A header opens its table, which it had not opened before, and touches no other one. -/
theorem openTable_eq_some (opens : document.openTable [] header = some next) :
    next.Opened header ∧ ¬ document.Opened header ∧
      ∀ other, other ≠ header → next.lookup other = document.lookup other := by
  simp only [openTable, under, bind, Option.bind_eq_some_iff, Prod.exists] at opens
  obtain ⟨origin, entries, opened, same⟩ := opens
  cases same
  split at opened
  next absent =>
    cases opened
    exact ⟨⟨[], lookup_concat_self absent⟩, fun known => by simp [Opened, absent] at known,
      fun other different => lookup_concat_of_ne different⟩
  next inner implied =>
    cases opened
    exact ⟨⟨inner, lookup_put_self document⟩, fun known => by simp [Opened, implied] at known,
      fun other different => lookup_put_of_ne different document⟩
  next => cases opened

theorem define_nil (document : Entries) (key : String) (value : Value) :
    document.define [] key value =
      if document.lookup key = none then some (document ++ [(key, .value value)]) else none := by
  have plain : Origin.header = .dotted ↔ ([] : List String) ≠ [] := by simp
  simp only [define, under, plain, true_and]
  split <;> rfl

/-- A line under a header adds a value to the table of the header, and touches no other one. -/
theorem defineUnder_eq_some {below : Entries}
    (opened : document.lookup header = some (.table .header below))
    (defines : document.defineUnder [header] [] key value = some next) :
    below.lookup key = none ∧
      next.lookup header = some (.table .header (below ++ [(key, .value value)])) ∧
      ∀ other, other ≠ header → next.lookup other = document.lookup other := by
  have implied : ¬ (Origin.implied = .dotted ∧ True) := by decide
  simp only [defineUnder, define_nil, under, opened, if_neg implied] at defines
  split at defines
  next absent =>
    cases defines
    exact ⟨absent, lookup_put_self document, fun _ different => lookup_put_of_ne different document⟩
  next => cases defines

theorem Stands.opened (stands : document.Stands header key value) : document.Opened header := by
  obtain ⟨below, table, -⟩ := stands
  exact ⟨below, table⟩

/-- What stands is not touched when a table is opened. -/
theorem Stands.openTable {other : String} (stands : document.Stands header key value)
    (opens : document.openTable [] other = some next) : next.Stands header key value := by
  obtain ⟨-, fresh, untouched⟩ := openTable_eq_some opens
  have different : header ≠ other := by
    rintro rfl
    exact fresh stands.opened
  obtain ⟨below, table, entry⟩ := stands
  exact ⟨below, (untouched header different).trans table, entry⟩

theorem stands_of_defineUnder (opened : document.Opened header)
    (defines : document.defineUnder [header] [] key value = some next) :
    next.Stands header key value := by
  obtain ⟨below, table⟩ := opened
  obtain ⟨absent, grown, -⟩ := defineUnder_eq_some table defines
  exact ⟨_, grown, lookup_concat_self absent⟩

/-- What stands is not touched when something else is defined. -/
theorem Stands.defineUnder {other name : String} {added : Value}
    (stands : document.Stands header key value) (opened : document.Opened other)
    (defines : document.defineUnder [other] [] name added = some next) :
    next.Stands header key value := by
  obtain ⟨below, table⟩ := opened
  obtain ⟨absent, grown, untouched⟩ := defineUnder_eq_some table defines
  obtain ⟨entries, known, entry⟩ := stands
  by_cases same : header = other
  · subst same
    obtain rfl : entries = below := by simpa [table] using known.symm
    have different : key ≠ name := by
      rintro rfl
      rw [absent] at entry
      cases entry
    exact ⟨_, grown, (lookup_concat_of_ne different).trans entry⟩
  · exact ⟨entries, (untouched header same).trans known, entry⟩

end Entries

/-! ### The value of a document -/

theorem Node.lookup_finishEntries (entries : Entries) (key : String) :
    (finishEntries entries).lookup key = (entries.lookup key).map finish := by
  induction entries with
  | nil => rfl
  | cons pair rest ih =>
    obtain ⟨other, node⟩ := pair
    rw [finishEntries, List.lookup_cons, List.lookup_cons, ih]
    split <;> rfl

namespace Value

theorem lookup_entriesWithMoments {entries valued : List (String × Value)} {key : String}
    {value : Value} (done : entriesWithMoments? entries = some valued)
    (entry : entries.lookup key = some value) :
    ∃ found, withMoments? value = some found ∧ valued.lookup key = some found := by
  induction entries generalizing valued with
  | nil => cases entry
  | cons pair rest ih =>
    obtain ⟨other, first⟩ := pair
    simp only [entriesWithMoments?, bind, Option.bind_eq_some_iff] at done
    obtain ⟨found, firstDone, others, restDone, same⟩ := done
    cases same
    rw [List.lookup_cons] at entry ⊢
    split at entry
    · cases entry
      exact ⟨found, firstDone, rfl⟩
    · exact ih restDone entry

/-- A table is a table of values, if it does not stand for a moment. -/
theorem withMoments?_table {entries : List (String × Value)} {value : Value}
    (done : withMoments? (.table entries) = some value) :
    (∃ text, value = .moment text) ∨
      ∃ valued, value = .table valued ∧ entriesWithMoments? entries = some valued := by
  rw [withMoments?] at done
  split at done
  · obtain ⟨first, -, spelled⟩ := Option.bind_eq_some_iff.mp done
    cases first with
    | string text =>
      obtain ⟨moment, -, same⟩ := Option.map_eq_some_iff.mp spelled
      exact .inl ⟨moment, same.symm⟩
    | _ => cases spelled
  · obtain ⟨valued, known, same⟩ := Option.map_eq_some_iff.mp done
    exact .inr ⟨valued, same.symm, known⟩

/-- A string that stands in a document is in its value, unless a moment is in the place of the table or
of the whole document. -/
theorem get?_of_stands {document : Entries} {header key text : String} {value : Value}
    (stands : document.Stands header key (.string text))
    (done : withMoments? (.table (Node.finishEntries document)) = some value) :
    (∃ moment, value = .moment moment) ∨ (∃ moment, value.get? header = some (.moment moment)) ∨
      ∃ entries, value.get? header = some (.table entries) ∧
        entries.lookup key = some (.string text) := by
  obtain ⟨below, table, entry⟩ := stands
  rcases withMoments?_table done with moment | ⟨valued, rfl, known⟩
  · exact .inl moment
  have finished : (Node.finishEntries document).lookup header =
      some (.table (Node.finishEntries below)) := by
    rw [Node.lookup_finishEntries, table, Option.map_some, Node.finish]
  obtain ⟨found, tableDone, got⟩ := lookup_entriesWithMoments known finished
  rcases withMoments?_table tableDone with ⟨moment, rfl⟩ | ⟨entries, rfl, inner⟩
  · exact .inr (.inl ⟨moment, got⟩)
  have finishedEntry : (Node.finishEntries below).lookup key = some (.string text) := by
    rw [Node.lookup_finishEntries, entry, Option.map_some, Node.finish]
  obtain ⟨string, same, there⟩ := lookup_entriesWithMoments inner finishedEntry
  cases same
  exact .inr (.inr ⟨entries, got, there⟩)

end Value

end ScenarioResults.Toml
