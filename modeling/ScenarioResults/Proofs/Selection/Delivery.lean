import ScenarioResults.Selection

/-!
# What subscribers of the selection receive

The actions on a channel leave a history. A subscriber receives the value that it finds and every value
that is written after that, until it is taken off, and nothing else; `run_delivered` says so of every
history, for as long as there are fresh ids. A run keeps the ids in the order in which they were given
out (`Ordered`), so each subscriber is told of a write once, and all are told in that order.
-/

namespace ScenarioResults

inductive SelectionAction where
  | subscribe
  | unsubscribe (id : SubscriptionId)
  | setActive (key : ViewKey)
  | reset
  deriving DecidableEq, Repr

/-- The value that an action writes to the channel. -/
def SelectionAction.written? : SelectionAction → Option (Option ViewKey)
  | .setActive key => some (some key)
  | .reset => some none
  | _ => none

namespace Selection

def perform (selection : Selection) : SelectionAction → Selection
  | .subscribe => selection.subscribe.2
  | .unsubscribe id => (selection.unsubscribe id).2
  | .setActive key => selection.setActive key
  | .reset => selection.reset

def run (selection : Selection) : List SelectionAction → Selection
  | [] => selection
  | action :: rest => (selection.perform action).run rest

/-- What a subscriber was told, in order. -/
def received (selection : Selection) (id : SubscriptionId) : List (Option ViewKey) :=
  (selection.notices.filter fun notice => notice.subscriber = id).map Notice.value

/-! ### What a history says of a channel -/

def written (history : List SelectionAction) : List (Option ViewKey) :=
  history.filterMap SelectionAction.written?

/-- The value written last. At first nothing is selected. -/
def valueAfter (history : List SelectionAction) : Option ViewKey := (written history).getLast?.join

/-- The id of the next subscriber. -/
def idAfter (history : List SelectionAction) : SubscriptionId := ⟨history.count .subscribe + 1⟩

/-- The subscriber came at some point of the history and was not taken off since. -/
def Live (history : List SelectionAction) (id : SubscriptionId) : Prop :=
  ∃ before after, history = before ++ .subscribe :: after ∧ id = idAfter before ∧
    .unsubscribe id ∉ after

theorem run_append (selection : Selection) (first second : List SelectionAction) :
    selection.run (first ++ second) = (selection.run first).run second := by
  induction first generalizing selection with
  | nil => rfl
  | cons action rest ih => exact ih _

theorem valueAfter_snoc (history : List SelectionAction) (action : SelectionAction) :
    valueAfter (history ++ [action]) = action.written?.getD (valueAfter history) := by
  unfold valueAfter written
  rw [List.filterMap_append]
  cases given : action.written? with
  | none => simp [given]
  | some value => simp [given]

theorem not_live_nil (id : SubscriptionId) : ¬ Live [] id := by
  rintro ⟨before, after, same, -⟩
  simp at same

/-- An id tells when its subscriber came. -/
theorem split_unique {before after first rest : List SelectionAction}
    (same : before ++ .subscribe :: after = first ++ .subscribe :: rest)
    (id : idAfter before = idAfter first) : before = first ∧ after = rest := by
  have count : before.count .subscribe = first.count .subscribe := by
    simpa [idAfter] using id
  rcases List.append_eq_append_iff.mp same with ⟨between, rfl, tail⟩ | ⟨between, rfl, tail⟩
  all_goals
    cases between with
    | nil => simpa [eq_comm] using tail
    | cons action between =>
      obtain ⟨rfl, -⟩ := List.cons.inj tail
      rw [List.count_append, List.count_cons_self] at count
      omega

theorem live_iff_of_split {before after : List SelectionAction} :
    Live (before ++ .subscribe :: after) (idAfter before) ↔ .unsubscribe (idAfter before) ∉ after := by
  constructor
  · rintro ⟨first, rest, same, id, kept⟩
    obtain ⟨rfl, rfl⟩ := split_unique same id
    exact kept
  · intro kept
    exact ⟨before, after, rfl, rfl, kept⟩

/-- One more action brings one subscriber in or takes one off. -/
theorem live_snoc {history : List SelectionAction} {action : SelectionAction}
    {id : SubscriptionId} : Live (history ++ [action]) id ↔
      action = .subscribe ∧ id = idAfter history ∨ Live history id ∧ action ≠ .unsubscribe id := by
  constructor
  · rintro ⟨before, after, same, given, kept⟩
    rcases List.eq_nil_or_concat after with rfl | ⟨rest, last, rfl⟩
    · obtain ⟨rfl, same⟩ := List.append_inj' same rfl
      obtain rfl : action = .subscribe := by simpa using same
      exact .inl ⟨rfl, given⟩
    · rw [List.concat_eq_append, ← List.cons_append, ← List.append_assoc] at same
      obtain ⟨rfl, same⟩ := List.append_inj' same rfl
      obtain rfl : action = last := by simpa using same
      simp only [List.concat_eq_append, List.mem_append, List.mem_singleton, not_or] at kept
      exact .inr ⟨⟨before, rest, rfl, given, kept.1⟩, Ne.symm kept.2⟩
  · rintro (⟨rfl, given⟩ | ⟨⟨before, after, rfl, given, kept⟩, spared⟩)
    · exact ⟨history, [], rfl, given, by simp⟩
    · refine ⟨before, after ++ [action], by simp, given, ?_⟩
      simp only [List.mem_append, List.mem_singleton, not_or]
      exact ⟨kept, Ne.symm spared⟩

/-! ### What one action does -/

variable {selection : Selection} {action : SelectionAction}

/-- The ids of subscribers ascend, and no id was told anything before it was given out. -/
structure Ordered (selection : Selection) : Prop where
  ascending : selection.subscribers.Pairwise fun first second => first.number < second.number
  issued : ∀ id ∈ selection.subscribers, id.number ≤ selection.lastId
  told : ∀ notice ∈ selection.notices, notice.subscriber.number ≤ selection.lastId

theorem Ordered.distinct (ordered : selection.Ordered) : selection.subscribers.Nodup := by
  refine ordered.ascending.imp ?_
  rintro first second below rfl
  exact Nat.lt_irrefl _ below

theorem perform_of_written {value : Option ViewKey} (writes : action.written? = some value) :
    selection.perform action = { selection with
      current := value
      notices := selection.notices ++ selection.subscribers.map fun id => ⟨id, value⟩ } := by
  cases action with
  | setActive key =>
    obtain rfl := Option.some.inj writes
    rfl
  | reset =>
    obtain rfl := Option.some.inj writes
    rfl
  | subscribe => cases writes
  | unsubscribe id => cases writes

theorem subscribe_eq (room : selection.lastId < Text.maxWord) :
    selection.subscribe = (⟨selection.lastId + 1⟩, { selection with
      subscribers := selection.subscribers ++ [⟨selection.lastId + 1⟩]
      lastId := selection.lastId + 1
      notices := selection.notices ++ [⟨⟨selection.lastId + 1⟩, selection.current⟩] }) := by
  have next : min (selection.lastId + 1) Text.maxWord = selection.lastId + 1 := Nat.min_eq_left room
  simp only [subscribe, next]

theorem mem_unsubscribe {id other : SubscriptionId} :
    other ∈ (selection.unsubscribe id).2.subscribers ↔
      other ∈ selection.subscribers ∧ other ≠ id := by
  simp [unsubscribe]

theorem unsubscribe_found {id : SubscriptionId} :
    (selection.unsubscribe id).1 = true ↔ id ∈ selection.subscribers := by
  have kept : (selection.subscribers.filter fun existing => existing != id).length =
      selection.subscribers.length ↔ id ∉ selection.subscribers := by
    rw [List.length_filter_eq_length_iff]
    constructor
    · intro spared member
      simpa using spared id member
    · intro missing existing member
      exact bne_iff_ne.mpr fun same => missing (same ▸ member)
  simp only [unsubscribe, bne_iff_ne, ne_eq, kept, Decidable.not_not]

theorem Ordered.perform (ordered : selection.Ordered)
    (room : action = .subscribe → selection.lastId < Text.maxWord) :
    (selection.perform action).Ordered := by
  have write {value : Option ViewKey} (writes : action.written? = some value) :
      (selection.perform action).Ordered := by
    rw [perform_of_written writes]
    refine ⟨ordered.ascending, ordered.issued, ?_⟩
    intro notice member
    rcases List.mem_append.mp member with old | new
    · exact ordered.told notice old
    · obtain ⟨id, listed, rfl⟩ := List.mem_map.mp new
      exact ordered.issued id listed
  cases action with
  | subscribe =>
    simp only [Selection.perform, subscribe_eq (room rfl)]
    refine ⟨?_, ?_, ?_⟩
    · refine List.pairwise_append.mpr ⟨ordered.ascending, List.pairwise_singleton _ _, ?_⟩
      intro first old second new
      obtain rfl := List.mem_singleton.mp new
      exact Nat.lt_succ_of_le (ordered.issued first old)
    · intro id member
      rcases List.mem_append.mp member with old | new
      · exact Nat.le_succ_of_le (ordered.issued id old)
      · obtain rfl := List.mem_singleton.mp new
        exact Nat.le_refl _
    · intro notice member
      rcases List.mem_append.mp member with old | new
      · exact Nat.le_succ_of_le (ordered.told notice old)
      · obtain rfl := List.mem_singleton.mp new
        exact Nat.le_refl _
  | unsubscribe id =>
    refine ⟨ordered.ascending.filter _, ?_, ordered.told⟩
    intro other member
    exact ordered.issued other (mem_unsubscribe.mp member).1
  | setActive key => exact write rfl
  | reset => exact write rfl

/-! ### What a subscriber receives -/

theorem values_told (ids : List SubscriptionId) (value : Option ViewKey) (id : SubscriptionId) :
    ((ids.map fun other => (⟨other, value⟩ : Notice)).filter fun notice =>
      notice.subscriber = id).map Notice.value = List.replicate (ids.count id) value := by
  induction ids with
  | nil => rfl
  | cons first rest ih =>
    by_cases same : first = id
    · subst same
      simp [ih, List.replicate_succ]
    · simp [ih, same]

theorem received_write (selection : Selection) {value : Option ViewKey}
    (writes : action.written? = some value) (id : SubscriptionId) : (selection.perform action).received id =
      selection.received id ++ List.replicate (selection.subscribers.count id) value := by
  rw [perform_of_written writes]
  simp only [received, List.filter_append, List.map_append, values_told]

theorem received_subscribe (selection : Selection) (id : SubscriptionId) :
    (selection.perform .subscribe).received id = selection.received id ++
      if id = selection.subscribe.1 then [selection.current] else [] := by
  simp only [perform, subscribe, received, List.filter_append, List.map_append]
  by_cases same : id = ⟨min (selection.lastId + 1) Text.maxWord⟩
  · simp [← same]
  · simp [same, Ne.symm same]

/-- Each subscriber was last told the value that the channel holds. -/
def Informed (selection : Selection) : Prop :=
  ∀ id ∈ selection.subscribers, (selection.received id).getLast? = some selection.current

theorem perform_informed (informed : selection.Informed) (action : SelectionAction) :
    (selection.perform action).Informed := by
  have write {value : Option ViewKey} (writes : action.written? = some value) :
      (selection.perform action).Informed := by
    intro id
    rw [selection.received_write writes, perform_of_written writes]
    intro listed
    obtain ⟨more, count⟩ := Nat.exists_eq_add_of_lt (List.count_pos_iff.mpr listed)
    rw [count, List.getLast?_append, List.getLast?_replicate]
    simp
  cases action with
  | subscribe =>
    intro id listed
    rw [received_subscribe]
    by_cases same : id = selection.subscribe.1
    · rw [if_pos same, List.getLast?_concat]
      rfl
    · rw [if_neg same, List.append_nil]
      refine informed id ?_
      rcases List.mem_append.mp listed with old | new
      · exact old
      · exact (same (List.mem_singleton.mp new)).elim
  | unsubscribe other =>
    intro id listed
    exact informed id (mem_unsubscribe.mp listed).1
  | setActive key => exact write rfl
  | reset => exact write rfl

theorem run_informed (informed : selection.Informed) (history : List SelectionAction) :
    (selection.run history).Informed := by
  induction history generalizing selection with
  | nil => exact informed
  | cons action rest ih => exact ih (perform_informed informed action)

/-- An id that was not given out yet was told nothing. -/
theorem Ordered.received_fresh (ordered : selection.Ordered) {id : SubscriptionId}
    (fresh : selection.lastId < id.number) : selection.received id = [] := by
  have untold : selection.notices.filter (fun notice => notice.subscriber = id) = [] := by
    refine List.filter_eq_nil_iff.mpr ?_
    intro notice member same
    have given := ordered.told notice member
    rw [decide_eq_true_eq] at same
    rw [same] at given
    omega
  rw [received, untold]
  rfl

/-- What is due to an id from now on: all that is written before it is taken off. -/
def due (id : SubscriptionId) (history : List SelectionAction) : List (Option ViewKey) :=
  written (history.takeWhile fun action => action ≠ .unsubscribe id)

theorem due_cons_of_written {value : Option ViewKey} (writes : action.written? = some value)
    (id : SubscriptionId) (rest : List SelectionAction) :
    due id (action :: rest) = value :: due id rest := by
  have other : action ≠ .unsubscribe id := by
    rintro rfl
    cases writes
  simp [due, written, other, writes]

theorem due_cons_of_silent {id : SubscriptionId} (other : action ≠ .unsubscribe id)
    (silent : action.written? = none) (rest : List SelectionAction) :
    due id (action :: rest) = due id rest := by
  simp [due, written, other, silent]

/-- An id that was given out receives what is due to it if it is subscribed, and nothing if not. -/
theorem Ordered.received_run (ordered : selection.Ordered) (history : List SelectionAction)
    (room : selection.lastId + history.count .subscribe ≤ Text.maxWord) {id : SubscriptionId}
    (given : id.number ≤ selection.lastId) :
    (selection.run history).received id =
      selection.received id ++ if id ∈ selection.subscribers then due id history else [] := by
  induction history generalizing selection with
  | nil => simp [run, due, written]
  | cons action rest ih =>
    have write {value : Option ViewKey} (writes : action.written? = some value) :
        (selection.run (action :: rest)).received id = selection.received id ++
          if id ∈ selection.subscribers then due id (action :: rest) else [] := by
      have other : action ≠ .subscribe := by
        rintro rfl
        cases writes
      rw [List.count_cons_of_ne other] at room
      have next := ordered.perform fun same => (other same).elim
      have now := selection.received_write writes id
      rw [ordered.distinct.count] at now
      simp only [perform_of_written writes] at next now
      simp only [run, perform_of_written writes, due_cons_of_written writes]
      rw [ih next room given, now]
      by_cases listed : id ∈ selection.subscribers <;> simp [listed]
    cases action with
    | subscribe =>
      rw [List.count_cons_self] at room
      have below : selection.lastId < Text.maxWord := by omega
      have next : (selection.perform .subscribe).Ordered := ordered.perform fun _ => below
      have old : id ≠ ⟨selection.lastId + 1⟩ := by
        rintro rfl
        exact Nat.not_succ_le_self _ given
      have now := selection.received_subscribe id
      rw [subscribe_eq below, if_neg old, List.append_nil] at now
      have listed : id ∈ (selection.perform .subscribe).subscribers ↔
          id ∈ selection.subscribers := by
        simp [Selection.perform, subscribe_eq below, old]
      have count : (selection.perform .subscribe).lastId = selection.lastId + 1 := by
        simp only [Selection.perform, subscribe_eq below]
      simp only [run]
      rw [ih next (by omega) (by omega), now, due_cons_of_silent (by simp) rfl]
      simp only [listed]
    | unsubscribe other =>
      rw [List.count_cons_of_ne (by simp)] at room
      have next : (selection.perform (.unsubscribe other)).Ordered :=
        ordered.perform fun same => by cases same
      have now : (selection.perform (.unsubscribe other)).received id = selection.received id := rfl
      have listed : id ∈ (selection.perform (.unsubscribe other)).subscribers ↔
          id ∈ selection.subscribers ∧ id ≠ other := mem_unsubscribe
      simp only [run]
      rw [ih next room given, now]
      by_cases same : id = other
      · subst same
        simp [listed, due, written]
      · rw [due_cons_of_silent (by simpa using Ne.symm same) rfl]
        simp [listed, same]
    | setActive key => exact write rfl
    | reset => exact write rfl

/-! ### Channels and their histories -/

/-- How a channel stands to its history. -/
structure Tracks (history : List SelectionAction) (selection : Selection) : Prop where
  current : selection.current = valueAfter history
  lastId : selection.lastId = history.count .subscribe
  live_iff : ∀ id, id ∈ selection.subscribers ↔ Live history id
  ordered : selection.Ordered

theorem fresh_tracks : Tracks [] {} where
  current := rfl
  lastId := rfl
  live_iff id := by simp [not_live_nil]
  ordered := ⟨.nil, by simp, by simp⟩

theorem Tracks.subscribe_id {history : List SelectionAction} (tracks : Tracks history selection)
    (room : history.count .subscribe < Text.maxWord) : selection.subscribe.1 = idAfter history := by
  rw [← tracks.lastId] at room
  rw [subscribe_eq room, tracks.lastId, idAfter]

theorem Tracks.perform {history : List SelectionAction} (tracks : Tracks history selection)
    (room : (history ++ [action]).count .subscribe ≤ Text.maxWord) :
    Tracks (history ++ [action]) (selection.perform action) := by
  have counted := tracks.lastId
  have write {value : Option ViewKey} (writes : action.written? = some value) :
      Tracks (history ++ [action]) (selection.perform action) := by
    have other : action ≠ .subscribe := by
      rintro rfl
      cases writes
    have spared (id : SubscriptionId) : action ≠ .unsubscribe id := by
      rintro rfl
      cases writes
    have ordered := tracks.ordered.perform fun same => (other same).elim
    rw [perform_of_written writes] at ordered ⊢
    refine ⟨?_, ?_, ?_, ordered⟩
    · rw [valueAfter_snoc, writes]
      rfl
    · rw [List.count_append, List.count_cons_of_ne other]
      exact counted
    · intro id
      rw [live_snoc]
      simp [tracks.live_iff, other, spared]
  cases action with
  | subscribe =>
    rw [List.count_append, List.count_cons_self, List.count_nil] at room
    have below : selection.lastId < Text.maxWord := by omega
    have ordered : (selection.perform .subscribe).Ordered := tracks.ordered.perform fun _ => below
    simp only [Selection.perform, subscribe_eq below] at ordered ⊢
    refine ⟨?_, ?_, ?_, ordered⟩
    · rw [valueAfter_snoc]
      exact tracks.current
    · rw [List.count_append, List.count_cons_self, counted]
      rfl
    · intro id
      have next : (⟨selection.lastId + 1⟩ : SubscriptionId) = idAfter history := by
        rw [counted, idAfter]
      rw [live_snoc, next, List.mem_append, List.mem_singleton, tracks.live_iff]
      simp [or_comm]
  | unsubscribe given =>
    have ordered : (selection.perform (.unsubscribe given)).Ordered :=
      tracks.ordered.perform fun same => by cases same
    refine ⟨?_, ?_, ?_, ordered⟩
    · rw [valueAfter_snoc]
      exact tracks.current
    · rw [List.count_append, List.count_cons_of_ne (by simp)]
      exact counted
    · intro id
      have listed : id ∈ (selection.perform (.unsubscribe given)).subscribers ↔
          id ∈ selection.subscribers ∧ id ≠ given := mem_unsubscribe
      rw [live_snoc, listed, tracks.live_iff]
      simp [eq_comm]
  | setActive key => exact write rfl
  | reset => exact write rfl

theorem Tracks.run {history : List SelectionAction} (tracks : Tracks history selection)
    (rest : List SelectionAction) (room : (history ++ rest).count .subscribe ≤ Text.maxWord) :
    Tracks (history ++ rest) (selection.run rest) := by
  induction rest generalizing history selection with
  | nil => simpa [Selection.run] using tracks
  | cons action rest ih =>
    have split : history ++ action :: rest = (history ++ [action]) ++ rest := by simp
    rw [split] at room ⊢
    have first : (history ++ [action]).count .subscribe ≤ Text.maxWord := by
      rw [List.count_append] at room
      omega
    exact ih (tracks.perform first) room

theorem tracks_run {history : List SelectionAction}
    (room : history.count .subscribe ≤ Text.maxWord) : Tracks history (({} : Selection).run history) :=
  fresh_tracks.run history room

/-! ### Delivery -/

/-- What a channel holds after a history, and what its subscribers have been told. -/
structure Delivered (history : List SelectionAction) : Prop where
  current : (({} : Selection).run history).current = valueAfter history
  /-- Each subscriber gets an id of its own. -/
  given : ∀ before after, history = before ++ .subscribe :: after →
    (({} : Selection).run before).subscribe.1 = idAfter before
  distinct : ∀ before between after,
    history = before ++ .subscribe :: (between ++ .subscribe :: after) →
      idAfter before ≠ idAfter (before ++ .subscribe :: between)
  /-- The value at first, then all that is written, until the subscriber is taken off. -/
  received : ∀ before after, history = before ++ .subscribe :: after →
    (({} : Selection).run history).received (idAfter before) =
      valueAfter before ::
        written (after.takeWhile fun action => action ≠ .unsubscribe (idAfter before))
  live_iff : ∀ id, id ∈ (({} : Selection).run history).subscribers ↔ Live history id
  /-- Subscribers are kept in the order in which they came. -/
  ascending : (({} : Selection).run history).subscribers.Pairwise fun first second =>
    first.number < second.number
  /-- A subscriber can be taken off once, and what was never subscribed cannot. -/
  found_iff : ∀ before after, history = before ++ .subscribe :: after →
    (((({} : Selection).run history).unsubscribe (idAfter before)).1 = true ↔
      .unsubscribe (idAfter before) ∉ after)
  unknown : ∀ id, (∀ before after, history = before ++ .subscribe :: after → id ≠ idAfter before) →
    ((({} : Selection).run history).unsubscribe id).1 = false
  /-- No other subscriber goes with the one that is taken off. -/
  dropped : ∀ id, ((({} : Selection).run history).unsubscribe id).2 =
    { ({} : Selection).run history with
      subscribers := (({} : Selection).run history).subscribers.erase id }
  /-- A write tells each live subscriber once, in order. -/
  told : ∀ action value, action.written? = some value →
    ((({} : Selection).run history).perform action).notices =
      (({} : Selection).run history).notices ++
        (({} : Selection).run history).subscribers.map fun id => ⟨id, value⟩

theorem received_of_split {before after : List SelectionAction}
    (room : (before ++ .subscribe :: after).count .subscribe ≤ Text.maxWord) :
    (({} : Selection).run (before ++ .subscribe :: after)).received (idAfter before) =
      valueAfter before :: due (idAfter before) after := by
  rw [List.count_append, List.count_cons_self] at room
  have tracks : Tracks before (({} : Selection).run before) := tracks_run (by omega)
  have id := tracks.subscribe_id (by omega)
  have counted := tracks.lastId
  have untold := tracks.ordered.received_fresh (by rw [counted]; exact Nat.lt_succ_self _ :
    _ < (idAfter before).number)
  have entered : Tracks (before ++ [.subscribe])
      ((({} : Selection).run before).perform .subscribe) := by
    refine tracks.perform ?_
    rw [List.count_append, List.count_cons_self, List.count_nil]
    omega
  have listed : idAfter before ∈
      ((({} : Selection).run before).perform .subscribe).subscribers := by
    rw [entered.live_iff, live_snoc]
    exact .inl ⟨rfl, rfl⟩
  have next := entered.lastId
  rw [List.count_append, List.count_cons_self, List.count_nil] at next
  have given : (idAfter before).number ≤
      ((({} : Selection).run before).perform .subscribe).lastId := Nat.le_of_eq next.symm
  have first : ((({} : Selection).run before).perform .subscribe).received (idAfter before) =
      [valueAfter before] := by
    rw [received_subscribe, id, if_pos rfl, untold, tracks.current]
    rfl
  rw [run_append]
  simp only [Selection.run]
  rw [entered.ordered.received_run after (by omega) given, if_pos listed, first]
  rfl

/-- Along any history with no more subscribers than there are ids, each subscriber receives what it should,
once and in order, and nothing after it was taken off. -/
theorem run_delivered {history : List SelectionAction}
    (room : history.count .subscribe ≤ Text.maxWord) : Delivered history := by
  have tracks := tracks_run room
  refine ⟨tracks.current, ?_, ?_, ?_, tracks.live_iff, tracks.ordered.ascending, ?_, ?_, ?_, ?_⟩
  · rintro before after rfl
    rw [List.count_append, List.count_cons_self] at room
    have earlier : Tracks before (({} : Selection).run before) := tracks_run (by omega)
    exact earlier.subscribe_id (by omega)
  · rintro before between after -
    simp only [idAfter, ne_eq, SubscriptionId.mk.injEq, List.count_append, List.count_cons_self]
    omega
  · rintro before after rfl
    exact received_of_split room
  · rintro before after rfl
    rw [unsubscribe_found, tracks.live_iff, live_iff_of_split]
  · intro id never
    rw [← Bool.not_eq_true, unsubscribe_found, tracks.live_iff]
    rintro ⟨before, after, same, given, -⟩
    exact never before after same given
  · intro id
    rw [tracks.ordered.distinct.erase_eq_filter]
    rfl
  · intro action value writes
    rw [perform_of_written writes]

end Selection

end ScenarioResults
