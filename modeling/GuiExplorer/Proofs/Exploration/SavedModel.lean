import GuiExplorer.Proofs.Exploration.Progress

/-!
# What is saved after a run

The model and the recording of a run tell the same story.  The model has each
screen as soon as it was fetched, but the counter of an action only once the next
screen was fetched as well, while the recording has an action as soon as it was
accepted.  So it depends on where a run stops how far the two are apart.
-/

namespace GuiExplorer

/-- Whether a record is of an action on the widget while the screen was shown. -/
def ActionRecord.isOn (screen widget : Uuid) (entry : ActionRecord) : Bool :=
  entry.screen.uid = screen && entry.action.widget?.any (·.uid = widget)

/-- How many records are of an action on the widget while the screen was shown. -/
def Recording.timesOn (screen widget : Uuid) (records : List ActionRecord) : Nat :=
  records.countP (·.isOn screen widget)

namespace Recording

theorem isOn_iff (entry : ActionRecord) (screen widget : Uuid) :
    entry.isOn screen widget = true ↔ counterKey entry.step = some (screen, widget) := by
  obtain ⟨action, shown, time⟩ := entry
  cases action <;> simp [ActionRecord.isOn, ActionRecord.step, counterKey, Action.widget?]

theorem timesOn_concat (records : List ActionRecord) (last : ActionRecord)
    (screen widget : Uuid) :
    timesOn screen widget (records ++ [last]) =
      timesOn screen widget records +
        if counterKey last.step = some (screen, widget) then 1 else 0 := by
  rw [timesOn, List.countP_append, timesOn, List.countP_singleton]
  simp only [isOn_iff]

theorem timesOn_le_length (records : List ActionRecord) (screen widget : Uuid) :
    timesOn screen widget records ≤ records.length :=
  List.countP_le_length

end Recording

namespace Explorer

open Recording (timesOn)

variable {σ : Type} {world : World σ} {explorer middle final : Explorer σ} {turns : List Turn}

/-- The counters of the model are those of the records. -/
def Counts (store : Store) (records : List ActionRecord) : Prop :=
  ∀ screen widget, store.actedCount screen widget = UInt32.ofNat (timesOn screen widget records)

/-- How the model stands to the recording between two rounds: all screens are in
it, and all counters but the last one. -/
structure Follows (explorer : Explorer σ) : Prop where
  observed : explorer.store.observations = explorer.recording.records.map ActionRecord.screen
  sorted : Counters.Sorted explorer.store.counters
  counted : Counts explorer.store explorer.recording.records.dropLast
  due : explorer.engine.lastKey =
    explorer.recording.records.getLast?.bind fun entry => counterKey entry.step

theorem IsFresh.follows (fresh : explorer.IsFresh) : explorer.Follows where
  observed := by rw [fresh.store, fresh.recording]; rfl
  sorted := by rw [fresh.store]; exact Counters.sorted_nil
  counted := by
    intro screen widget
    rw [fresh.store, fresh.recording]
    rfl
  due := by rw [Engine.lastKey, fresh.last, fresh.recording]; rfl

theorem Follows.sorted_record (follows : explorer.Follows) (screen : Screen) :
    Counters.Sorted (explorer.store.record screen).counters :=
  follows.sorted

/-- Once the key that is due is counted, the counters are those of all records. -/
theorem Follows.counts_due
    (follows : explorer.Follows) (screen : Screen) :
    Counts ((explorer.store.record screen).count explorer.engine.lastKey)
      explorer.recording.records := by
  intro onScreen onWidget
  rw [Store.actedCount_count (follows.sorted_record screen)]
  have before : (explorer.store.record screen).actedCount onScreen onWidget =
      UInt32.ofNat (timesOn onScreen onWidget explorer.recording.records.dropLast) :=
    follows.counted onScreen onWidget
  rw [before, follows.due]
  rcases List.eq_nil_or_concat explorer.recording.records with none | ⟨earlier, last, some⟩
  · rw [none]
    rfl
  · rw [some, List.concat_eq_append, Recording.timesOn_concat, List.dropLast_concat,
      List.getLast?_concat, Option.bind_some]
    split <;> simp

theorem TakesTurn.follows
    {turn : Turn} (taken : explorer.TakesTurn world turn final) (follows : explorer.Follows) :
    final.Follows := by
  obtain ⟨elapsed, decided, engine, store⟩ := taken.decided
  obtain ⟨timestamp, recorded⟩ := taken.recorded
  obtain ⟨counted, -⟩ := Engine.decide_ok decided
  have store : final.store = (explorer.store.record turn.screen).count explorer.engine.lastKey :=
    store.trans counted
  constructor
  · rw [store, recorded, Store.observations_count]
    simp [Store.record, Recording.add, follows.observed]
  · rw [store]
    exact Store.sorted_count (follows.sorted_record turn.screen) _
  · rw [store, recorded, Recording.add, List.dropLast_concat]
    exact follows.counts_due turn.screen
  · rw [engine, recorded, decisionOn, Engine.lastKey_of_decide decided]
    simp [Recording.add, ActionRecord.step]

theorem TakesTurns.follows
    (taken : TakesTurns world explorer turns final) (follows : explorer.Follows) :
    final.Follows := by
  induction taken with
  | done => exact follows
  | next first later ih => exact ih (first.follows follows)

theorem Follows.counts_all
    (follows : explorer.Follows)
    (last : explorer.recording.records.getLast?.bind (fun entry => counterKey entry.step) = none) :
    Counts explorer.store explorer.recording.records := by
  have due := follows.due.trans last
  intro screen widget
  have counted := follows.counts_due default screen widget
  rw [due] at counted
  exact counted

/-- While the screen of a round is fetched, the run halts with the error. -/
def HaltsObserving (world : World σ) (explorer : Explorer σ) (error : ExplorationError) : Prop :=
  ∃ rounds before, explorer.progress world rounds = (none, before) ∧
    (before.observe world).1 = .error error

/-- A round that halts the run may have recorded one more screen, and if it came
to a decision, all counters are those of the records. -/
theorem Halts.saved
    {error : ExplorationError} (halts : Halts world middle error final)
    (follows : middle.Follows) (running : middle.engine.isTerminated = false)
    (begun : middle.engine.strategies = [] → middle.recording.records = []) :
    (∃ extra : List Screen, extra.length ≤ 1 ∧
      final.store.observations = final.recording.records.map ActionRecord.screen ++ extra) ∧
    (Counts final.store final.recording.records ∨
      (middle.observe world).1 = .error error ∧
        Counts final.store final.recording.records.dropLast) := by
  cases halts with
  | fetching failed asked exchanged blames =>
      exact ⟨⟨[], by simp, by simp [follows.observed]⟩, .inr ⟨failed, follows.counted⟩⟩
  | @deciding fetch client screen elapsed engineError shows exchanged failed =>
      obtain ⟨-, counted, idle⟩ := Engine.decide_error failed
      by_cases empty : middle.engine.strategies = []
      · have store : (middle.decisionOn screen elapsed).store = middle.store.record screen :=
          idle empty
        refine ⟨⟨[screen], by simp, ?_⟩, .inl ?_⟩
        · rw [store]
          simp [Store.record, follows.observed]
        · rw [store, begun empty]
          have nothing := follows.counted
          rw [begun empty] at nothing
          exact nothing
      · have store : (middle.decisionOn screen elapsed).store =
            (middle.store.record screen).count middle.engine.lastKey := counted running empty
        refine ⟨⟨[screen], by simp, ?_⟩, .inl ?_⟩
        · rw [store]
          simp [Store.record, follows.observed]
        · rw [store]
          exact follows.counts_due screen
  | @acting turn client elapsed _ proper exchanged decided refused blames =>
      obtain ⟨counted, -⟩ := Engine.decide_ok decided
      have store : (middle.decisionOn turn.screen elapsed).store =
          (middle.store.record turn.screen).count middle.engine.lastKey := counted
      refine ⟨⟨[turn.screen], by simp, ?_⟩, .inl ?_⟩
      · rw [store]
        simp [Store.record, follows.observed]
      · rw [store]
        exact follows.counts_due turn.screen

/-- Without a daemon the model and the recording both stay empty. -/
theorem IsFresh.saved_unready
    {limit : Nat} {outcome : Except ExplorationError Unit}
    (fresh : explorer.IsFresh) (unready : explorer.client.phase ≠ .ready)
    (stopped : explorer.progress world limit = (some outcome, final)) :
    (∃ extra : List Screen, extra.length ≤ 1 ∧ (outcome = .ok () → extra = []) ∧
      final.store.observations = final.recording.records.map ActionRecord.screen ++ extra) ∧
    (Counts final.store final.recording.records ∨
      ∃ error, outcome = .error error ∧ HaltsObserving world explorer error ∧
        Counts final.store final.recording.records.dropLast) := by
  have untouched : final = explorer := by
    rcases progress_unready world limit unready with goesOn | ⟨error, halted⟩
    · rw [goesOn] at stopped
      cases stopped
    · rw [halted] at stopped
      cases stopped
      rfl
  have unrecorded : explorer.recording.records = [] := by
    rw [fresh.recording]
    rfl
  have follows := fresh.follows
  rw [untouched]
  refine ⟨⟨[], by simp, fun _ => rfl, by simp [follows.observed]⟩, .inl (follows.counts_all ?_)⟩
  rw [unrecorded]
  rfl

/-- The rounds that succeeded leave the same screens and counters in the model and
in the recording; those that halted leave what the last of them allows. -/
theorem progress_saved
    {limit : Nat} {outcome : Except ExplorationError Unit}
    (fresh : explorer.IsFresh)
    (stopped : explorer.progress world limit = (some outcome, final)) :
    (∃ extra : List Screen, extra.length ≤ 1 ∧ (outcome = .ok () → extra = []) ∧
      final.store.observations = final.recording.records.map ActionRecord.screen ++ extra) ∧
    (Counts final.store final.recording.records ∨
      ∃ error, outcome = .error error ∧ HaltsObserving world explorer error ∧
        Counts final.store final.recording.records.dropLast) := by
  by_cases ready : explorer.client.phase = .ready
  case neg => exact fresh.saved_unready ready stopped
  obtain ⟨turns, middle, reached, taken, goesOn, ending, -⟩ := progress_turns world limit ready
  have follows := taken.follows fresh.follows
  rw [stopped] at ending
  match outcome, ending with
  | .ok _, ⟨last, lastTaken, stops⟩ =>
      have after : final.Follows := lastTaken.follows follows
      obtain ⟨timestamp, recorded⟩ := lastTaken.recorded
      refine ⟨⟨[], by simp, fun _ => rfl, by simp [after.observed]⟩, .inl (after.counts_all ?_)⟩
      have recorded : final.recording = middle.recording.add last.action last.screen timestamp :=
        recorded
      rw [recorded, stops]
      simp [Recording.add, ActionRecord.step, counterKey]
  | .error error, halts =>
      have begun : middle.engine.strategies = [] → middle.recording.records = [] := by
        intro empty
        cases taken with
        | done =>
            rw [fresh.recording]
            rfl
        | next first later =>
            exact (TakesTurns.occupied (.next first later) (List.cons_ne_nil _ _) empty).elim
      obtain ⟨⟨extra, few, observed⟩, counted⟩ :=
        halts.saved follows (taken.running fresh.running goesOn) begun
      refine ⟨⟨extra, few, by simp, observed⟩, ?_⟩
      rcases counted with all | ⟨failed, most⟩
      · exact .inl all
      · exact .inr ⟨error, rfl, ⟨turns.length, middle, reached, failed⟩, most⟩

private theorem Counts.toNat_eq
    {store : Store} {records : List ActionRecord} (counts : Counts store records)
    (few : records.length < UInt32.size) (screen widget : Uuid) :
    (store.actedCount screen widget).toNat = timesOn screen widget records := by
  rw [counts screen widget]
  exact UInt32.toNat_ofNat_of_lt'
    (Nat.lt_of_le_of_lt (Recording.timesOn_le_length records screen widget) few)

/-- After a run the model tells what the recording tells: all screens and all
counters if the run succeeded; otherwise there may be one more screen, and only if
the run halted while a screen was fetched may the last record be uncounted. -/
theorem run_saves_what_it_records
    {limit : Nat} {result : Except ExplorationError Summary}
    (fresh : explorer.IsFresh) (ran : explorer.run world limit = some (result, final))
    (few : final.recording.records.length < UInt32.size) :
    (∀ summary, result = .ok summary →
      final.store.snapshot.observations =
        final.recording.records.map (fun entry => entry.screen.uid) ∧
      ∀ screen widget, (final.store.actedCount screen widget).toNat =
        timesOn screen widget final.recording.records) ∧
    (∀ error, result = .error error →
      (∃ extra : List Uuid, extra.length ≤ 1 ∧ final.store.snapshot.observations =
        final.recording.records.map (fun entry => entry.screen.uid) ++ extra) ∧
      ((∀ screen widget, (final.store.actedCount screen widget).toNat =
          timesOn screen widget final.recording.records) ∨
        HaltsObserving world explorer error ∧
        ∀ screen widget, (final.store.actedCount screen widget).toNat =
          timesOn screen widget final.recording.records.dropLast)) := by
  obtain ⟨outcome, stopped, finished⟩ := run_eq_some_iff.mp ran
  obtain ⟨⟨outside, same⟩, kept, -⟩ := finish_frame finished
  obtain ⟨⟨extra, atMostOne, none, observed⟩, counted⟩ :=
    progress_saved fresh (Prod.ext stopped rfl)
  have store : (explorer.progress world limit).2.store = final.store := by rw [same]; rfl
  have recording : (explorer.progress world limit).2.recording = final.recording := by
    rw [same]; rfl
  rw [store, recording] at observed counted
  have uids : final.store.snapshot.observations =
      final.recording.records.map (fun entry => entry.screen.uid) ++ extra.map Screen.uid := by
    rw [Store.snapshot, observed, List.map_append, List.map_map]
    rfl
  have fewer : final.recording.records.dropLast.length < UInt32.size := by
    rw [List.length_dropLast]
    omega
  refine ⟨?_, ?_⟩
  · intro summary succeeded
    have ended : outcome = .ok () := by
      cases outcome with
      | ok _ => rfl
      | error error => rw [kept error rfl] at succeeded; cases succeeded
    refine ⟨by simpa [none ended] using uids, ?_⟩
    rcases counted with all | ⟨error, failed, -⟩
    · exact all.toNat_eq few
    · rw [ended] at failed
      cases failed
  · intro error failed
    refine ⟨⟨extra.map Screen.uid, by simpa using atMostOne, uids⟩, ?_⟩
    rcases counted with all | ⟨other, halted, observing, most⟩
    · exact .inl (all.toNat_eq few)
    · have sameError : other = error := by
        rw [kept other halted] at failed
        cases failed
        rfl
      exact .inr ⟨sameError ▸ observing, most.toNat_eq fewer⟩

private theorem click_once_ends :
    ((ofPool [.explore, .actionBudget 1] (.listening [] [.oneButton])).run Stage.world 2).map
        (fun ran => (ran.1.toOption.isSome, ran.2.recording.records.length)) =
      some (true, 2) := by
  decide +kernel

/-- A run that clicks the only widget once and terminates. -/
theorem run_saves_a_click :
    ∃ explorer summary final,
      explorer = ofPool [.explore, .actionBudget 1] (.listening [] [.oneButton]) ∧
      explorer.IsFresh ∧
      explorer.run Stage.world 2 = some (.ok summary, final) ∧
      final.recording.records.length = 2 ∧
      final.store.snapshot.observations =
        final.recording.records.map (fun entry => entry.screen.uid) ∧
      ∀ screen widget, (final.store.actedCount screen widget).toNat =
        timesOn screen widget final.recording.records := by
  obtain ⟨⟨result, final⟩, ran, ended⟩ := Option.map_eq_some_iff.mp click_once_ends
  simp only [Prod.mk.injEq] at ended
  obtain ⟨succeeded, two⟩ := ended
  cases result with
  | error error => cases succeeded
  | ok summary =>
      have few : final.recording.records.length < UInt32.size := by
        rw [two]
        decide
      obtain ⟨observed, counted⟩ :=
        (run_saves_what_it_records (ofPool_fresh _ _) ran few).1 summary rfl
      exact ⟨_, summary, final, rfl, ofPool_fresh _ _, ran, two, observed, counted⟩

end Explorer

end GuiExplorer
