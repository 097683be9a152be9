import GuiExplorer.Proofs.Playback.Search

/-!
# Backs that are skipped

Away from the home screen a recorded back is skipped only for the sake of the recorded widget that
comes next, if the live screen shows that already.  The same request makes good for it: its answer
is taken from a step after the back, in the same trace and not beyond that widget.
-/

namespace GuiExplorer

/-- Whether the step acts on a widget. -/
def TraceEntry.isOnWidget (entry : TraceEntry) : Bool :=
  entry.action.widget?.isSome

namespace Playback

/-! ## In one trace -/

section

variable {context : Context}

/-- A scan goes no further than to a step that is not skipped. -/
theorem scan_stops
    (maxSkips skipped : Nat) {entries : List TraceEntry} {position : Nat} {entry : TraceEntry}
    (here : entries[position]? = some entry)
    (replays : (replay context entry (entries.drop (position + 1))).isSome = true) :
    (∃ count, (scan context maxSkips skipped entries).2 = .tooMany count) ∨
      ∃ action, (scan context maxSkips skipped entries).2 = .found action ∧
        0 < (scan context maxSkips skipped entries).1 ∧
        (scan context maxSkips skipped entries).1 ≤ position + 1 := by
  induction entries generalizing position skipped with
  | nil => cases here
  | cons first later ih =>
      rw [scan]
      cases replayed : replay context first later with
      | some action => exact .inr ⟨action, rfl, Nat.one_pos, Nat.le_add_left 1 position⟩
      | none =>
          dsimp only
          by_cases many : maxSkips < skipped + 1
          · rw [if_pos many]
            exact .inl ⟨_, rfl⟩
          · rw [if_neg many]
            cases position with
            | zero =>
                cases here
                rw [List.drop_succ_cons, List.drop_zero, replayed] at replays
                cases replays
            | succ position =>
                rcases ih (skipped + 1) here replays with
                  ⟨count, tooMany⟩ | ⟨action, found, -, within⟩
                · exact .inl ⟨count, tooMany⟩
                · exact .inr ⟨action, found, Nat.succ_pos _, Nat.succ_le_succ within⟩

theorem isSome_replay_onWidget
    {entry : TraceEntry} {widget : Widget} (later : List TraceEntry)
    (target : entry.action.widget? = some widget)
    (shown : (context.findAnywhere widget).isSome = true) :
    (replay context entry later).isSome = true := by
  obtain ⟨live, found⟩ := Option.isSome_iff_exists.mp shown
  unfold replay
  cases recorded : entry.action <;> rw [recorded] at target <;> cases target
  simp [found]

/-- A back that is skipped away from the home screen is one before a widget that is shown. -/
theorem nextWidget_of_skipped_back
    {entry : TraceEntry} {later : List TraceEntry} (away : context.screen.isHome = false)
    (isBack : entry.action = .pressBack) (skips : replay context entry later = none) :
    ∃ widget, later.findSome? (·.action.widget?) = some widget ∧
      (context.findAnywhere widget).isSome = true := by
  have skippable := (replay_eq_none_iff context ⟨0, 0, entry, later⟩).mp skips
  simp only [PendingStep.isSkippable, PendingStep.nextWidget?, isBack, away, Bool.false_or,
    Bool.and_eq_true, Option.any_eq_true] at skippable
  exact skippable.2

/-- The first step on a widget, where the first widget is known. -/
theorem findIdx?_of_findSome?
    {entries : List TraceEntry} {widget : Widget}
    (next : entries.findSome? (·.action.widget?) = some widget) :
    ∃ distance entry, entries.findIdx? TraceEntry.isOnWidget = some distance ∧
      entries[distance]? = some entry ∧ entry.action.widget? = some widget := by
  induction entries with
  | nil => cases next
  | cons entry later ih =>
      rw [List.findIdx?_cons, TraceEntry.isOnWidget]
      cases target : entry.action.widget? with
      | some other =>
          rw [List.findSome?_cons, target] at next
          cases next
          exact ⟨0, entry, rfl, rfl, target⟩
      | none =>
          rw [List.findSome?_cons, target] at next
          obtain ⟨distance, found, index, here, same⟩ := ih next
          exact ⟨distance + 1, found, by simp [index], here, same⟩

/-- A scan that passes a back away from the home screen stops at the back, or after it at the next
step on a widget at the latest. -/
theorem scan_back
    (maxSkips skipped : Nat) {entries : List TraceEntry} {position : Nat} {back : TraceEntry}
    (away : context.screen.isHome = false) (recorded : entries[position]? = some back)
    (isBack : back.action = .pressBack)
    (passed : position < (scan context maxSkips skipped entries).1) :
    (∃ count, (scan context maxSkips skipped entries).2 = .tooMany count) ∨
      ∃ action, (scan context maxSkips skipped entries).2 = .found action ∧
        ((scan context maxSkips skipped entries).1 = position + 1 ∨
          ∃ distance,
            (entries.drop (position + 1)).findIdx? TraceEntry.isOnWidget = some distance ∧
            position + 1 < (scan context maxSkips skipped entries).1 ∧
            (scan context maxSkips skipped entries).1 ≤ position + 1 + distance + 1) := by
  induction entries generalizing position skipped with
  | nil => cases recorded
  | cons first later ih =>
      rw [scan] at passed ⊢
      cases replayed : replay context first later with
      | some action =>
          rw [replayed] at passed
          have here : position = 0 := Nat.lt_one_iff.mp passed
          exact .inr ⟨action, rfl, .inl (by rw [here])⟩
      | none =>
          simp only [replayed] at passed ⊢
          by_cases many : maxSkips < skipped + 1
          · rw [if_pos many]
            exact .inl ⟨_, rfl⟩
          · rw [if_neg many] at passed ⊢
            cases position with
            | zero =>
                cases recorded
                -- The widget that the back is skipped for bounds the rest of the scan.
                obtain ⟨widget, next, shown⟩ := nextWidget_of_skipped_back away isBack replayed
                obtain ⟨distance, entry, index, here, target⟩ := findIdx?_of_findSome? next
                have replays := isSome_replay_onWidget (later.drop (distance + 1)) target shown
                rcases scan_stops maxSkips (skipped + 1) here replays with
                  ⟨count, tooMany⟩ | ⟨action, found, some, within⟩
                · exact .inl ⟨count, tooMany⟩
                · refine .inr ⟨action, found, .inr ⟨distance, index, Nat.succ_lt_succ some, ?_⟩⟩
                  dsimp only
                  omega
            | succ position =>
                rcases ih (skipped + 1) recorded (Nat.lt_of_succ_lt_succ passed) with
                  ⟨count, tooMany⟩ | ⟨action, found, here | ⟨distance, next, beyond, within⟩⟩
                · exact .inl ⟨count, tooMany⟩
                · exact .inr ⟨action, found, .inl (congrArg Nat.succ here)⟩
                · refine .inr ⟨action, found, .inr ⟨distance, next, Nat.succ_lt_succ beyond, ?_⟩⟩
                  dsimp only
                  omega

/-- The action that a scan ends with is that of the last step that it passed. -/
theorem last_of_found
    {maxSkips skipped : Nat} {entries : List TraceEntry} {passed : Nat} {action : Action}
    (found : scan context maxSkips skipped entries = (passed, .found action)) :
    ∃ position entry, passed = position + 1 ∧ entries[position]? = some entry ∧
      action = retargeted context entry.action := by
  have scanned := scan_scanned context maxSkips skipped entries
  rw [found] at scanned
  cases scanned with
  | @found before later entry _ skips replays =>
      exact ⟨before.length, entry, rfl, by simp, retargeted_of_replay replays⟩

end

/-! ## In all traces -/

/-- The cursor of the trace has moved past the position. -/
def Passes (before after : List PlaybackTrace) (trace position : Nat) : Prop :=
  ∃ old new, before[trace]? = some old ∧ after[trace]? = some new ∧
    old.cursor ≤ position ∧ position < new.cursor

/-- The answer is the recorded action at the position of the trace, on the live screen: that step
is the last one passed, it is marked as replayed, and nothing is passed in later traces. -/
structure AnswersFrom (context : Context) (before after : List PlaybackTrace)
    (answer : Except StrategyError Action) (trace position : Nat) : Prop where
  replays : ∃ old entry, before[trace]? = some old ∧ old.cursor ≤ position ∧
    old.entries[position]? = some entry ∧ answer = .ok (retargeted context entry.action) ∧
    after[trace]? = some ⟨old.entries.modify position TraceEntry.replayed, position + 1⟩
  untouched : ∀ later, trace < later → after[later]? = before[later]?

/-- The answer to a request is taken from the step at the position of the trace. -/
def TakesFrom (playback : Playback) (context : Context) (trace position : Nat) : Prop :=
  AnswersFrom context playback.traces (playback.next context).2.traces (playback.next context).1
    trace position

/-- A request passes the step at the position of the trace and does not take its answer from it. -/
def Skips (playback : Playback) (context : Context) (trace position : Nat) : Prop :=
  Passes playback.traces (playback.next context).2.traces trace position ∧
    ¬ playback.TakesFrom context trace position

section

variable {context : Context}

theorem AnswersFrom.cons
    {before after : List PlaybackTrace} {answer : Except StrategyError Action}
    {trace position : Nat} (answers : AnswersFrom context before after answer trace position)
    (old new : PlaybackTrace) :
    AnswersFrom context (old :: before) (new :: after) answer (trace + 1) position where
  replays := answers.replays
  untouched := by
    intro later beyond
    obtain ⟨index, rfl⟩ := Nat.exists_eq_succ_of_ne_zero (Nat.ne_zero_of_lt beyond)
    exact answers.untouched index (Nat.lt_of_succ_lt_succ beyond)

theorem getElem?_pending
    {trace : PlaybackTrace} {position : Nat} (pending : trace.cursor ≤ position) :
    trace.pending[position - trace.cursor]? = trace.entries[position]? := by
  rw [PlaybackTrace.pending, List.getElem?_drop, Nat.add_sub_cancel' pending]

theorem drop_pending
    {trace : PlaybackTrace} {position : Nat} (pending : trace.cursor ≤ position) :
    trace.pending.drop (position - trace.cursor + 1) = trace.entries.drop (position + 1) := by
  have same : trace.cursor + (position - trace.cursor + 1) = position + 1 := by omega
  rw [PlaybackTrace.pending, List.drop_drop, same]

theorem not_passes_self (traces : List PlaybackTrace) (trace position : Nat) :
    ¬ Passes traces traces trace position := by
  rintro ⟨old, new, before, after, pending, passed⟩
  cases before.symm.trans after
  omega

/-- The search that ends in the first trace answers from the last step it has passed there. -/
theorem answersFrom_of_found
    {first : PlaybackTrace} {last : Nat} {entry : TraceEntry} (rest : List PlaybackTrace)
    (here : first.pending[last]? = some entry) :
    AnswersFrom context (first :: rest) ((first.advance (last + 1)).explore :: rest)
      (.ok (retargeted context entry.action)) 0 (first.cursor + last) where
  replays := by
    refine ⟨first, entry, rfl, Nat.le_add_right _ _, ?_, rfl, rfl⟩
    rw [← getElem?_pending (Nat.le_add_right _ _), Nat.add_sub_cancel_left]
    exact here
  untouched := by
    intro later beyond
    obtain ⟨index, rfl⟩ := Nat.exists_eq_succ_of_ne_zero (Nat.ne_zero_of_lt beyond)
    rfl

/-- A search that passes a back away from the home screen, and does not skip too much, takes its
answer from the back or from a later step of the same trace, up to the next one on a widget. -/
theorem seek_back
    {maxSkips skipped : Nat} {traces : List PlaybackTrace} {trace position : Nat}
    {old : PlaybackTrace} {back : TraceEntry}
    (away : context.screen.isHome = false) (there : traces[trace]? = some old)
    (recorded : old.entries[position]? = some back) (isBack : back.action = .pressBack)
    (passes : Passes traces (seek context maxSkips skipped traces).2 trace position)
    (few : ∀ count, (seek context maxSkips skipped traces).1 ≠ .error (.skipLimitExceeded count)) :
    ∃ last, AnswersFrom context traces (seek context maxSkips skipped traces).2
        (seek context maxSkips skipped traces).1 trace last ∧
      (last = position ∨ ∃ distance,
        (old.entries.drop (position + 1)).findIdx? TraceEntry.isOnWidget = some distance ∧
        position < last ∧ last ≤ position + 1 + distance) := by
  induction traces generalizing trace skipped with
  | nil => cases there
  | cons first rest ih =>
      rcases scanned : scan context maxSkips skipped first.pending with
        ⟨passed, action | count | count⟩
      case found =>
        simp only [seek, scanned] at passes ⊢
        cases trace with
        | succ trace => exact (not_passes_self rest trace position passes).elim
        | zero =>
            cases there
            obtain ⟨_, _, before, after, pending, beyond⟩ := passes
            cases before
            cases after
            obtain ⟨last, entry, rfl, here, rfl⟩ := last_of_found scanned
            have stops := scan_back maxSkips skipped away
              ((getElem?_pending pending).trans recorded) isBack
            rw [scanned, drop_pending pending] at stops
            have reached : position < old.cursor + (last + 1) := beyond
            refine ⟨old.cursor + last, answersFrom_of_found rest here, ?_⟩
            rcases stops (by dsimp only; omega) with
              ⟨_, tooMany⟩ | ⟨_, _, same | ⟨distance, next, later, within⟩⟩
            · cases tooMany
            · dsimp only at same
              exact .inl (by omega)
            · dsimp only at later within
              exact .inr ⟨distance, next, by omega, by omega⟩
      case exhausted =>
        simp only [seek, scanned] at passes few ⊢
        cases trace with
        | succ trace =>
            obtain ⟨last, answers, place⟩ := ih there passes few
            exact ⟨last, answers.cons _ _, place⟩
        | zero =>
            -- The scan of this trace would have stopped at the back or after it.
            cases there
            obtain ⟨_, _, before, after, pending, beyond⟩ := passes
            cases before
            cases after
            have stops := scan_back maxSkips skipped away
              ((getElem?_pending pending).trans recorded) isBack
            have reached : position < old.cursor + passed := beyond
            rw [scanned] at stops
            rcases stops (by dsimp only; omega) with ⟨_, tooMany⟩ | ⟨_, found, -⟩
            · cases tooMany
            · cases found
      case tooMany =>
        simp only [seek, scanned] at few
        exact (few count rfl).elim

end

/-- A back that is skipped away from the home screen is made good by the same request: unless that
skips too much, its answer is taken from a step of the same trace after the back, and at the latest
from the next one on a widget, of which there is one. -/
theorem skipped_back_is_made_good
    {playback : Playback} {context : Context} {trace position : Nat} {old : PlaybackTrace}
    {back : TraceEntry} (away : context.screen.isHome = false)
    (there : playback.traces[trace]? = some old) (recorded : old.entries[position]? = some back)
    (isBack : back.action = .pressBack) (skips : playback.Skips context trace position)
    (few : ∀ count, (playback.next context).1 ≠ .error (.skipLimitExceeded count)) :
    ∃ last distance, playback.TakesFrom context trace last ∧ position < last ∧
      (old.entries.drop (position + 1)).findIdx? TraceEntry.isOnWidget = some distance ∧
      last ≤ position + 1 + distance := by
  obtain ⟨passes, notReplayed⟩ := skips
  obtain ⟨last, answers, same | ⟨distance, next, later, within⟩⟩ :=
    seek_back away there recorded isBack passes few
  · exact (notReplayed (same ▸ answers)).elim
  · exact ⟨last, distance, answers, later, next, within⟩

/-- The button that the recording clicks after a back is shown already, so it is clicked at once. -/
theorem skipped_back_is_made_good_by_click :
    let button : Widget := ⟨{ text := "B", clickable := true }, .nil, .nil⟩
    let playback := ofRecords "com.example.app" [(.pressBack, default), (.click button, default)]
    let context := Context.ofScreen ⟨.nil, [button]⟩ "com.example.app"
    (playback.next context).1 = .ok (.click button) ∧ playback.Skips context 0 0 ∧
      ∃ last distance, playback.TakesFrom context 0 last ∧ 0 < last ∧
        [TraceEntry.mk (.click button) default false].findIdx? TraceEntry.isOnWidget =
          some distance ∧
        last ≤ 0 + 1 + distance := by
  intro button playback context
  have answer : (playback.next context).1 = .ok (.click button) := by decide
  have skips : playback.Skips context 0 0 := by
    refine ⟨⟨_, _, rfl, rfl, Nat.le_refl 0, by decide⟩, fun takes => ?_⟩
    obtain ⟨old, entry, there, -, recorded, replays, -⟩ := takes.replays
    cases there
    cases recorded
    cases answer.symm.trans replays
  have good := skipped_back_is_made_good (by decide) rfl rfl rfl skips (by rw [answer]; nofun)
  exact ⟨answer, skips, good⟩

end Playback

end GuiExplorer
