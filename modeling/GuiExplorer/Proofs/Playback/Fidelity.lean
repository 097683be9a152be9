import GuiExplorer.Exploration.Explorer
import GuiExplorer.Proofs.Engine.Targets
import GuiExplorer.Proofs.Screen.Matching

/-!
# Replay on the recorded screens

On the screen that a step was recorded on, the step is replayed by an action that
acts like the recorded one: a widget is found where it was, perhaps as another one
with the same content in the same place, which is tapped at the same point and
counted under the same identity.
-/

namespace GuiExplorer

/-- On the screen, one action has the effects of another. -/
structure Action.ActsLike (screen : Screen) (recorded action : Action) : Prop where
  command : ∀ package, action.command package = recorded.command package
  key : counterKey (action, screen) = counterKey (recorded, screen)
  isTerminate : action.isTerminate = recorded.isTerminate

theorem Action.ActsLike.refl (screen : Screen) (action : Action) : ActsLike screen action action :=
  ⟨fun _ => rfl, rfl, rfl⟩

/-- The screen was built from a snapshot. -/
def Screen.IsCaptured (screen : Screen) : Prop :=
  ∃ records image, screen = .ofSnapshot records image

theorem Screen.isCaptured_of_screen?
    {decode : Decoder} {snapshot : GuiSnapshot} {screen : Screen}
    (shown : snapshot.screen? decode = some screen) :
    screen.IsCaptured := by
  unfold GuiSnapshot.screen? at shown
  split at shown <;> cases shown <;> exact ⟨_, _, rfl⟩

namespace Widget

/-- Widgets of one captured screen that are structurally equal in the same place have
the same identity: equal content, or the same pixels. -/
theorem uid_eq_of_matchesExactly
    {screen : Screen} {live recorded : Widget} (captured : screen.IsCaptured)
    (liveShown : live ∈ screen.widgets) (recordedShown : recorded ∈ screen.widgets)
    (same : live.matchesExactly recorded = true) :
    live.uid = recorded.uid := by
  obtain ⟨records, image, built⟩ := captured
  subst built
  obtain ⟨liveData, -, liveBuilt⟩ := List.mem_map.mp liveShown
  obtain ⟨recordedData, -, recordedBuilt⟩ := List.mem_map.mp recordedShown
  have bounds := bounds_eq_of_matchesExactly same
  subst liveBuilt recordedBuilt
  simp only [matchesExactly, WidgetData.matchesExactly, WidgetData.matchesAnywhere, ofSnapshot,
    Bool.and_eq_true, beq_iff_eq] at same
  have content : liveData.content = recordedData.content := by
    simp only [WidgetData.content, same]
  have source : Identity.Source.ofSnapshot liveData image =
      Identity.Source.ofSnapshot recordedData image := by
    have bounds : liveData.bounds = recordedData.bounds := bounds
    simp only [Identity.Source.ofSnapshot, content, bounds]
  exact congrArg Identity.Source.id source

end Widget

namespace Playback

/-- On the recorded screen a step is replayed, whatever comes after it. -/
theorem replay_recorded
    {context : Context} {entry : TraceEntry} (screen : context.screen = entry.screen)
    (captured : entry.screen.IsCaptured) (shown : entry.action.IsShownOn entry.screen)
    (away : entry.action = .pressBack → entry.screen.isHome = false) :
    ∃ action, (∀ later, replay context entry later = some action) ∧
      Action.ActsLike entry.screen entry.action action := by
  cases recorded : entry.action with
  | onWidget widget gesture =>
      have member : widget ∈ entry.screen.widgets := shown widget (by rw [recorded]; rfl)
      have found : (context.findExact widget).isSome = true := by
        rw [Context.findExact, screen, Screen.isSome_findExact_iff]
        exact ⟨widget, member, widget.matchesExactly_refl⟩
      obtain ⟨live, exact⟩ := Option.isSome_iff_exists.mp found
      obtain ⟨liveShown, same⟩ := mem_of_findExact exact
      rw [screen] at liveShown
      refine ⟨.onWidget live gesture, fun later => by simp [replay, recorded, exact], ?_⟩
      have uid := Widget.uid_eq_of_matchesExactly captured liveShown member same
      have bounds := Widget.bounds_eq_of_matchesExactly same
      exact ⟨fun package => by simp [Action.command, bounds], by simp [counterKey, uid], rfl⟩
  | pressBack =>
      refine ⟨.pressBack, ?_, .refl _ _⟩
      intro later
      simp only [replay, recorded, screen, away recorded, Bool.false_eq_true, if_false]
      by_cases shows : entry.screen.widgets = []
      · have nowhere (widget : Widget) : context.findAnywhere widget = none := by
          simp [Context.findAnywhere, Screen.findAnywhere, screen, shows]
        cases (PlaybackTrace.firstWidgetEntry later).bind (·.action.widget?) with
        | none => simp
        | some widget => simp [nowhere]
      · rw [if_pos (Screen.isFull_similarity_self shows)]
  | reset => exact ⟨.reset, fun later => by simp [replay, recorded], .refl _ _⟩
  | terminate => exact ⟨.terminate, fun later => by simp [replay, recorded], .refl _ _⟩
  | observe => exact ⟨.observe, fun later => by simp [replay, recorded], .refl _ _⟩

/-- A pending step that cannot be skipped is the one that is replayed next. -/
theorem next_recorded
    {playback : Playback} {context : Context} {entry : TraceEntry} {rest : List TraceEntry}
    {action : Action} (inOrder : InOrder playback.traces)
    (pending : pendingOf playback.traces = entry :: rest)
    (replays : ∀ later, replay context entry later = some action) :
    (playback.next context).1 = .ok action ∧
      stepsOf (playback.next context).2.traces =
        (stepsOf playback.traces).modify (passedIn playback.traces) TraceEntry.replayed ∧
      passedIn (playback.next context).2.traces = passedIn playback.traces + 1 := by
  have unskipped : ¬ IsSkipped context entry := by
    rintro ⟨later, skipped⟩
    rw [replays later] at skipped
    contradiction
  obtain ⟨sought, -⟩ := next_sought context inOrder
  generalize (playback.next context).1 = answer at sought ⊢
  cases sought with
  | @replayed skipped later _ found chosen split skips chooses marked reached =>
      rw [pending] at split
      cases skipped with
      | nil =>
          cases split
          rw [replays] at chooses
          cases chooses
          exact ⟨rfl, marked, reached⟩
      | cons first others =>
          cases split
          exact (unskipped (skips entry List.mem_cons_self)).elim
  | finished skips same complete =>
      exact (unskipped (skips entry (pending ▸ List.mem_cons_self))).elim
  | @tooMany skipped later count split skips some same reached =>
      rw [pending] at split
      cases skipped with
      | nil => contradiction
      | cons first others =>
          cases split
          exact (unskipped (skips entry List.mem_cons_self)).elim

/-- The playback has replayed the first steps, all of them, and none of the rest. -/
structure HasReplayed (before rest : List (Action × Screen)) (playback : Playback) : Prop where
  inOrder : InOrder playback.traces
  recorded : (stepsOf playback.traces).map (fun entry => (entry.action, entry.screen)) =
    before ++ rest
  passed : passedIn playback.traces = before.length
  explored : ∀ position < before.length, IsExplored playback.traces position

theorem hasReplayed_ofRecords
    (package : String) (records : List (Action × Screen)) (maxSkips : Nat) :
    HasReplayed [] records { ofRecords package records with maxSkips := maxSkips } where
  inOrder := (kept_of_isFresh (isFresh_of_mem_ofRecords package records)).inOrder
  recorded := recorded_ofRecords package records
  passed := InOrder.passedIn_unbegun fun trace member =>
    (isFresh_of_mem_ofRecords package records trace member).cursor
  explored := by simp

theorem HasReplayed.next
    {playback : Playback} {before rest : List (Action × Screen)} {action : Action}
    {screen : Screen} (replayed : HasReplayed before ((action, screen) :: rest) playback)
    (context : Context) (shows : context.screen = screen) (captured : screen.IsCaptured)
    (shown : action.IsShownOn screen) (away : action = .pressBack → screen.isHome = false) :
    ∃ again, (playback.next context).1 = .ok again ∧ Action.ActsLike screen action again ∧
      HasReplayed (before ++ [(action, screen)]) rest (playback.next context).2 := by
  have split : (pendingOf playback.traces).map (fun entry => (entry.action, entry.screen)) =
      (action, screen) :: rest := by
    rw [replayed.inOrder.pendingOf_eq_drop, List.map_drop, replayed.recorded, replayed.passed,
      List.drop_left]
  obtain ⟨entry, later, pending, same, -⟩ := List.map_eq_cons_iff.mp split
  cases same
  obtain ⟨again, replays, actsLike⟩ := replay_recorded shows captured shown away
  obtain ⟨answered, marked, reached⟩ := next_recorded replayed.inOrder pending replays
  obtain ⟨-, inOrder, -⟩ := next_sought context replayed.inOrder
  have found : (stepsOf playback.traces)[passedIn playback.traces]? = some entry :=
    getElem?_of_pendingOf [] replayed.inOrder pending
  refine ⟨again, answered, actsLike, inOrder, ?_, ?_, ?_⟩
  · rw [marked, PlaybackTrace.recorded_modify, replayed.recorded, List.append_assoc]
    rfl
  · rw [reached, replayed.passed, List.length_append]
    rfl
  · intro position within
    rw [IsExplored, marked, List.getElem?_modify]
    by_cases here : passedIn playback.traces = position
    · rw [← here, found]
      exact ⟨entry.replayed, by simp, rfl⟩
    · rw [replayed.passed] at here
      rw [List.length_append, List.length_singleton] at within
      obtain ⟨other, before, explored⟩ := replayed.explored position (by omega)
      exact ⟨other, by simp [replayed.passed, here, before], explored⟩

/-- A playback that has replayed all steps is complete, and all its steps are explored. -/
theorem HasReplayed.complete
    {playback : Playback} {steps : List (Action × Screen)}
    (replayed : HasReplayed steps [] playback) :
    ∀ trace ∈ playback.traces, trace.isComplete = true ∧
      ∀ entry ∈ trace.entries, entry.explored = true := by
  have length : (stepsOf playback.traces).length = steps.length := by
    have recorded := congrArg List.length replayed.recorded
    simpa using recorded
  have none : pendingOf playback.traces = [] := by
    rw [replayed.inOrder.pendingOf_eq_drop, replayed.passed]
    exact List.drop_eq_nil_of_le (Nat.le_of_eq length)
  intro trace member
  refine ⟨decide_eq_true (List.drop_eq_nil_iff.mp (List.flatMap_eq_nil_iff.mp none trace member)),
    ?_⟩
  intro entry entryMember
  obtain ⟨position, found⟩ :=
    List.mem_iff_getElem?.mp (List.mem_flatMap.mpr ⟨trace, member, entryMember⟩)
  obtain ⟨within, -⟩ := List.getElem?_eq_some_iff.mp found
  obtain ⟨other, same, explored⟩ := replayed.explored position (length ▸ within)
  have equal : some entry = some other := found.symm.trans same
  cases equal
  exact explored

end Playback

namespace Engine

/-- An engine with a playback for its only strategy decides what the playback answers. -/
theorem decide_playback
    {engine : Engine} {playback : Playback} {action : Action} (store : Store) (screen : Screen)
    (elapsed : Duration) (package : String) (running : engine.isTerminated = false)
    (only : engine.strategies = [.playback playback])
    (answered : (playback.next
      (engine.context (store.count engine.lastKey) screen elapsed package)).1 = .ok action) :
    (engine.decide store screen elapsed package).result = .ok action ∧
      (engine.decide store screen elapsed package).engine.strategies =
        [.playback (playback.next
          (engine.context (store.count engine.lastKey) screen elapsed package)).2] := by
  have occupied : engine.strategies ≠ [] := by simp [only]
  rw [decide_eq store screen elapsed package running occupied]
  generalize engine.context (store.count engine.lastKey) screen elapsed package = context at *
  have highest : highest context [.playback playback] = .playback := rfl
  have chosen : decideWith .playback context [.playback playback] =
      some (.ok action, .playback (playback.next context).2,
        [.playback (playback.next context).2]) := by
    simp [decideWith, Strategy.fitness, Strategy.decide, answered]
  simp only [decideIn, only, highest, chosen]
  exact ⟨rfl, rfl⟩

end Engine

end GuiExplorer
