import GuiExplorer.Proofs.Engine.Decisions
import GuiExplorer.Proofs.Playback.Accounting

/-!
# Targets of decided actions

Whatever strategies there are, an action that was decided on a screen is on no
widget or on one of that screen.
-/

namespace GuiExplorer

/-- The action is on no widget, or on one that the screen shows. -/
def Action.IsShownOn (screen : Screen) (action : Action) : Prop :=
  ∀ widget, action.widget? = some widget → widget ∈ screen.widgets

theorem Action.Replays.isShownOn
    {screen : Screen} {recorded action : Action} (replays : Action.Replays screen recorded action) :
    action.IsShownOn screen := by
  cases replays with
  | plain noWidget =>
      intro widget target
      rw [noWidget] at target
      contradiction
  | onWidget shown same =>
      intro widget target
      cases target
      exact shown

/-- What a search for the next action answers replays some recorded step or ends the
run, however the cursors stand. -/
theorem Playback.isShownOn_of_seek
    {context : Context} {maxSkips skipped : Nat} {traces : List PlaybackTrace} {action : Action}
    (answered : (seek context maxSkips skipped traces).1 = .ok action) :
    action.IsShownOn context.screen := by
  induction traces generalizing skipped with
  | nil =>
      cases answered
      intro widget target
      contradiction
  | cons trace rest ih =>
      have scanned := scan_scanned context maxSkips skipped trace.pending
      rcases result : scan context maxSkips skipped trace.pending with ⟨passed, ending⟩
      rw [result] at scanned
      cases ending with
      | found chosen =>
          simp only [seek, result, Except.ok.injEq] at answered
          subst answered
          generalize trace.pending = steps at scanned
          cases scanned with
          | found skipped skips replays => exact (replays_of_replay replays).isShownOn
      | exhausted count =>
          simp only [seek, result] at answered
          exact ih answered
      | tooMany count =>
          simp only [seek, result] at answered
          contradiction

namespace Strategy

theorem leastUsedFrom_mem (best : WidgetInfo) (others : List WidgetInfo) :
    leastUsedFrom best others ∈ best :: others := by
  induction others generalizing best with
  | nil => exact List.mem_singleton_self best
  | cons info rest ih =>
      rw [leastUsedFrom]
      split
      · rcases List.mem_cons.mp (ih best) with here | there
        · rw [here]
          exact List.mem_cons_self
        · exact List.mem_cons_of_mem _ (List.mem_cons_of_mem _ there)
      · exact List.mem_cons_of_mem _ (ih info)

theorem leastUsed_mem
    {context : Context} {info : WidgetInfo} (chosen : leastUsed context = some info) :
    info ∈ context.widgets := by
  unfold leastUsed at chosen
  split at chosen
  case h_1 => contradiction
  case h_2 first rest candidates =>
    cases chosen
    apply List.mem_of_mem_filter (p := fun info => info.widget.isActionable)
    rw [← Context.actionable, candidates]
    exact leastUsedFrom_mem first rest

theorem allowButton_candidate
    {context : Context} {button : Widget} (chosen : allowButton context = some button) :
    ∃ info ∈ context.actionable, info.widget = button := by
  apply List.mem_map.mp
  simp only [allowButton, Option.or_eq_some_iff] at chosen
  rcases chosen with byId | ⟨-, byLabel | ⟨-, byLabel⟩⟩
  · exact List.mem_of_find?_eq_some byId
  · exact List.mem_of_find?_eq_some byLabel
  · exact List.mem_of_find?_eq_some byLabel

theorem allowButton_mem
    {context : Context} {button : Widget} (chosen : allowButton context = some button) :
    ∃ info ∈ context.widgets, info.widget = button := by
  obtain ⟨info, member, same⟩ := allowButton_candidate chosen
  exact ⟨info, List.mem_of_mem_filter member, same⟩

/-- A strategy that sees the widgets of the screen only chooses among them. -/
theorem isShownOn_of_decide
    {strategy : Strategy} {context : Context} {action : Action}
    (seen : ∀ info ∈ context.widgets, info.widget ∈ context.screen.widgets)
    (decided : (strategy.decide context).1 = .ok action) :
    action.IsShownOn context.screen := by
  intro widget target
  cases strategy with
  | explore =>
      simp only [decide] at decided
      split at decided
      case h_1 info chosen =>
        cases decided
        cases target
        exact seen info (leastUsed_mem chosen)
      case h_2 => contradiction
  | allowPermission =>
      simp only [decide] at decided
      split at decided
      case h_1 button chosen =>
        cases decided
        cases target
        obtain ⟨info, member, same⟩ := allowButton_mem chosen
        exact same ▸ seen info member
      case h_2 => contradiction
  | playback recorded => exact Playback.isShownOn_of_seek decided widget target
  | back | reset | terminate =>
      cases decided
      contradiction

end Strategy

namespace Engine

/-- The widgets that strategies see of a screen that was just recorded are its own, with
their counts. -/
theorem widgetsFor_record (store : Store) (screen : Screen) (key : Option (Uuid × Uuid)) :
    widgetsFor ((store.record screen).count key) screen =
      screen.widgets.map fun widget =>
        ⟨widget, (store.count key).actedCount screen.uid widget.uid⟩ := by
  have latest : ((store.count key).record screen).latestOf screen.uid = some screen := by
    simp [Store.latestOf_record]
  rw [Store.count_record]
  simp only [widgetsFor, Store.widgetsOf, latest, Store.actedCount_record]
  split
  case isTrue missing => simp [Screen.isEmpty] at missing
  case isFalse => rfl

theorem mem_of_widgetsFor
    (store : Store) (screen : Screen) (key : Option (Uuid × Uuid)) :
    ∀ info ∈ widgetsFor ((store.record screen).count key) screen,
      info.widget ∈ screen.widgets := by
  intro info member
  rw [widgetsFor_record] at member
  obtain ⟨widget, shown, same⟩ := List.mem_map.mp member
  exact same ▸ shown

/-- An action that is decided on a screen is on no widget but one of that screen. -/
theorem isShownOn_of_decide
    {engine : Engine} {store : Store} {screen : Screen} {elapsed : Duration} {package : String}
    {action : Action}
    (decided : (engine.decide (store.record screen) screen elapsed package).result = .ok action) :
    action.IsShownOn screen := by
  obtain ⟨-, -, -, -, -, strategy, -, chosen⟩ := decide_ok decided
  exact Strategy.isShownOn_of_decide (mem_of_widgetsFor store screen engine.lastKey) chosen

end Engine

end GuiExplorer
