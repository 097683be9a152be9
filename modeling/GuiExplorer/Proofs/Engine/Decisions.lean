import GuiExplorer.Engine
import GuiExplorer.Proofs.Store.Counters

/-!
# Decisions of an engine

An engine decides one action after another, each on a screen that was recorded
before.  The action on a widget is counted by the decision after it.
-/

namespace GuiExplorer

/-- The counter for an action on a screen, if it is on a widget. -/
def counterKey : Action × Screen → Option (Uuid × Uuid)
  | (.onWidget widget _, screen) => some (screen.uid, widget.uid)
  | _ => none

theorem counterKey_eq_some_iff
    {action : Action} {screen : Screen} {screenId widgetId : Uuid} :
    counterKey (action, screen) = some (screenId, widgetId) ↔
      screen.uid = screenId ∧ ∃ widget, action.widget? = some widget ∧ widget.uid = widgetId := by
  cases action <;> simp [counterKey, Action.widget?]

namespace Engine

/-- The counter that the next decision raises. -/
def lastKey (engine : Engine) : Option (Uuid × Uuid) :=
  engine.last.bind counterKey

theorem countLast_eq (engine : Engine) (store : Store) :
    engine.countLast store = store.count engine.lastKey := by
  unfold countLast lastKey
  rcases engine.last with _ | ⟨action, screen⟩
  · rfl
  · cases action <;> rfl

/-- The strategy whose action was decided is one of the pool, and its priority
is the highest. -/
theorem decider_of_decideWith
    {priority : Priority} {context : Context} {strategies : List Strategy}
    {result : Except StrategyError Action} {decider : Strategy} {after : List Strategy}
    (decided : decideWith priority context strategies = some (result, decider, after)) :
    ∃ strategy ∈ strategies,
      strategy.fitness context = priority ∧ strategy.decide context = (result, decider) := by
  induction strategies generalizing after with
  | nil => simp [decideWith] at decided
  | cons strategy rest ih =>
      rw [decideWith] at decided
      split at decided
      case isTrue chosen =>
        simp only [Option.some.injEq, Prod.mk.injEq] at decided
        obtain ⟨sameResult, sameDecider, -⟩ := decided
        exact ⟨strategy, List.mem_cons_self, chosen, Prod.ext sameResult sameDecider⟩
      case isFalse =>
        rw [Option.map_eq_some_iff] at decided
        obtain ⟨⟨laterResult, laterDecider, laterRest⟩, later, same⟩ := decided
        cases same
        obtain ⟨found, member, facts⟩ := ih later
        exact ⟨found, List.mem_cons_of_mem _ member, facts⟩

theorem ne_nil_of_decideWith
    {priority : Priority} {context : Context} {strategies : List Strategy}
    {result : Except StrategyError Action} {decider : Strategy} {after : List Strategy}
    (decided : decideWith priority context strategies = some (result, decider, after)) :
    after ≠ [] := by
  cases strategies with
  | nil => simp [decideWith] at decided
  | cons strategy rest =>
      rw [decideWith] at decided
      split at decided
      · cases decided
        exact List.cons_ne_nil _ _
      · rw [Option.map_eq_some_iff] at decided
        obtain ⟨later, -, same⟩ := decided
        cases same
        exact List.cons_ne_nil _ _

theorem decideIn_ok
    {engine next : Engine} {context : Context} {action : Action}
    (decided : engine.decideIn context = (.ok action, next)) :
    next.last = some (action, context.screen) ∧
      next.actionCount = engine.actionCount + 1 ∧
      (engine.isTerminated = false → next.isTerminated = action.isTerminate) ∧
      next.strategies ≠ [] ∧
      ∃ strategy ∈ engine.strategies, (strategy.decide context).1 = .ok action := by
  simp only [decideIn] at decided
  split at decided
  · simp at decided
  · split at decided
    · simp at decided
    · simp at decided
    · next chosen decider strategies found =>
      obtain ⟨strategy, member, -, decision⟩ := decider_of_decideWith found
      simp only [Prod.mk.injEq, Except.ok.injEq] at decided
      obtain ⟨same, sameEngine⟩ := decided
      subst same sameEngine
      refine ⟨rfl, rfl, ?_, ne_nil_of_decideWith found, strategy, member, by rw [decision]⟩
      intro running
      unfold isTerminated at running ⊢
      cases chosen.isTerminate <;> simp [running]

theorem decideIn_error
    {engine next : Engine} {context : Context} {error : EngineError}
    (failed : engine.decideIn context = (.error error, next)) :
    next.actionCount = engine.actionCount := by
  simp only [decideIn] at failed
  split at failed
  · cases failed
    rfl
  · split at failed <;> cases failed <;> rfl

/-- An engine that goes on and has strategies counts the last action and decides
in the context after that. -/
theorem decide_eq
    {engine : Engine} (store : Store) (screen : Screen) (elapsed : Duration) (package : String)
    (running : engine.isTerminated = false) (occupied : engine.strategies ≠ []) :
    engine.decide store screen elapsed package =
      let context := engine.context (store.count engine.lastKey) screen elapsed package
      ⟨(engine.decideIn context).1, (engine.decideIn context).2, store.count engine.lastKey,
        engine.noticesFor context⟩ := by
  have nonempty : engine.strategies.isEmpty = false := by simpa using occupied
  simp only [decide, running, nonempty, Bool.false_eq_true, if_false, countLast_eq]

/-- An engine that decides nothing at all leaves everything as it is. -/
theorem decide_idle
    {engine : Engine} (store : Store) (screen : Screen) (elapsed : Duration) (package : String)
    (idle : engine.isTerminated = true ∨ engine.strategies = []) :
    ∃ error, engine.decide store screen elapsed package = ⟨.error error, engine, store, []⟩ := by
  unfold decide
  by_cases terminated : engine.isTerminated = true
  · exact ⟨.terminated, by rw [if_pos terminated]⟩
  · have empty : engine.strategies.isEmpty = true := by simp_all
    exact ⟨.emptyPool, by rw [if_neg terminated, if_pos empty]⟩

theorem idle_or_running (engine : Engine) :
    (engine.isTerminated = true ∨ engine.strategies = []) ∨
      (engine.isTerminated = false ∧ engine.strategies ≠ []) := by
  cases engine.isTerminated <;> cases engine.strategies <;> simp

/-- What a successful decision leaves behind: the last action was counted before,
and the new one is remembered with its screen. -/
theorem decide_ok
    {engine : Engine} {store : Store} {screen : Screen} {elapsed : Duration}
    {package : String} {action : Action}
    (decided : (engine.decide store screen elapsed package).result = .ok action) :
    (engine.decide store screen elapsed package).store = store.count engine.lastKey ∧
      (engine.decide store screen elapsed package).engine.last = some (action, screen) ∧
      (engine.decide store screen elapsed package).engine.actionCount =
        engine.actionCount + 1 ∧
      (engine.decide store screen elapsed package).engine.isTerminated = action.isTerminate ∧
      (engine.decide store screen elapsed package).engine.strategies ≠ [] ∧
      ∃ strategy ∈ engine.strategies,
        (strategy.decide
          (engine.context (store.count engine.lastKey) screen elapsed package)).1 =
          .ok action := by
  rcases idle_or_running engine with idle | ⟨running, occupied⟩
  · obtain ⟨error, failed⟩ := decide_idle store screen elapsed package idle
    rw [failed] at decided
    contradiction
  · rw [decide_eq store screen elapsed package running occupied] at decided ⊢
    obtain ⟨last, count, terminated, strategies, decider⟩ := decideIn_ok (Prod.ext decided rfl)
    exact ⟨rfl, last, count, terminated running, strategies, decider⟩

theorem lastKey_of_decide
    {engine : Engine} {store : Store} {screen : Screen} {elapsed : Duration}
    {package : String} {action : Action}
    (decided : (engine.decide store screen elapsed package).result = .ok action) :
    (engine.decide store screen elapsed package).engine.lastKey = counterKey (action, screen) := by
  obtain ⟨-, last, -⟩ := decide_ok decided
  rw [lastKey, last]
  rfl

/-- What a failed decision leaves behind: no new action, and unless there was
nothing to ask, the last action was counted. -/
theorem decide_error
    {engine : Engine} {store : Store} {screen : Screen} {elapsed : Duration}
    {package : String} {error : EngineError}
    (failed : (engine.decide store screen elapsed package).result = .error error) :
    (engine.decide store screen elapsed package).engine.actionCount = engine.actionCount ∧
      (engine.isTerminated = false → engine.strategies ≠ [] →
        (engine.decide store screen elapsed package).store = store.count engine.lastKey) ∧
      (engine.strategies = [] →
        (engine.decide store screen elapsed package).store = store) := by
  rcases idle_or_running engine with idle | ⟨running, occupied⟩
  · obtain ⟨_, nothing⟩ := decide_idle store screen elapsed package idle
    rw [nothing]
    refine ⟨rfl, fun running occupied => ?_, fun _ => rfl⟩
    rcases idle with terminated | empty
    · simp [running] at terminated
    · contradiction
  · rw [decide_eq store screen elapsed package running occupied] at failed ⊢
    exact ⟨decideIn_error (Prod.ext failed rfl), fun _ _ => rfl,
      fun empty => (occupied empty).elim⟩

/-- The engine decides these actions on these screens, one after another; each
screen is recorded in the store first. -/
inductive Decides (package : String) :
    Engine → Store → List (Action × Screen) → Engine → Store → Prop where
  | done (engine : Engine) (store : Store) : Decides package engine store [] engine store
  | next {engine final : Engine} {store finalStore : Store} {action : Action} {screen : Screen}
      {rest : List (Action × Screen)} (elapsed : Duration)
      (decided :
        (engine.decide (store.record screen) screen elapsed package).result = .ok action)
      (later : Decides package (engine.decide (store.record screen) screen elapsed package).engine
        (engine.decide (store.record screen) screen elapsed package).store rest final
        finalStore) :
      Decides package engine store ((action, screen) :: rest) final finalStore

namespace Decides

variable {package : String} {engine final : Engine} {store finalStore : Store}
  {steps : List (Action × Screen)}

theorem concat
    {action : Action} {screen : Screen}
    (decides : Decides package engine store steps final finalStore) (elapsed : Duration)
    (decided :
      (final.decide (finalStore.record screen) screen elapsed package).result = .ok action) :
    Decides package engine store (steps ++ [(action, screen)])
      (final.decide (finalStore.record screen) screen elapsed package).engine
      (final.decide (finalStore.record screen) screen elapsed package).store := by
  induction decides with
  | done => exact .next elapsed decided (.done _ _)
  | next earlier first later ih => exact .next earlier first (ih decided)

theorem actionCount_eq (decides : Decides package engine store steps final finalStore) :
    final.actionCount = engine.actionCount + steps.length := by
  induction decides with
  | done => simp
  | next elapsed decided later ih =>
      obtain ⟨-, -, count, -⟩ := decide_ok decided
      rw [ih, count, List.length_cons]
      omega

end Decides

end Engine

end GuiExplorer
