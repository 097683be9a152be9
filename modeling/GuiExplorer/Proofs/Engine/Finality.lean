import GuiExplorer.Proofs.Engine.Budget

/-!
# The end of a run is final

An engine remembers how many actions it has decided, the last of them, and whether and why the run
has ended.  Whatever it is asked, and whatever fails in between, this agrees with what it has
answered; and once it has decided to terminate it decides nothing more and changes nothing.
-/

namespace GuiExplorer

theorem Action.isTerminate_iff {action : Action} :
    action.isTerminate = true ↔ action = .terminate := by
  cases action <;> simp [isTerminate]

namespace Decision

/-- Whether it was decided to end the run. -/
def endsRun (decision : Decision) : Bool :=
  decision.result.toOption.any Action.isTerminate

theorem endsRun_iff {decision : Decision} :
    decision.endsRun = true ↔ decision.result = .ok .terminate := by
  rcases result : decision.result with error | action <;>
    simp [endsRun, result, Except.toOption, Action.isTerminate_iff]

end Decision

namespace Engine

/-- What an engine may be asked to do. -/
inductive Call where
  | decide (occasion : Occasion)
  | register (strategy : Strategy)
  | listen

def call (engine : Engine) : Call → Engine
  | .decide occasion => (engine.decideOn occasion).engine
  | .register strategy => engine.register strategy
  | .listen => engine.listen

/-- The engine after one call after another. -/
def afterCalls (engine : Engine) (calls : List Call) : Engine :=
  calls.foldl call engine

/-- What is decided in one call after another. -/
def answers (engine : Engine) : List Call → List Decision
  | [] => []
  | .decide occasion :: rest =>
      engine.decideOn occasion :: (engine.call (.decide occasion)).answers rest
  | .register strategy :: rest => (engine.call (.register strategy)).answers rest
  | .listen :: rest => (engine.call .listen).answers rest

/-- How a decision changes an engine: only strategies change, or an action is decided and
remembered together with its screen. -/
inductive Steps (engine : Engine) (screen : Screen) :
    Except EngineError Action → Engine → Prop where
  | fails (error : EngineError) (strategies : List Strategy) :
      Steps engine screen (.error error) { engine with strategies := strategies }
  | acts (action : Action) (strategies : List Strategy) (reason : String) :
      Steps engine screen (.ok action)
        { engine with
          strategies := strategies
          state := if action.isTerminate then .terminated else engine.state
          last := some (action, screen)
          actionCount := engine.actionCount + 1
          terminationReason :=
            if action.isTerminate then some reason else engine.terminationReason }

theorem decideIn_steps (engine : Engine) (context : Context) :
    Steps engine context.screen (engine.decideIn context).1 (engine.decideIn context).2 := by
  simp only [decideIn]
  split
  case isTrue => exact .fails _ engine.strategies
  case isFalse =>
    split
    case h_1 => exact .fails _ engine.strategies
    case h_2 => exact .fails _ _
    case h_3 => exact .acts _ _ _

theorem decideOn_steps (engine : Engine) (occasion : Occasion) :
    Steps engine occasion.screen (engine.decideOn occasion).result
      (engine.decideOn occasion).engine := by
  obtain ⟨store, screen, elapsed, package⟩ := occasion
  rcases idle_or_running engine with idle | ⟨running, occupied⟩
  · obtain ⟨error, nothing⟩ := decide_idle store screen elapsed package idle
    rw [decideOn, nothing]
    exact .fails error engine.strategies
  · rw [decideOn, decide_eq store screen elapsed package running occupied]
    exact decideIn_steps engine
      (engine.context (store.count engine.lastKey) screen elapsed package)

/-- After the end of the run nothing is decided, nothing is counted and nobody is told. -/
theorem decideOn_terminated
    {engine : Engine} (occasion : Occasion) (terminated : engine.state = .terminated) :
    engine.decideOn occasion = ⟨.error .terminated, engine, occasion.store, []⟩ := by
  have idle : engine.isTerminated = true := decide_eq_true terminated
  rw [decideOn, decide, if_pos idle]

/-- The actions that were decided, in order. -/
def actionsOf (decisions : List Decision) : List Action :=
  decisions.filterMap (·.result.toOption)

theorem actionsOf_concat (decisions : List Decision) (decision : Decision) :
    actionsOf (decisions ++ [decision]) =
      actionsOf decisions ++ decision.result.toOption.toList := by
  rw [actionsOf, List.filterMap_append]
  cases result : decision.result.toOption <;> simp [actionsOf, result]

/-- What an engine remembers agrees with the decisions that it has made. -/
structure Remembers (engine : Engine) (decisions : List Decision) : Prop where
  actionCount : engine.actionCount = (actionsOf decisions).length
  lastAction : engine.lastAction = (actionsOf decisions).getLast?
  state : engine.state = .terminated ↔ engine.lastAction = some .terminate
  reason : engine.state = .terminated ↔ engine.terminationReason.isSome = true
  /-- The run was ended once, if it has ended, and else never. -/
  ended : decisions.countP (·.endsRun) = if engine.state = .terminated then 1 else 0
  /-- Once the run was ended, all further decisions were refused. -/
  refused : decisions.Pairwise fun earlier later =>
    earlier.result = .ok .terminate → later.result = .error .terminated

namespace Remembers

variable {engine : Engine} {decisions : List Decision}

theorem new (threshold : UInt32) (pool : List Strategy) :
    (ofStrategies threshold pool).Remembers [] := by
  constructor <;> simp [ofStrategies, actionsOf, Engine.lastAction]

theorem terminated
    (remembers : engine.Remembers decisions)
    (ends : ∃ decision ∈ decisions, decision.result = .ok .terminate) :
    engine.state = .terminated := by
  obtain ⟨decision, member, result⟩ := ends
  have positive : 0 < decisions.countP (·.endsRun) :=
    List.countP_pos_iff.mpr ⟨decision, member, Decision.endsRun_iff.mpr result⟩
  rw [remembers.ended] at positive
  by_contra running
  simp [running] at positive

theorem refused_concat
    (remembers : engine.Remembers decisions) (decision : Decision)
    (refused : engine.state = .terminated → decision.result = .error .terminated) :
    (decisions ++ [decision]).Pairwise fun earlier later =>
      earlier.result = .ok .terminate → later.result = .error .terminated := by
  refine List.pairwise_append.mpr ⟨remembers.refused, List.pairwise_singleton _ _, ?_⟩
  intro earlier member later last ends
  rw [List.mem_singleton.mp last]
  exact refused (remembers.terminated ⟨earlier, member, ends⟩)

theorem fails
    (remembers : engine.Remembers decisions) (strategies : List Strategy) (decision : Decision)
    {error : EngineError} (failed : decision.result = .error error)
    (refused : engine.state = .terminated → error = .terminated) :
    Remembers { engine with strategies := strategies } (decisions ++ [decision]) where
  actionCount := by simp [actionsOf_concat, failed, Except.toOption, remembers.actionCount]
  lastAction := by
    have same : actionsOf (decisions ++ [decision]) = actionsOf decisions := by
      simp [actionsOf_concat, failed, Except.toOption]
    rw [same, ← remembers.lastAction]
    rfl
  state := remembers.state
  reason := remembers.reason
  ended := by
    have goesOn : decision.endsRun = false := by simp [Decision.endsRun, failed, Except.toOption]
    simp [goesOn, remembers.ended]
  refused := remembers.refused_concat decision fun terminated => by
    rw [failed, refused terminated]

theorem acts
    (remembers : engine.Remembers decisions) (running : engine.state ≠ .terminated)
    {next : Engine} {screen : Screen} {action : Action} (decision : Decision)
    (steps : Steps engine screen (.ok action) next) (decided : decision.result = .ok action) :
    next.Remembers (decisions ++ [decision]) := by
  cases steps with
  | acts _ strategies reason =>
      have same : decision.endsRun = action.isTerminate := by
        simp [Decision.endsRun, decided, Except.toOption]
      have unexplained : engine.terminationReason.isSome = false := by
        have := mt remembers.reason.mpr running
        simpa using this
      constructor
      case actionCount =>
        simp [actionsOf_concat, decided, Except.toOption, remembers.actionCount]
      case lastAction => simp [actionsOf_concat, decided, Except.toOption, Engine.lastAction]
      case state =>
        by_cases ends : action.isTerminate = true <;>
          simp [ends, running, Engine.lastAction, ← Action.isTerminate_iff]
      case reason =>
        by_cases ends : action.isTerminate = true <;> simp [ends, running, unexplained]
      case ended =>
        rw [List.countP_append, remembers.ended, List.countP_singleton, same]
        by_cases ends : action.isTerminate = true <;> simp [ends, running]
      case refused =>
        exact remembers.refused_concat decision fun terminated => (running terminated).elim

theorem decide (remembers : engine.Remembers decisions) (occasion : Occasion) :
    (engine.decideOn occasion).engine.Remembers (decisions ++ [engine.decideOn occasion]) := by
  by_cases terminated : engine.state = .terminated
  · rw [decideOn_terminated occasion terminated]
    exact remembers.fails engine.strategies _ rfl fun _ => rfl
  · have steps := decideOn_steps engine occasion
    generalize engine.decideOn occasion = decision at steps ⊢
    obtain ⟨result, next, store, notices⟩ := decision
    cases steps with
    | fails error strategies =>
        exact remembers.fails strategies _ rfl fun ended => (terminated ended).elim
    | acts action strategies reason =>
        exact remembers.acts terminated _ (.acts action strategies reason) rfl

theorem register (remembers : engine.Remembers decisions) (strategy : Strategy) :
    (engine.register strategy).Remembers decisions := by
  obtain ⟨actionCount, lastAction, state, reason, ended, refused⟩ := remembers
  exact ⟨actionCount, lastAction, state, reason, ended, refused⟩

theorem listen (remembers : engine.Remembers decisions) : engine.listen.Remembers decisions := by
  obtain ⟨actionCount, lastAction, state, reason, ended, refused⟩ := remembers
  exact ⟨actionCount, lastAction, state, reason, ended, refused⟩

theorem afterCalls (remembers : engine.Remembers decisions) (calls : List Call) :
    (engine.afterCalls calls).Remembers (decisions ++ engine.answers calls) := by
  induction calls generalizing engine decisions with
  | nil =>
      rw [answers, List.append_nil]
      exact remembers
  | cons call rest ih =>
      cases call with
      | decide occasion =>
          rw [answers, List.append_cons]
          exact ih (remembers.decide occasion)
      | register strategy => exact ih (remembers.register strategy)
      | listen => exact ih remembers.listen

end Remembers

/-- Whatever a new engine is asked, in any order: it remembers what it has decided, and it ends the
run at most once.  After that every decision is refused, and neither the engine with its strategies
nor the counters change; no listener is told anything. -/
theorem termination_is_final (threshold : UInt32) (pool : List Strategy) (calls : List Call) :
    let engine := ofStrategies threshold pool
    (engine.afterCalls calls).Remembers (engine.answers calls) ∧
      ((∃ decision ∈ engine.answers calls, decision.result = .ok .terminate) →
        ∀ occasion, (engine.afterCalls calls).decideOn occasion =
          ⟨.error .terminated, engine.afterCalls calls, occasion.store, []⟩) := by
  intro engine
  have remembers := (Remembers.new threshold pool).afterCalls calls
  rw [List.nil_append] at remembers
  exact ⟨remembers, fun ends occasion =>
    decideOn_terminated occasion (remembers.terminated ends)⟩

/-- A button is clicked, and the budget of one action ends the run; the click is counted then and
not again, though a strategy is registered that wants to go on. -/
theorem termination_is_final_after_click :
    let button : Widget := ⟨{ clickable := true, enabled := true, visible := true }, .nil, .nil⟩
    let occasion : Occasion := ⟨.empty, ⟨.nil, [button]⟩, ⟨0⟩, "com.example.app"⟩
    let engine := ofStrategies 1 [.explore, .actionBudget 1]
    let calls : List Call := [.decide occasion, .listen, .decide occasion, .register .reset]
    (engine.answers calls).map Decision.result = [.ok (.click button), .ok .terminate] ∧
      (engine.answers calls).map Decision.store = [.empty, .increment .empty .nil .nil] ∧
      ∀ later, (engine.afterCalls calls).decideOn later =
        ⟨.error .terminated, engine.afterCalls calls, later.store, []⟩ := by
  intro button occasion engine calls
  have results : (engine.answers calls).map Decision.result =
      [.ok (.click button), .ok .terminate] := by cbv
  have stores : (engine.answers calls).map Decision.store =
      [.empty, .increment .empty .nil .nil] := by cbv
  have ends : .ok .terminate ∈ (engine.answers calls).map Decision.result := by simp [results]
  obtain ⟨-, final⟩ := termination_is_final 1 [.explore, .actionBudget 1] calls
  exact ⟨results, stores, final (List.mem_map.mp ends)⟩

end Engine

end GuiExplorer
