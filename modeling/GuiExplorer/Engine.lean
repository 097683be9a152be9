import GuiExplorer.Strategy.Basic

/-!
# The exploration engine

In each step the strategies of a pool compete, and the one with the highest
priority decides; of several with that priority the one registered first.
Before the strategies are asked, the previous action is counted for the widget
and the screen it was decided on.
-/

namespace GuiExplorer

/-- Why an engine decides nothing. -/
inductive EngineError where
  | noApplicableStrategy (screen : Uuid)
  | terminated
  | emptyPool
  | strategy (name : String) (source : StrategyError)
deriving DecidableEq, Repr

namespace EngineError

/-- The wording of an engine error. -/
def message : EngineError → String
  | .noApplicableStrategy screen => "No strategy is applicable on screen " ++ screen.text
  | .terminated => "Exploration already terminated"
  | .emptyPool => "No strategies registered"
  | .strategy name source => "Strategy " ++ name ++ " failed: " ++ source.message

/-- The wording of the error behind this one. -/
def cause : EngineError → Option String
  | .strategy _ source => some source.message
  | _ => none

end EngineError

/-- Whether an engine goes on deciding. -/
inductive EngineState where
  | running
  | terminated
deriving DecidableEq, Repr

/-- A pool of strategies and what was decided so far. -/
structure Engine where
  /-- A screen is exhausted once every actionable widget was acted upon more than
  this many times. -/
  threshold : UInt32
  /-- In the order of registration. -/
  strategies : List Strategy
  state : EngineState
  /-- How many listeners are told about exhausted screens. -/
  listeners : Nat
  /-- The last action and the screen it was decided on. -/
  last : Option (Action × Screen)
  /-- Actions issued so far. -/
  actionCount : Nat
  /-- Why the run ended, once it has. -/
  terminationReason : Option String

/-- What a listener is told: its number and the exhausted screen. -/
abbrev Notice := Nat × Screen

/-- The outcome of a step. -/
structure Decision where
  result : Except EngineError Action
  engine : Engine
  store : Store
  /-- Notices sent during the step. -/
  notices : List Notice

namespace Engine

/-- Default number of actions per widget before a screen counts as exhausted. -/
def defaultThreshold : UInt32 :=
  1

/-- An engine that has decided nothing yet. -/
def ofStrategies (threshold : UInt32) (strategies : List Strategy) : Engine :=
  ⟨threshold, strategies, .running, 0, none, 0, none⟩

/-- Register one more strategy after the others. -/
def register (engine : Engine) (strategy : Strategy) : Engine :=
  { engine with strategies := engine.strategies ++ [strategy] }

/-- Add a listener. -/
def listen (engine : Engine) : Engine :=
  { engine with listeners := engine.listeners + 1 }

def isTerminated (engine : Engine) : Bool :=
  engine.state = .terminated

/-- The action of the last successful step. -/
def lastAction (engine : Engine) : Option Action :=
  engine.last.map Prod.fst

/-- Count the previous action, if it was on a widget. -/
def countLast (engine : Engine) (store : Store) : Store :=
  match engine.last with
  | some (.onWidget widget _, screen) => store.increment screen.uid widget.uid
  | _ => store

/-- The widgets that strategies see: those of the latest observation of the
screen, or the screen's own if that has none. -/
def widgetsFor (store : Store) (screen : Screen) : List WidgetInfo :=
  let stored := store.widgetsOf screen.uid
  if stored.isEmpty && !screen.isEmpty then Context.freshWidgets screen else stored

/-- The context of a step; the previous action has been counted in the store. -/
def context (engine : Engine) (store : Store) (screen : Screen) (elapsed : Duration)
    (appPackage : String) : Context :=
  ⟨screen, widgetsFor store screen, engine.actionCount, elapsed, engine.lastAction, appPackage⟩

/-- Notices to all listeners if the screen has actionable widgets and all of them
are exhausted. -/
def noticesFor (engine : Engine) (context : Context) : List Notice :=
  if !context.actionable.isEmpty && context.isExhausted engine.threshold then
    (List.range engine.listeners).map fun listener => (listener, context.screen)
  else []

/-- The highest of `best` and the priorities of the strategies. -/
def highestFrom (best : Priority) (context : Context) : List Strategy → Priority
  | [] => best
  | strategy :: rest =>
      let priority := strategy.fitness context
      highestFrom (if best < priority then priority else best) context rest

/-- The highest priority of the strategies. -/
def highest (context : Context) (strategies : List Strategy) : Priority :=
  highestFrom .none context strategies

/-- Let the first strategy with the given priority decide.  The result is what it
decided, the strategy afterwards, and all strategies afterwards. -/
def decideWith (priority : Priority) (context : Context) :
    List Strategy → Option (Except StrategyError Action × Strategy × List Strategy)
  | [] => none
  | strategy :: rest =>
      if strategy.fitness context = priority then
        let (result, strategy) := strategy.decide context
        some (result, strategy, strategy :: rest)
      else
        (decideWith priority context rest).map fun (result, decider, rest) =>
          (result, decider, strategy :: rest)

/-- Decide a step in a context. -/
def decideIn (engine : Engine) (context : Context) : Except EngineError Action × Engine :=
  let priority := highest context engine.strategies
  if priority = .none then (.error (.noApplicableStrategy context.screen.uid), engine)
  else
    match decideWith priority context engine.strategies with
    | none => (.error (.noApplicableStrategy context.screen.uid), engine)
    | some (.error source, decider, strategies) =>
        (.error (.strategy decider.name source), { engine with strategies := strategies })
    | some (.ok action, decider, strategies) =>
        let reason :=
          if action.isTerminate then some (decider.terminationReason context)
          else engine.terminationReason
        (.ok action,
          { engine with
            strategies := strategies
            state := if action.isTerminate then .terminated else engine.state
            last := some (action, context.screen)
            actionCount := engine.actionCount + 1
            terminationReason := reason })

/-- Decide the next action on a screen. -/
def decide (engine : Engine) (store : Store) (screen : Screen) (elapsed : Duration)
    (appPackage : String) : Decision :=
  if engine.isTerminated then ⟨.error .terminated, engine, store, []⟩
  else if engine.strategies.isEmpty then ⟨.error .emptyPool, engine, store, []⟩
  else
    let store := engine.countLast store
    let context := engine.context store screen elapsed appPackage
    let (result, next) := engine.decideIn context
    ⟨result, next, store, engine.noticesFor context⟩

end Engine

end GuiExplorer
