import GuiExplorer.Store.Basic

/-!
# Calls on a store

What the clients of a store may ask of it, what they are answered, and what
becomes of the store.
-/

namespace GuiExplorer.Store

/-- A call of a client. -/
inductive Call where
  | record (screen : Screen)
  | increment (screen widget : Uuid)
  | actedCount (screen widget : Uuid)
  | snapshot
deriving DecidableEq

/-- What a client is answered. -/
inductive Answer where
  /-- The observation that was appended. -/
  | observation (screen : Screen)
  | count (value : UInt32)
  | model (snapshot : StoreSnapshot)
deriving DecidableEq

/-- The store after a call. -/
def perform (store : Store) : Call → Store
  | .record screen => store.record screen
  | .increment screen widget => store.increment screen widget
  | .actedCount _ _ => store
  | .snapshot => store

/-- The answer to a call.  Counting is answered by the new count. -/
def answer (store : Store) : Call → Answer
  | .record screen => .observation screen
  | .increment screen widget => .count ((store.increment screen widget).actedCount screen widget)
  | .actedCount screen widget => .count (store.actedCount screen widget)
  | .snapshot => .model store.snapshot

/-- The store after one call after another. -/
def after (store : Store) (calls : List Call) : Store :=
  calls.foldl perform store

/-- The screen that a call records. -/
def Call.screen? : Call → Option Screen
  | .record screen => some screen
  | _ => none

/-- The screens that calls record, in order. -/
def recorded (calls : List Call) : List Screen :=
  calls.filterMap Call.screen?

/-- How many of the calls count the widget on the screen. -/
def timesCounted (calls : List Call) (screen widget : Uuid) : Nat :=
  calls.count (.increment screen widget)

end GuiExplorer.Store
