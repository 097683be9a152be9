import GuiExplorer.Screen
import GuiExplorer.Store.Counter

/-!
# The model store

The model of an app is the log of all observed screens, the latest observation
of each of them, and the acted-upon counters.  The log only grows; a screen that
is seen again is logged again, and its latest observation tells its widgets.
-/

namespace GuiExplorer

/-- A widget together with how often it was acted upon on its screen. -/
structure WidgetInfo where
  widget : Widget
  actedCount : UInt32
deriving DecidableEq, Repr

/-- Log of observed screens plus acted-upon counters. -/
structure Store where
  /-- Every observation, in order. -/
  observations : List Screen
  /-- The latest observation of each screen. -/
  screens : List Screen
  counters : List ActedCount
deriving DecidableEq, Repr

/-- Copy of a store at one point in time. -/
structure StoreSnapshot where
  /-- Screen id of every observation, in order. -/
  observations : List Uuid
  /-- Distinct screens in order of first observation. -/
  screens : List Screen
  /-- Counters in order of their keys. -/
  acted : List ActedCount
deriving DecidableEq, Repr

namespace Store

/-- Nothing was observed yet. -/
def empty : Store :=
  ⟨[], [], []⟩

instance : Inhabited Store := ⟨empty⟩

/-- Put an observation in the place of the one with the same id, or after all others. -/
def insertLatest (screen : Screen) : List Screen → List Screen
  | [] => [screen]
  | other :: rest =>
      if other.uid = screen.uid then screen :: rest else other :: insertLatest screen rest

/-- Append an observation. -/
def record (store : Store) (screen : Screen) : Store :=
  { store with
    observations := store.observations ++ [screen]
    screens := insertLatest screen store.screens }

/-- How often the widget was acted upon while the screen was shown. -/
def actedCount (store : Store) (screen widget : Uuid) : UInt32 :=
  Counters.get store.counters screen widget

/-- Count one more action on the widget while the screen was shown. -/
def increment (store : Store) (screen widget : Uuid) : Store :=
  { store with counters := Counters.increment store.counters screen widget }

/-- The latest observation of a screen. -/
def latestOf (store : Store) (screen : Uuid) : Option Screen :=
  store.screens.find? (·.uid = screen)

theorem find?_insertLatest (screen : Screen) (known : List Screen) (id : Uuid) :
    (insertLatest screen known).find? (·.uid = id) =
      if screen.uid = id then some screen else known.find? (·.uid = id) := by
  induction known with
  | nil => by_cases wanted : screen.uid = id <;> simp [insertLatest, wanted]
  | cons other rest ih =>
      rw [insertLatest]
      by_cases same : other.uid = screen.uid
      · rw [if_pos same]
        by_cases wanted : screen.uid = id <;> simp [same, wanted]
      · rw [if_neg same]
        by_cases wanted : other.uid = id
        · have different : screen.uid ≠ id := fun equal => same (wanted.trans equal.symm)
          simp [wanted, different]
        · simp [wanted, ih]

/-- Recording a screen makes it the latest observation of its id and of no other. -/
theorem latestOf_record (store : Store) (screen : Screen) (id : Uuid) :
    (store.record screen).latestOf id =
      if screen.uid = id then some screen else store.latestOf id :=
  find?_insertLatest screen store.screens id

/-- Widgets of the screen with their acted-upon counts, in screen order; none
for a screen that was never observed. -/
def widgetsOf (store : Store) (screen : Uuid) : List WidgetInfo :=
  match store.latestOf screen with
  | some observed =>
      observed.widgets.map fun widget => ⟨widget, store.actedCount screen widget.uid⟩
  | none => []

/-- The latest observation. -/
def latest (store : Store) : Option Screen :=
  store.observations.getLast?

/-- The screens whose id is neither in `known` nor that of an earlier one. -/
def distinctAfter (known : List Uuid) : List Screen → List Screen
  | [] => []
  | screen :: rest =>
      if known.contains screen.uid then distinctAfter known rest
      else screen :: distinctAfter (screen.uid :: known) rest

/-- The first observation of each screen, in order. -/
def distinct (store : Store) : List Screen :=
  distinctAfter [] store.observations

/-- Number of distinct screens seen so far. -/
def screenCount (store : Store) : Nat :=
  store.screens.length

/-- Copy of the whole store. -/
def snapshot (store : Store) : StoreSnapshot :=
  ⟨store.observations.map Screen.uid, store.distinct, store.counters⟩

end Store

end GuiExplorer
