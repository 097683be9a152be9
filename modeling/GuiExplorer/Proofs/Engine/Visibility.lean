import GuiExplorer.Proofs.Engine.Precedence

/-!
# What strategies see of a screen

A strategy is to see the widgets of the current screen and how often each of them was acted upon
there.  They are looked up by the identifier of the screen, which says nothing about the order of
the widgets, and where nothing is found all counts are taken to be zero.  So it depends on what
was observed under that identifier last whether a strategy sees what it is to see.
-/

namespace GuiExplorer

namespace Store

/-- The widgets of the latest observation of a screen; none if it was never observed. -/
def latestWidgets (store : Store) (screen : Uuid) : List Widget :=
  ((store.latestOf screen).map Screen.widgets).getD []

/-- Widgets with the counts that are stored for them on a screen. -/
def withCounts (store : Store) (screen : Uuid) (widgets : List Widget) : List WidgetInfo :=
  widgets.map fun widget => ⟨widget, store.actedCount screen widget.uid⟩

theorem widgetsOf_eq (store : Store) (screen : Uuid) :
    store.widgetsOf screen = store.withCounts screen (store.latestWidgets screen) := by
  unfold widgetsOf latestWidgets
  cases store.latestOf screen <;> rfl

theorem latestWidgets_count (store : Store) (key : Option (Uuid × Uuid)) (screen : Uuid) :
    (store.count key).latestWidgets screen = store.latestWidgets screen := by
  rcases key with _ | ⟨keyScreen, keyWidget⟩ <;> rfl

theorem latestWidgets_record (store : Store) (screen : Screen) :
    (store.record screen).latestWidgets screen.uid = screen.widgets := by
  simp [latestWidgets, latestOf_record]

/-- What is seen of widgets tells them apart. -/
theorem withCounts_injective {store : Store} {screen : Uuid} {widgets others : List Widget}
    (same : store.withCounts screen widgets = store.withCounts screen others) :
    widgets = others := by
  have shown := congrArg (List.map WidgetInfo.widget) same
  simpa [withCounts, Function.comp_def] using shown

/-- Widgets that were never acted upon have no counts. -/
theorem freshWidgets_eq_withCounts_iff {store : Store} {screen : Screen} :
    Context.freshWidgets screen = store.withCounts screen.uid screen.widgets ↔
      ∀ widget ∈ screen.widgets, store.actedCount screen.uid widget.uid = 0 := by
  simp only [Context.freshWidgets, withCounts, List.map_inj_left, WidgetInfo.mk.injEq, true_and]
  exact forall₂_congr fun _ _ => eq_comm

end Store

namespace Engine

theorem widgetsFor_eq (store : Store) (screen : Screen) :
    widgetsFor store screen =
      if store.latestWidgets screen.uid = [] then Context.freshWidgets screen
      else store.withCounts screen.uid (store.latestWidgets screen.uid) := by
  rw [widgetsFor, Store.widgetsOf_eq]
  by_cases none : store.latestWidgets screen.uid = []
  · by_cases empty : screen.widgets = []
    · simp [none, empty, Store.withCounts, Screen.isEmpty, Context.freshWidgets]
    · simp [none, empty, Store.withCounts, Screen.isEmpty]
  · simp [none, Store.withCounts]

/-- A strategy sees the widgets of a screen with their counts exactly if the latest observation
with its identifier shows the same widgets in the same order, or shows none while nothing was
counted for those of the screen. -/
theorem widgetsFor_eq_withCounts_iff {store : Store} {screen : Screen} :
    widgetsFor store screen = store.withCounts screen.uid screen.widgets ↔
      store.latestWidgets screen.uid = screen.widgets ∨
        store.latestWidgets screen.uid = [] ∧
          ∀ widget ∈ screen.widgets, store.actedCount screen.uid widget.uid = 0 := by
  rw [widgetsFor_eq]
  by_cases none : store.latestWidgets screen.uid = []
  · rw [if_pos none, Store.freshWidgets_eq_withCounts_iff, none]
    constructor
    · exact fun uncounted => .inr ⟨rfl, uncounted⟩
    · rintro (empty | ⟨-, uncounted⟩)
      · simp [← empty]
      · exact uncounted
  · rw [if_neg none]
    constructor
    · exact fun same => .inl (Store.withCounts_injective same)
    · rintro (same | ⟨absurd, -⟩)
      · rw [same]
      · exact (none absurd).elim

/-- On any occasion the strategies of a running engine are given the counts after the last action
was counted, and the widgets of the latest observation with the identifier of the screen, if it
shows any.  These are the screen's own widgets with their own counts if the screen was recorded
last; in general they are exactly if that observation shows the same widgets in the same order,
or none while nothing was counted for those of the screen. -/
theorem sees_own_widgets_iff
    (engine : Engine) (running : engine.state = .running) (occupied : engine.strategies ≠ [])
    (occasion : Occasion) :
    let context := engine.contextOn occasion
    let decision := engine.decideOn occasion
    let latest := occasion.store.latestWidgets occasion.screen.uid
    let own := decision.store.withCounts occasion.screen.uid occasion.screen.widgets
    (decision.result, decision.engine) = engine.decideIn context ∧
    decision.store = occasion.store.count engine.lastKey ∧
    context.screen = occasion.screen ∧
    (latest ≠ [] →
      context.widgets = decision.store.withCounts occasion.screen.uid latest) ∧
    (∀ before : Store, occasion.store = before.record occasion.screen → context.widgets = own) ∧
    (context.widgets = own ↔
      latest = occasion.screen.widgets ∨
        latest = [] ∧ ∀ widget ∈ occasion.screen.widgets,
          decision.store.actedCount occasion.screen.uid widget.uid = 0) := by
  intro context decision latest own
  have decided : decision = _ := decideOn_eq engine running occupied occasion
  have counted : decision.store = occasion.store.count engine.lastKey := by
    rw [decided, countLast_eq]
  have kept : decision.store.latestWidgets occasion.screen.uid = latest := by
    rw [counted, Store.latestWidgets_count]
  have given : context.widgets = widgetsFor decision.store occasion.screen := by
    rw [counted, ← countLast_eq]
    rfl
  have sees : context.widgets = own ↔ _ := given ▸ widgetsFor_eq_withCounts_iff
  rw [kept] at sees
  refine ⟨by rw [decided], counted, rfl, fun some => ?_, fun before recorded => ?_, sees⟩
  · rw [given, widgetsFor_eq, kept, if_neg some]
  · refine sees.mpr (.inl ?_)
    rw [← Store.latestWidgets_record before occasion.screen, ← recorded]

/-- Of two buttons on a screen that was recorded the first one is clicked; then the second one is
clicked, since it is seen that the first one was. -/
theorem sees_own_widgets_of_recorded_screen :
    let first : Widget := ⟨{ clickable := true, enabled := true, visible := true }, .nil, .nil⟩
    let second : Widget := { first with uid := ⟨.replicate 16 1, rfl⟩ }
    let screen : Screen := ⟨.nil, [first, second]⟩
    let engine := ofStrategies 1 [.explore]
    let clicked := engine.decideOn ⟨Store.empty.record screen, screen, ⟨0⟩, "app"⟩
    let again : Occasion := ⟨clicked.store.record screen, screen, ⟨0⟩, "app"⟩
    clicked.result = .ok (.click first) ∧
      clicked.engine.state = .running ∧ clicked.engine.strategies ≠ [] ∧
      (clicked.engine.contextOn again).widgets = [⟨first, 1⟩, ⟨second, 0⟩] ∧
      (clicked.engine.decideOn again).result = .ok (.click second) := by
  intro first second screen engine clicked again
  have running : clicked.engine.state = .running := by decide +kernel
  have occupied : clicked.engine.strategies ≠ [] := List.cons_ne_nil _ _
  obtain ⟨-, -, -, -, recorded, -⟩ := sees_own_widgets_iff clicked.engine running occupied again
  have widgets := recorded clicked.store rfl
  refine ⟨by decide +kernel, running, occupied, widgets.trans ?_, by decide +kernel⟩
  decide +kernel

/-- A screen that was not recorded shows no counts, so that the button that was clicked is clicked
again.  A screen whose widgets were observed in another order is seen in that order. -/
theorem own_widgets_missed :
    let first : Widget := ⟨{ clickable := true, enabled := true, visible := true }, .nil, .nil⟩
    let second : Widget := { first with uid := ⟨.replicate 16 1, rfl⟩ }
    let screen : Screen := ⟨.nil, [first, second]⟩
    let engine := ofStrategies 1 [.explore]
    let clicked := engine.decideOn ⟨.empty, screen, ⟨0⟩, "app"⟩
    let again : Occasion := ⟨clicked.store, screen, ⟨0⟩, "app"⟩
    let swapped : Occasion := ⟨Store.empty.record ⟨.nil, [second, first]⟩, screen, ⟨0⟩, "app"⟩
    clicked.result = .ok (.click first) ∧
      (clicked.engine.decideOn again).store.actedCount screen.uid first.uid = 1 ∧
      (clicked.engine.contextOn again).widgets = [⟨first, 0⟩, ⟨second, 0⟩] ∧
      (clicked.engine.contextOn again).widgets ≠
        (clicked.engine.decideOn again).store.withCounts screen.uid screen.widgets ∧
      (clicked.engine.decideOn again).result = .ok (.click first) ∧
      (engine.contextOn swapped).widgets = [⟨second, 0⟩, ⟨first, 0⟩] ∧
      (engine.decideOn swapped).result = .ok (.click second) := by
  decide +kernel

end Engine

end GuiExplorer
