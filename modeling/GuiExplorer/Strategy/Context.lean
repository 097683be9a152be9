import GuiExplorer.Action.Basic
import GuiExplorer.Store.Basic
import GuiExplorer.Time.Duration

/-!
# Decision contexts

Everything a strategy may look at when it rates and decides a step: the screen,
how often its widgets were acted upon, and what was done so far.
-/

namespace GuiExplorer

/-- What is known when a step is decided. -/
structure Context where
  /-- The screen currently shown. -/
  screen : Screen
  /-- Widgets of the current screen with their acted-upon counts. -/
  widgets : List WidgetInfo
  /-- Actions issued so far. -/
  actionCount : Nat
  /-- Time since the run started. -/
  elapsed : Duration
  /-- The previously issued action. -/
  lastAction : Option Action
  /-- Package of the app under exploration. -/
  appPackage : String
deriving DecidableEq, Repr

namespace Context

/-- The widgets of a screen, none of them acted upon. -/
def freshWidgets (screen : Screen) : List WidgetInfo :=
  screen.widgets.map fun widget => ⟨widget, 0⟩

/-- The context at the start of a run. -/
def ofScreen (screen : Screen) (appPackage : String) : Context :=
  ⟨screen, freshWidgets screen, 0, ⟨0⟩, none, appPackage⟩

/-- Actionable widgets with their counts, in screen order. -/
def actionable (context : Context) : List WidgetInfo :=
  context.widgets.filter (·.widget.isActionable)

/-- Whether every actionable widget was acted upon more than `threshold` times. -/
def isExhausted (context : Context) (threshold : UInt32) : Bool :=
  context.actionable.all (threshold < ·.actedCount)

/-- The widget of the current screen at the same location that is structurally
equal to a recorded one. -/
def findExact (context : Context) (widget : Widget) : Option Widget :=
  context.screen.findExact widget

/-- The widget of the current screen at any location that is structurally equal
to a recorded one.  A widget without text and resource id is not looked for. -/
def findAnywhere (context : Context) (widget : Widget) : Option Widget :=
  if widget.data.text.isEmpty && widget.data.resourceId.isEmpty then none
  else context.screen.findAnywhere widget

end Context

end GuiExplorer
