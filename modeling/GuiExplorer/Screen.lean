import GuiExplorer.Number.Share
import GuiExplorer.Text.Blank
import GuiExplorer.Widget.Basic

/-!
# Screens

A screen is the list of widgets visible at one point in time.  Its identifier
depends on the identities of the widgets only, so an identical screen is
recognised when it is seen again.
-/

namespace GuiExplorer

/-- One observed screen. -/
structure Screen where
  uid : Uuid
  widgets : List Widget
deriving DecidableEq, Repr, Inhabited

namespace Screen

/-- The screen with the given widgets. -/
def ofWidgets (widgets : List Widget) : Screen :=
  ⟨Identity.ofWidgets (widgets.map Widget.uid), widgets⟩

/-- The screen of a UI-tree snapshot and the image captured with it. -/
def ofSnapshot (records : List WidgetData) (image : Option Raster) : Screen :=
  ofWidgets (records.map (Widget.ofSnapshot · image))

/-- Whether two screens have the same identifier and widgets with the same
identifiers, in the same order. -/
def sameId (screen other : Screen) : Bool :=
  screen.uid == other.uid && screen.widgets.map Widget.id == other.widgets.map Widget.id

def isEmpty (screen : Screen) : Bool :=
  screen.widgets.isEmpty

/-- Widgets a gesture can be dispatched to. -/
def actionable (screen : Screen) : List Widget :=
  screen.widgets.filter Widget.isActionable

/-- Whether the device launcher is in the foreground. -/
def isHome (screen : Screen) : Bool :=
  screen.widgets.any fun widget => Text.contains widget.data.packageName "launcher"

/-- Whether any widget belongs to the package. -/
def belongsTo (screen : Screen) (package : String) : Bool :=
  screen.widgets.any fun widget => widget.data.packageName == package

/-- Packages that host runtime permission dialogs. -/
def permissionPackages : List String :=
  ["com.android.packageinstaller", "com.google.android.packageinstaller",
   "com.android.permissioncontroller", "com.google.android.permissioncontroller"]

/-- Whether a runtime permission dialog is in the foreground. -/
def isPermissionDialog (screen : Screen) : Bool :=
  screen.widgets.any fun widget => permissionPackages.contains widget.data.packageName

/-- First widget structurally equal to `widget`, location included. -/
def findExact (screen : Screen) (widget : Widget) : Option Widget :=
  screen.widgets.find? (·.matchesExactly widget)

/-- First widget structurally equal to `widget` at any position. -/
def findAnywhere (screen : Screen) (widget : Widget) : Option Widget :=
  screen.widgets.find? (·.matchesAnywhere widget)

/-- The share of this screen's widgets that have an exact match in `other`. -/
def similarity (screen other : Screen) : Share :=
  Share.count (fun widget => (other.findExact widget).isSome) screen.widgets

end Screen

end GuiExplorer
