import GuiExplorer.Identity.Cell

/-!
# Widgets

A widget is a record together with its two identifiers.  A widget built from a
record has the identifiers that follow from the record and the captured screen;
a stored widget keeps the ones it was stored with.
-/

namespace GuiExplorer

/-- A widget with its derived identifiers. -/
structure Widget where
  data : WidgetData
  /-- Content identity. -/
  uid : Uuid
  /-- Identity of the volatile properties. -/
  configId : Uuid
deriving DecidableEq, Repr, Inhabited

namespace Widget

/-- Build a widget from a record and the screen it was captured on, if any. -/
def ofSnapshot (data : WidgetData) (screen : Option Raster) : Widget :=
  ⟨data, Identity.ofSnapshot data screen, Identity.configId data⟩

/-- Build a widget whose identity can only come from its content. -/
def ofData (data : WidgetData) : Widget :=
  ofSnapshot data none

/-- Content and configuration identifier. -/
def id (widget : Widget) : Uuid × Uuid :=
  (widget.uid, widget.configId)

/-- Whether two widgets have the same identifiers, whatever their records. -/
def sameId (widget other : Widget) : Bool :=
  widget.id == other.id

def isActionable (widget : Widget) : Bool :=
  widget.data.isActionable

/-- Structural equality including the screen location. -/
def matchesExactly (widget other : Widget) : Bool :=
  widget.data.matchesExactly other.data

/-- Structural equality at whatever position. -/
def matchesAnywhere (widget other : Widget) : Bool :=
  widget.data.matchesAnywhere other.data

/-- Compact description. -/
def shortText (widget : Widget) : String :=
  widget.data.shortText

/-- Description for diagnostics, with the state of the cell that holds the
identity. -/
def describe (widget : Widget) (cell : Identity.Cell) : String :=
  cell.describe ++ "_" ++ widget.configId.text ++ ":" ++ widget.shortText

end Widget

end GuiExplorer
