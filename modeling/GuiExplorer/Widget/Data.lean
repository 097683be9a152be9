import GuiExplorer.Widget.Bounds

/-!
# Widget records

What the device reports about one node of its UI tree, and what follows from
the record alone: its content, the gestures it admits, and when two records
describe the same widget.
-/

namespace GuiExplorer

/-- Raw widget record from a UI-tree snapshot. -/
structure WidgetData where
  text : String := ""
  description : String := ""
  resourceId : String := ""
  className : String := ""
  packageName : String := ""
  bounds : Bounds := default
  clickable : Bool := false
  longClickable : Bool := false
  scrollable : Bool := false
  /-- `none` when the widget is not checkable. -/
  checked : Option Bool := none
  /-- `none` when the widget is not focusable. -/
  focused : Option Bool := none
  enabled : Bool := false
  visible : Bool := false
  isPassword : Bool := false
  selected : Bool := false
  /-- Position in the UI tree. -/
  xpath : String := ""
  /-- Path of the parent node, absent for the root. -/
  parentXpath : Option String := none
  isLeaf : Bool := false
deriving DecidableEq, Repr, Inhabited

namespace WidgetData

/-- Text and description, the identifying content of a widget. -/
def content (data : WidgetData) : String :=
  data.text ++ data.description

def hasContent (data : WidgetData) : Bool :=
  !data.text.isEmpty || !data.description.isEmpty

def isCheckable (data : WidgetData) : Bool :=
  data.checked.isSome

/-- Whether a gesture on this widget can have an effect. -/
def isActionable (data : WidgetData) : Bool :=
  data.enabled && data.visible &&
    (data.clickable || data.longClickable || data.scrollable || data.isCheckable)

/-- Structural equality at whatever position. -/
def matchesAnywhere (data other : WidgetData) : Bool :=
  data.text == other.text && data.description == other.description &&
    data.resourceId == other.resourceId && data.className == other.className &&
    data.packageName == other.packageName && data.clickable == other.clickable &&
    data.longClickable == other.longClickable && data.scrollable == other.scrollable &&
    data.isCheckable == other.isCheckable && data.isPassword == other.isPassword

/-- Structural equality including the screen location. -/
def matchesExactly (data other : WidgetData) : Bool :=
  data.bounds == other.bounds && data.matchesAnywhere other

/-- The class name after its last dot. -/
def simpleClassName (data : WidgetData) : String :=
  String.ofList (data.className.toList.reverse.takeWhile (· ≠ '.')).reverse

/-- Compact description: class, text, resource id and centre. -/
def shortText (data : WidgetData) : String :=
  let (x, y) := data.bounds.center
  "Wdgt:" ++ data.simpleClassName ++ "/\"" ++ data.text ++ "\"/\"" ++ data.resourceId ++ "\"/[" ++
    toString x.toInt ++ "," ++ toString y.toInt ++ "]"

end WidgetData

end GuiExplorer
