import GuiExplorer.Identity.Uuid
import GuiExplorer.Image.Raster
import GuiExplorer.Text.Quoted
import GuiExplorer.Text.Utf8
import GuiExplorer.Widget.Data

/-!
# What widgets and screens are identified by

A widget is identified by its content if it has any, otherwise by the pixels it
covers on the captured screen.  Its configuration id covers the properties that
change while the widget stays the same.  A screen is identified by the
identities of its widgets, whatever their order.

Each identifier is the name-based identifier of a byte string; the byte strings
are definitions of their own.
-/

namespace GuiExplorer.Identity

/-- Input from which a widget identity is computed. -/
inductive Source where
  /-- Text and description. -/
  | content (text : String)
  /-- Channels of the pixels in the screen region of the widget. -/
  | pixels (bytes : List UInt8)
  /-- Nothing to hash. -/
  | empty
deriving DecidableEq, Repr

/-- A coordinate moved into the range from zero to `limit`. -/
def clampTo (limit : Nat) (value : Int) : Nat :=
  (min (max value 0) limit).toNat

/-- The bytes of the part of the image inside the bounds, unless that part is
empty. -/
def croppedBytes (image : Raster) (bounds : Bounds) : Option (List UInt8) :=
  let left := clampTo image.width bounds.x.toInt
  let top := clampTo image.height bounds.y.toInt
  let right := clampTo image.width bounds.right
  let bottom := clampTo image.height bounds.bottom
  if right ≤ left ∨ bottom ≤ top then none
  else some (image.regionBytes left top right bottom)

namespace Source

/-- Pick the identity input for a widget record and the captured screen. -/
def ofSnapshot (data : WidgetData) (screen : Option Raster) : Source :=
  if data.content.isEmpty then
    match screen.bind (croppedBytes · data.bounds) with
    | some bytes => .pixels bytes
    | none => .empty
  else .content data.content

/-- The byte string that is hashed, if any. -/
def hashed : Source → Option (List UInt8)
  | .content text => some (Text.utf8Bytes text)
  | .pixels bytes => some bytes
  | .empty => none

/-- The identifier.  Without anything to hash it is the nil identifier. -/
def id (source : Source) : Uuid :=
  match source.hashed with
  | some bytes => Uuid.ofName bytes
  | none => Uuid.nil

/-- Description for diagnostics. -/
def describe : Source → String
  | .content text => "Content(" ++ Text.quoted text ++ ")"
  | .pixels bytes => "Pixels(" ++ toString bytes.length ++ " bytes)"
  | .empty => "Empty"

end Source

/-- The identity of a widget record on a captured screen. -/
def ofSnapshot (data : WidgetData) (screen : Option Raster) : Uuid :=
  (Source.ofSnapshot data screen).id

/-- A truth value as a word. -/
def flag (value : Bool) : String :=
  if value then "true" else "false"

/-- An optional truth value. -/
def optionalFlag : Option Bool → String
  | some value => "Some(" ++ flag value ++ ")"
  | none => "None"

/-- The text of the volatile properties of a widget.  The only free-form part,
the position in the UI tree, comes last. -/
def configText (data : WidgetData) : String :=
  "checked=" ++ optionalFlag data.checked ++ ";focused=" ++ optionalFlag data.focused ++
    ";enabled=" ++ flag data.enabled ++ ";visible=" ++ flag data.visible ++
    ";selected=" ++ flag data.selected ++ ";clickable=" ++ flag data.clickable ++
    ";long_clickable=" ++ flag data.longClickable ++ ";scrollable=" ++ flag data.scrollable ++
    ";password=" ++ flag data.isPassword ++ ";bounds=" ++ toString data.bounds.x.toInt ++ "," ++
    toString data.bounds.y.toInt ++ "," ++ toString data.bounds.width.toInt ++ "," ++
    toString data.bounds.height.toInt ++ ";xpath=" ++ data.xpath

/-- Identifier of the volatile properties of a widget. -/
def configId (data : WidgetData) : Uuid :=
  Uuid.ofName (Text.utf8Bytes (configText data))

/-- The byte string hashed for a screen: the identifiers of its widgets, sorted. -/
def screenBytes (widgets : List Uuid) : List UInt8 :=
  (widgets.mergeSort fun left right => decide (left ≤ right)).flatMap Uuid.bytes

/-- Order-independent identifier of the widgets of a screen. -/
def ofWidgets (widgets : List Uuid) : Uuid :=
  Uuid.ofName (screenBytes widgets)

end GuiExplorer.Identity
