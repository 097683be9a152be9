import GuiExplorer.Json.Printer
import GuiExplorer.Json.Reader
import GuiExplorer.Screen

/-!
# Widgets and screens in JSON

Records have a fixed list of fields in a fixed order.  Of a widget record any
field may be left out; of the others none.
-/

namespace GuiExplorer

namespace Uuid

def toJson (id : Uuid) : Json :=
  .str id.text

def ofJson? (value : Json) : Option Uuid :=
  value.text?.bind ofText?

end Uuid

namespace Bounds

def fieldNames : List String :=
  ["x", "y", "width", "height"]

def toJson (bounds : Bounds) : Json :=
  .record [
    ("x", .int bounds.x.toInt), ("y", .int bounds.y.toInt),
    ("width", .int bounds.width.toInt), ("height", .int bounds.height.toInt)]

def ofJson? (value : Json) : Option Bounds :=
  match value.fields? fieldNames with
  | some [x, y, width, height] => do
      let x ← Json.required Json.int32? x
      let y ← Json.required Json.int32? y
      let width ← Json.required Json.int32? width
      let height ← Json.required Json.int32? height
      some ⟨x, y, width, height⟩
  | _ => none

end Bounds

/-- An optional value; null if it is absent. -/
def Json.ofOption (write : α → Json) : Option α → Json
  | some value => write value
  | none => .null

namespace WidgetData

def fieldNames : List String :=
  ["text", "content_desc", "resource_id", "class_name", "package_name", "bounds", "clickable",
   "long_clickable", "scrollable", "checked", "focused", "enabled", "visible", "is_password",
   "selected", "xpath", "parent_xpath", "is_leaf"]

def toJson (data : WidgetData) : Json :=
  .record [
    ("text", .str data.text), ("content_desc", .str data.description),
    ("resource_id", .str data.resourceId), ("class_name", .str data.className),
    ("package_name", .str data.packageName), ("bounds", data.bounds.toJson),
    ("clickable", .bool data.clickable), ("long_clickable", .bool data.longClickable),
    ("scrollable", .bool data.scrollable), ("checked", .ofOption .bool data.checked),
    ("focused", .ofOption .bool data.focused), ("enabled", .bool data.enabled),
    ("visible", .bool data.visible), ("is_password", .bool data.isPassword),
    ("selected", .bool data.selected), ("xpath", .str data.xpath),
    ("parent_xpath", .ofOption .str data.parentXpath), ("is_leaf", .bool data.isLeaf)]

def ofJson? (value : Json) : Option WidgetData :=
  match value.fields? fieldNames with
  | some [text, description, resourceId, className, packageName, bounds, clickable, longClickable,
      scrollable, checked, focused, enabled, visible, isPassword, selected, xpath, parentXpath,
      isLeaf] => do
      let text ← Json.orDefault "" Json.text? text
      let description ← Json.orDefault "" Json.text? description
      let resourceId ← Json.orDefault "" Json.text? resourceId
      let className ← Json.orDefault "" Json.text? className
      let packageName ← Json.orDefault "" Json.text? packageName
      let bounds ← Json.orDefault default Bounds.ofJson? bounds
      let clickable ← Json.orDefault false Json.bool? clickable
      let longClickable ← Json.orDefault false Json.bool? longClickable
      let scrollable ← Json.orDefault false Json.bool? scrollable
      let checked ← Json.orDefault none (Json.optional? Json.bool?) checked
      let focused ← Json.orDefault none (Json.optional? Json.bool?) focused
      let enabled ← Json.orDefault false Json.bool? enabled
      let visible ← Json.orDefault false Json.bool? visible
      let isPassword ← Json.orDefault false Json.bool? isPassword
      let selected ← Json.orDefault false Json.bool? selected
      let xpath ← Json.orDefault "" Json.text? xpath
      let parentXpath ← Json.orDefault none (Json.optional? Json.text?) parentXpath
      let isLeaf ← Json.orDefault false Json.bool? isLeaf
      some ⟨text, description, resourceId, className, packageName, bounds, clickable,
        longClickable, scrollable, checked, focused, enabled, visible, isPassword, selected,
        xpath, parentXpath, isLeaf⟩
  | _ => none

end WidgetData

namespace Widget

def fieldNames : List String :=
  ["uid", "config_id", "data"]

def toJson (widget : Widget) : Json :=
  .record [
    ("uid", widget.uid.toJson), ("config_id", widget.configId.toJson),
    ("data", widget.data.toJson)]

def ofJson? (value : Json) : Option Widget :=
  match value.fields? fieldNames with
  | some [uid, configId, data] => do
      let uid ← Json.required Uuid.ofJson? uid
      let configId ← Json.required Uuid.ofJson? configId
      let data ← Json.required WidgetData.ofJson? data
      some ⟨data, uid, configId⟩
  | _ => none

end Widget

namespace Screen

def fieldNames : List String :=
  ["uid", "widgets"]

def toJson (screen : Screen) : Json :=
  .record [("uid", screen.uid.toJson), ("widgets", .array (screen.widgets.map Widget.toJson))]

def ofJson? (value : Json) : Option Screen :=
  match value.fields? fieldNames with
  | some [uid, widgets] => do
      let uid ← Json.required Uuid.ofJson? uid
      let widgets ← Json.required (Json.list? Widget.ofJson?) widgets
      some ⟨uid, widgets⟩
  | _ => none

end Screen

end GuiExplorer
