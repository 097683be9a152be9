import GuiExplorer.Store.Basic
import GuiExplorer.Store.File
import GuiExplorer.Widget.Json

/-!
# Saved models

A snapshot of the store is saved as indented JSON and can be loaded again.
-/

namespace GuiExplorer

namespace ActedCount

def fieldNames : List String :=
  ["screen", "widget", "count"]

def toJson (counter : ActedCount) : Json :=
  .record [
    ("screen", counter.screen.toJson), ("widget", counter.widget.toJson),
    ("count", .int counter.count.toNat)]

def ofJson? (value : Json) : Option ActedCount :=
  match value.fields? fieldNames with
  | some [screen, widget, count] => do
      let screen ← Json.required Uuid.ofJson? screen
      let widget ← Json.required Uuid.ofJson? widget
      let count ← Json.required Json.uint32? count
      some ⟨screen, widget, count⟩
  | _ => none

end ActedCount

namespace StoreSnapshot

def fieldNames : List String :=
  ["observations", "screens", "acted"]

def toJson (snapshot : StoreSnapshot) : Json :=
  .record [
    ("observations", .array (snapshot.observations.map Uuid.toJson)),
    ("screens", .array (snapshot.screens.map Screen.toJson)),
    ("acted", .array (snapshot.acted.map ActedCount.toJson))]

def ofJson? (value : Json) : Option StoreSnapshot :=
  match value.fields? fieldNames with
  | some [observations, screens, acted] => do
      let observations ← Json.required (Json.list? Uuid.ofJson?) observations
      let screens ← Json.required (Json.list? Screen.ofJson?) screens
      let acted ← Json.required (Json.list? ActedCount.ofJson?) acted
      some ⟨observations, screens, acted⟩
  | _ => none

/-- The text that is saved. -/
def save (snapshot : StoreSnapshot) : String :=
  snapshot.toJson.pretty

/-- Read a saved text. -/
def ofText? (text : String) : Option StoreSnapshot :=
  (Json.ofText? text).bind ofJson?

/-- Load a saved snapshot. -/
def load (stored : StoredFile) : Except StoreError StoreSnapshot :=
  stored.load ofText?

end StoreSnapshot

end GuiExplorer
