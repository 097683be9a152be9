import GuiExplorer.Action.Json
import GuiExplorer.Json.Access
import GuiExplorer.Text.Hex
import GuiExplorer.Wire.Message

/-!
# Messages in JSON

A form of commands and responses for scenarios and reports.  A screen capture is
given in hexadecimal.
-/

namespace GuiExplorer

namespace Command

def toJson : Command → Json
  | .fetchGuiState => .str "FetchGuiState"
  | .launchApp package => .record [("LaunchApp", .record [("package", .str package)])]
  | .pressBack => .str "PressBack"
  | .pressHome => .str "PressHome"
  | .perform gesture x y =>
      .record [("Perform", .record [
        ("gesture", gesture.toJson), ("x", .int x.toInt), ("y", .int y.toInt)])]
  | .terminate => .str "Terminate"
  | .stopDaemon => .str "StopDaemon"

/-- The command of a name, with the data given with it. -/
def ofChoice? (name : String) (data : Json) : Option Command :=
  if name = "FetchGuiState" then some .fetchGuiState
  else if name = "LaunchApp" then some (.launchApp (data.textAt "package"))
  else if name = "PressBack" then some .pressBack
  else if name = "PressHome" then some .pressHome
  else if name = "Perform" then do
    let gesture ← Gesture.ofJson? (data.member "gesture")
    let x ← (data.member "x").int32?
    let y ← (data.member "y").int32?
    some (.perform gesture x y)
  else if name = "Terminate" then some .terminate
  else if name = "StopDaemon" then some .stopDaemon
  else none

def ofJson? (value : Json) : Option Command :=
  value.choice?.bind fun (name, data) => ofChoice? name (data.getD .null)

end Command

namespace GuiSnapshot

def toJson (snapshot : GuiSnapshot) : Json :=
  .record [
    ("widgets", .array (snapshot.widgets.map WidgetData.toJson)),
    ("screenshot",
      .ofOption (fun image => .str (Text.hexText image.data.toList)) snapshot.screenshot),
    ("top_package", .str snapshot.topPackage)]

end GuiSnapshot

namespace Response

def toJson : Response → Json
  | .guiState snapshot => .record [("GuiState", snapshot.toJson)]
  | .ack => .str "Ack"
  | .failure message => .record [("Failure", .record [("message", .str message)])]

end Response

end GuiExplorer
