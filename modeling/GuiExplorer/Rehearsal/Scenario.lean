import GuiExplorer.Engine
import GuiExplorer.Wire.Json

/-!
# Scenarios

A scenario is a JSON object that describes widgets, screens, actions, strategies
and the like, to be used where there is no device.  Widgets and screens may be
named once and referred to by their names; whatever is left out has a default.
-/

namespace GuiExplorer

/-- The named widgets and screens of a scenario. -/
structure Scenario where
  widgets : List (String × Json)
  screens : List (String × Json)

namespace Scenario

def ofJson (value : Json) : Scenario :=
  ⟨(value.member "widgets").members, (value.member "screens").members⟩

/-- What a name stands for; anything else stands for itself. -/
def resolve (names : List (String × Json)) : Json → Json
  | .string (some name) => (names.lookup name).getD .null
  | value => value

def uuid (value : Json) : Uuid :=
  (Uuid.ofText? value.text).getD Uuid.nil

def int32 (value : Json) : Int32 :=
  Int32.ofInt value.integer

/-- A rectangle as an array of four numbers. -/
def bounds (value : Json) : Bounds :=
  match value.items with
  | [x, y, width, height] => ⟨int32 x, int32 y, int32 width, int32 height⟩
  | _ => default

/-- A colour as eight hexadecimal digits. -/
def pixel (text : String) : Pixel :=
  match Text.ofHexText text with
  | [red, green, blue, alpha] => ⟨red, green, blue, alpha⟩
  | _ => ⟨0, 0, 0, 255⟩

/-- A filled rectangle drawn over what lies below it. -/
def drawRect (below : Nat → Nat → Pixel) (rect : Json) : Nat → Nat → Pixel :=
  match rect.items with
  | [x, y, width, height, colour] =>
      let colour := pixel colour.text
      fun column row =>
        if x.integer ≤ column ∧ (column : Int) < x.integer + width.integer ∧
            y.integer ≤ row ∧ (row : Int) < y.integer + height.integer then colour
        else below column row
  | _ => below

/-- An image: a colour or a gradient, and rectangles drawn over it. -/
def image (value : Json) : Raster :=
  let fill := pixel (value.textAt "fill" "000000ff")
  let base : Nat → Nat → Pixel :=
    if value.boolAt "gradient" then fun x y => ⟨UInt8.ofNat x, UInt8.ofNat y, 7, 255⟩
    else fun _ _ => fill
  ⟨value.natAt "w", value.natAt "h", (value.itemsAt "rects").foldl drawRect base⟩

/-- The image captured with a screen. -/
def imageAt (value : Json) : Option Raster :=
  (value.given? "image").map image

/-- A widget record. -/
def widgetData (scenario : Scenario) (value : Json) : WidgetData :=
  let value := resolve scenario.widgets value
  let given := match value.given? "record" with
    | some stored => stored.member "data"
    | none => value
  (WidgetData.ofJson? given).getD default

/-- A stored widget, with its identifiers. -/
def storedWidget (value : Json) : Widget :=
  ⟨(WidgetData.ofJson? (value.member "data")).getD default, uuid (value.member "uid"),
    uuid (value.member "config_id")⟩

/-- A widget, captured on a screen or stored. -/
def widget (scenario : Scenario) (value : Json) (screen : Option Raster := none) : Widget :=
  match (resolve scenario.widgets value).given? "record" with
  | some stored => storedWidget stored
  | none => Widget.ofSnapshot (scenario.widgetData value) screen

/-- The cell that holds the identity of a widget before anyone reads it. -/
def cell (scenario : Scenario) (value : Json) (screen : Option Raster) : Identity.Cell :=
  match (resolve scenario.widgets value).given? "record" with
  | some stored => .ready (uuid (stored.member "uid"))
  | none => .deferred (Identity.Source.ofSnapshot (scenario.widgetData value) screen)

/-- A screen: its widgets, its widgets with a captured image, or a stored one. -/
def screen (scenario : Scenario) (value : Json) : Screen :=
  let value := resolve scenario.screens value
  match value, value.given? "record" with
  | .array widgets, _ => Screen.ofWidgets (widgets.map (scenario.widget ·))
  | _, some stored =>
      ⟨uuid (stored.member "uid"), (stored.itemsAt "widgets").map storedWidget⟩
  | _, none =>
      Screen.ofWidgets ((value.itemsAt "widgets").map (scenario.widget · (imageAt value)))

/-- An action: a plain one by its name, or one on a widget. -/
def action (scenario : Scenario) (value : Json) : Action :=
  match value.given? "widget", value.given? "gesture", value.given? "click" with
  | some widget, some gesture, _ =>
      .onWidget (scenario.widget widget) ((Gesture.ofJson? gesture).getD .click)
  | some widget, none, _ => .interact (scenario.widget widget)
  | none, _, some widget => .click (scenario.widget widget)
  | none, _, none => (Action.ofName? value.text).getD .observe

def command (value : Json) : Command :=
  (Command.ofJson? value).getD .fetchGuiState

def snapshot (scenario : Scenario) (value : Json) : GuiSnapshot :=
  ⟨(value.itemsAt "widgets").map scenario.widgetData,
    (value.given? "screenshot").map fun image => ⟨(Text.ofHexText image.text).toArray⟩,
    value.textAt "top_package"⟩

def response (scenario : Scenario) (value : Json) : Response :=
  match value.choice? with
  | some ("Failure", some message) => .failure message.text
  | some ("GuiState", some snapshot) => .guiState (scenario.snapshot snapshot)
  | _ => .ack

/-- Recorded steps, as pairs of an action and a screen. -/
def records (scenario : Scenario) (value : Json) : List (Action × Screen) :=
  value.items.map fun step =>
    match step.items with
    | [action, screen] => (scenario.action action, scenario.screen screen)
    | _ => (.observe, default)

def playback (scenario : Scenario) (value : Json) : Playback :=
  let recorded := Playback.ofRecords (value.textAt "package")
    (scenario.records (value.member "records"))
  { recorded with maxSkips := value.natAt "max_skips" recorded.maxSkips }

/-- A criterion that is met from some action on, and gives a fixed reason. -/
def criterion (value : Json) : Criterion :=
  let count := value.natAt "met_at"
  let reason := value.textAt "reason"
  ⟨fun context => count ≤ context.actionCount, fun _ => reason⟩

def strategy (scenario : Scenario) (value : Json) : Strategy :=
  match value.textAt "kind" with
  | "explore" => .explore
  | "reset" => .reset
  | "permission" => .allowPermission
  | "back" => .back (UInt32.ofNat (value.natAt "min"))
  | "actions" => .actionBudget (value.natAt "limit")
  | "time" => .timeBudget ⟨value.natAt "limit_ns"⟩
  | "playback" => .playback (scenario.playback value)
  | _ => .terminate (criterion value)

def pool (scenario : Scenario) (value : Json) : List Strategy :=
  (value.itemsAt "pool").map scenario.strategy

def engine (scenario : Scenario) (value : Json) : Engine :=
  .ofStrategies (UInt32.ofNat (value.natAt "threshold" 1)) (scenario.pool value)

/-- The app under exploration. -/
def app (value : Json) (default : String := "com.example.app") : String :=
  value.textAt "app" default

/-- Set acted-upon counts from the front of a list on. -/
def setCounts : List WidgetInfo → List Json → List WidgetInfo
  | info :: infos, count :: counts =>
      { info with actedCount := UInt32.ofNat count.nat } :: setCounts infos counts
  | infos, _ => infos

/-- A widget with its count. -/
def widgetInfo (scenario : Scenario) (value : Json) : WidgetInfo :=
  match value.items with
  | [widget, count] => ⟨scenario.widget widget, UInt32.ofNat count.nat⟩
  | _ => ⟨default, 0⟩

def context (scenario : Scenario) (value : Json) : Context :=
  let start := Context.ofScreen (scenario.screen (value.member "screen")) (app value)
  let widgets := match value.given? "infos" with
    | some infos => infos.items.map scenario.widgetInfo
    | none => start.widgets
  { start with
    widgets := setCounts widgets (value.itemsAt "counts")
    actionCount := value.natAt "action_count"
    elapsed := ⟨value.natAt "elapsed_ns"⟩
    lastAction := (value.given? "last_action").map scenario.action }

/-- A file: its text, its bytes, or none. -/
def storedFile (value : Json) : StoredFile :=
  match value.given? "text", value.given? "hex" with
  | some text, _ => .ofText text.text
  | none, some hex => .file (Text.ofHexText hex.text)
  | none, none => .missing

end Scenario

end GuiExplorer
