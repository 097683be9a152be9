import GuiExplorer.Action.Json
import GuiExplorer.Store.File

/-!
# Recordings

Every action of a run is recorded with the screen it was decided on.  A
recording is saved as indented JSON and can be replayed.
-/

namespace GuiExplorer

/-- A performed action with the screen it was decided on. -/
structure ActionRecord where
  action : Action
  screen : Screen
  /-- When the action was performed. -/
  timestamp : String
deriving DecidableEq, Repr

/-- Every action of one run, in the order of decision. -/
structure Recording where
  /-- Package of the explored app. -/
  package : String
  records : List ActionRecord
deriving DecidableEq, Repr

namespace ActionRecord

def fieldNames : List String :=
  ["action", "screen", "timestamp"]

def toJson (entry : ActionRecord) : Json :=
  .record [
    ("action", entry.action.toJson), ("screen", entry.screen.toJson),
    ("timestamp", .str entry.timestamp)]

def ofJson? (value : Json) : Option ActionRecord :=
  match value.fields? fieldNames with
  | some [action, screen, timestamp] => do
      let action ← Json.required Action.ofJson? action
      let screen ← Json.required Screen.ofJson? screen
      let timestamp ← Json.required Json.text? timestamp
      some ⟨action, screen, timestamp⟩
  | _ => none

end ActionRecord

namespace Recording

/-- A recording without actions. -/
def ofPackage (package : String) : Recording :=
  ⟨package, []⟩

/-- Append an action. -/
def add (recording : Recording) (action : Action) (screen : Screen) (timestamp : String) :
    Recording :=
  { recording with records := recording.records ++ [⟨action, screen, timestamp⟩] }

def fieldNames : List String :=
  ["package", "records"]

def toJson (recording : Recording) : Json :=
  .record [
    ("package", .str recording.package),
    ("records", .array (recording.records.map ActionRecord.toJson))]

def ofJson? (value : Json) : Option Recording :=
  match value.fields? fieldNames with
  | some [package, records] => do
      let package ← Json.required Json.text? package
      let records ← Json.required (Json.list? ActionRecord.ofJson?) records
      some ⟨package, records⟩
  | _ => none

/-- The text that is saved. -/
def save (recording : Recording) : String :=
  recording.toJson.pretty

/-- Read a saved text. -/
def ofText? (text : String) : Option Recording :=
  (Json.ofText? text).bind ofJson?

/-- Load a saved recording. -/
def load (stored : StoredFile) : Except StoreError Recording :=
  stored.load ofText?

end Recording

end GuiExplorer
