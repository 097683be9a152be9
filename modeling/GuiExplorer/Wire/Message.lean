import GuiExplorer.Action.Basic
import GuiExplorer.Wire.Codec

/-!
# Messages between host and device

The host sends commands and the device daemon answers each of them with one
response.  This module defines both and their binary encodings.
-/

namespace GuiExplorer

/-- Request sent to the daemon. -/
inductive Command where
  /-- Report the current UI tree and a screen capture. -/
  | fetchGuiState
  /-- Restart the app from a clean state. -/
  | launchApp (package : String)
  | pressBack
  | pressHome
  /-- Dispatch a gesture at a screen coordinate. -/
  | perform (gesture : Gesture) (x y : Int32)
  /-- Leave the app; the daemon keeps serving. -/
  | terminate
  /-- Shut the daemon down. -/
  | stopDaemon
deriving DecidableEq, Repr, Inhabited

/-- UI-tree snapshot as captured on the device. -/
structure GuiSnapshot where
  /-- Widget records in tree order. -/
  widgets : List WidgetData
  /-- Encoded screen capture, absent when capturing failed. -/
  screenshot : Option ByteArray
  /-- Package in the foreground. -/
  topPackage : String
deriving DecidableEq, Inhabited

/-- Reply from the daemon. -/
inductive Response where
  | guiState (snapshot : GuiSnapshot)
  | ack
  | failure (message : String)
deriving DecidableEq, Inhabited

namespace Wire

open Codec

def bounds : Codec Bounds :=
  (pair int32 (pair int32 (pair int32 int32))).map
    (fun (x, y, width, height) => ⟨x, y, width, height⟩)
    (fun rect => (rect.x, rect.y, rect.width, rect.height))

def widgetData : Codec WidgetData :=
  (pair string (pair string (pair string (pair string (pair string (pair bounds
    (pair bool (pair bool (pair bool (pair (option bool) (pair (option bool)
    (pair bool (pair bool (pair bool (pair bool (pair string (pair (option string)
    bool))))))))))))))))).map
    (fun (text, description, resourceId, className, packageName, bounds, clickable,
        longClickable, scrollable, checked, focused, enabled, visible, isPassword, selected,
        xpath, parentXpath, isLeaf) =>
      ⟨text, description, resourceId, className, packageName, bounds, clickable, longClickable,
        scrollable, checked, focused, enabled, visible, isPassword, selected, xpath, parentXpath,
        isLeaf⟩)
    (fun data =>
      (data.text, data.description, data.resourceId, data.className, data.packageName,
        data.bounds, data.clickable, data.longClickable, data.scrollable, data.checked,
        data.focused, data.enabled, data.visible, data.isPassword, data.selected, data.xpath,
        data.parentXpath, data.isLeaf))

def guiSnapshot : Codec GuiSnapshot :=
  (pair (list widgetData) (pair (option Codec.bytes) string)).map
    (fun (widgets, screenshot, topPackage) => ⟨widgets, screenshot, topPackage⟩)
    (fun snapshot => (snapshot.widgets, snapshot.screenshot, snapshot.topPackage))

/-- A choice: the index of the variant, and whatever the variant holds. -/
def choice (count : Nat) (index : α → Nat) (body : α → List UInt8)
    (read : Nat → List UInt8 → Option (Decoded α)) : Codec α where
  encode value := uint32.encode (UInt32.ofNat (index value)) ++ body value
  decode bytes :=
    match uint32.decode bytes with
    | .error error => .error error
    | .ok (tag, rest) =>
        match read tag.toNat rest with
        | some decoded => decoded
        | none => .error (.noVariant tag.toNat count)

def gesture : Codec Gesture :=
  choice 3
    (fun
      | .click => 0
      | .longClick => 1
      | .tick => 2)
    (fun _ => [])
    (fun
      | 0, rest => some (.ok (.click, rest))
      | 1, rest => some (.ok (.longClick, rest))
      | 2, rest => some (.ok (.tick, rest))
      | _, _ => none)

def command : Codec Command :=
  choice 7
    (fun
      | .fetchGuiState => 0
      | .launchApp _ => 1
      | .pressBack => 2
      | .pressHome => 3
      | .perform _ _ _ => 4
      | .terminate => 5
      | .stopDaemon => 6)
    (fun
      | .launchApp package => string.encode package
      | .perform kind x y => (pair gesture (pair int32 int32)).encode (kind, x, y)
      | _ => [])
    (fun
      | 0, rest => some (.ok (.fetchGuiState, rest))
      | 1, rest => some (string.read .launchApp rest)
      | 2, rest => some (.ok (.pressBack, rest))
      | 3, rest => some (.ok (.pressHome, rest))
      | 4, rest =>
          some ((pair gesture (pair int32 int32)).read (fun (kind, x, y) => .perform kind x y) rest)
      | 5, rest => some (.ok (.terminate, rest))
      | 6, rest => some (.ok (.stopDaemon, rest))
      | _, _ => none)

def response : Codec Response :=
  choice 3
    (fun
      | .guiState _ => 0
      | .ack => 1
      | .failure _ => 2)
    (fun
      | .guiState snapshot => guiSnapshot.encode snapshot
      | .ack => []
      | .failure message => string.encode message)
    (fun
      | 0, rest => some (guiSnapshot.read .guiState rest)
      | 1, rest => some (.ok (.ack, rest))
      | 2, rest => some (string.read .failure rest)
      | _, _ => none)

end Wire

end GuiExplorer
