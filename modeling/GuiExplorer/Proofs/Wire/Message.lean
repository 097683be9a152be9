import GuiExplorer.Proofs.Wire.Codec
import GuiExplorer.Wire.Message

/-!
# Exact messages

The codecs of commands and responses are exact, with everything that is nested in
them.  The messages that fit are those with no text or list that is too long for
its length to be written in 64 bits.
-/

namespace GuiExplorer

namespace Wire

/-- The length of the text can be written. -/
def TextFits (text : String) : Prop :=
  (Text.utf8Bytes text).length < UInt64.size

namespace Codec.IsExact

/-- A choice is exact if its variants have different indices and are read where they were
written. -/
theorem choice
    {Fits : α → Prop} {count : Nat} {index : α → Nat} {body : α → List UInt8}
    {read : Nat → List UInt8 → Option (Decoded α)}
    (small : ∀ value, index value < UInt32.size)
    (complete : ∀ value rest, Fits value →
      read (index value) (body value ++ rest) = some (.ok (value, rest)))
    (sound : ∀ tag bytes value rest, read tag bytes = some (.ok (value, rest)) →
      tag = index value ∧ Fits value ∧ bytes = body value ++ rest) :
    (Wire.choice count index body read).IsExact Fits where
  decode_encode {value} fits rest := by
    have tag : (UInt32.ofNat (index value)).toNat = index value :=
      UInt32.toNat_ofNat_of_lt' (small value)
    simp only [Wire.choice, List.append_assoc, uint32.decode_encode trivial, tag,
      complete value rest fits]
  eq_encode {bytes rest value} decoded := by
    simp only [Wire.choice] at decoded ⊢
    split at decoded
    case h_1 => contradiction
    case h_2 tag after tagFound =>
      obtain ⟨-, rfl⟩ := uint32.eq_encode tagFound
      split at decoded
      case h_1 found =>
        rw [decoded] at found
        obtain ⟨same, fits, rfl⟩ := sound tag.toNat after value rest found
        rw [← same, UInt32.ofNat_toNat, List.append_assoc]
        exact ⟨fits, rfl⟩
      case h_2 => contradiction

end Codec.IsExact

open Codec

theorem bounds_exact : bounds.IsExact fun _ => True :=
  ((IsExact.int32.pair (.pair .int32 (.pair .int32 .int32))).map (fun _ => rfl)
    fun _ _ => rfl).congr fun _ => by simp

end Wire

/-- All texts of a record. -/
def WidgetData.texts (data : WidgetData) : List String :=
  [data.text, data.description, data.resourceId, data.className, data.packageName, data.xpath] ++
    data.parentXpath.toList

def WidgetData.Fits (data : WidgetData) : Prop :=
  ∀ text ∈ data.texts, Wire.TextFits text

structure GuiSnapshot.Fits (snapshot : GuiSnapshot) : Prop where
  count : snapshot.widgets.length < UInt64.size
  widgets : ∀ data ∈ snapshot.widgets, data.Fits
  screenshot : ∀ block, snapshot.screenshot = some block → block.size < UInt64.size
  topPackage : Wire.TextFits snapshot.topPackage

def Command.Fits : Command → Prop
  | .launchApp package => Wire.TextFits package
  | _ => True

def Response.Fits : Response → Prop
  | .guiState snapshot => snapshot.Fits
  | .ack => True
  | .failure message => Wire.TextFits message

namespace Wire

open Codec

theorem widgetData_exact : widgetData.IsExact WidgetData.Fits :=
  ((IsExact.string.pair (.pair .string (.pair .string (.pair .string (.pair .string
    (.pair bounds_exact (.pair .bool (.pair .bool (.pair .bool (.pair (.option .bool)
    (.pair (.option .bool) (.pair .bool (.pair .bool (.pair .bool (.pair .bool
    (.pair .string (.pair (.option .string) .bool))))))))))))))))).map (fun _ => rfl)
    fun _ _ => rfl).congr fun data => by
      simp [WidgetData.Fits, WidgetData.texts, TextFits]

theorem guiSnapshot_exact : guiSnapshot.IsExact GuiSnapshot.Fits :=
  ((widgetData_exact.list.pair (.pair (.option .bytes) .string)).map (fun _ => rfl)
    fun _ _ => rfl).congr fun _ =>
      ⟨fun ⟨⟨count, widgets⟩, screenshot, topPackage⟩ => ⟨count, widgets, screenshot, topPackage⟩,
        fun fits => ⟨⟨fits.count, fits.widgets⟩, fits.screenshot, fits.topPackage⟩⟩

theorem gesture_exact : gesture.IsExact fun _ => True := by
  refine .choice ?small ?complete ?sound
  case small => intro value; cases value <;> decide
  case complete => intro value rest _; cases value <;> rfl
  case sound =>
    intro tag bytes value rest found
    split at found
    case h_4 => contradiction
    all_goals
      cases found
      exact ⟨rfl, trivial, rfl⟩

theorem command_exact : command.IsExact Command.Fits := by
  have performed := gesture_exact.pair (.pair .int32 .int32)
  refine .choice ?small ?complete ?sound
  case small => intro value; cases value <;> simp [UInt32.size]
  case complete =>
    intro value rest fits
    cases value with
    | launchApp package => exact congrArg some (IsExact.string.read_encode fits rest)
    | perform kind x y =>
        have all : (True ∧ True ∧ True) := ⟨trivial, trivial, trivial⟩
        exact congrArg some (performed.read_encode all rest)
    | fetchGuiState | pressBack | pressHome | terminate | stopDaemon => rfl
  case sound =>
    intro tag bytes value rest found
    split at found
    case h_2 =>
      obtain ⟨package, rfl, fits, same⟩ := IsExact.string.eq_encode_of_read (Option.some.inj found)
      exact ⟨rfl, fits, same⟩
    case h_5 =>
      obtain ⟨⟨kind, x, y⟩, rfl, -, same⟩ := performed.eq_encode_of_read (Option.some.inj found)
      exact ⟨rfl, trivial, same⟩
    case h_8 => contradiction
    all_goals
      cases found
      exact ⟨rfl, trivial, rfl⟩

theorem response_exact : response.IsExact Response.Fits := by
  refine .choice ?small ?complete ?sound
  case small => intro value; cases value <;> simp [UInt32.size]
  case complete =>
    intro value rest fits
    cases value with
    | guiState snapshot => exact congrArg some (guiSnapshot_exact.read_encode fits rest)
    | ack => rfl
    | failure message => exact congrArg some (IsExact.string.read_encode fits rest)
  case sound =>
    intro tag bytes value rest found
    split at found
    case h_1 =>
      obtain ⟨snapshot, rfl, fits, same⟩ :=
        guiSnapshot_exact.eq_encode_of_read (Option.some.inj found)
      exact ⟨rfl, fits, same⟩
    case h_2 =>
      cases found
      exact ⟨rfl, trivial, rfl⟩
    case h_3 =>
      obtain ⟨message, rfl, fits, same⟩ := IsExact.string.eq_encode_of_read (Option.some.inj found)
      exact ⟨rfl, fits, same⟩
    case h_4 => contradiction

/-- Bytes are decoded to a command or a response exactly if they begin with its encoding.
So encodings are read back, different messages have encodings of which neither begins with
the other, and bytes that begin with no encoding, for a bad tag, length or text anywhere in
them, are refused. -/
theorem messages_exact :
    command.IsCanonical Command.Fits ∧ response.IsCanonical Response.Fits :=
  ⟨command_exact.canonical, response_exact.canonical⟩

end Wire

end GuiExplorer
