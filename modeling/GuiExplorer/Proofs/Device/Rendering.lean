import GuiExplorer.Device.Bridge
import GuiExplorer.Proofs.Text.Words
import Mathlib.Data.List.Forall2

/-!
# Device lists that are read back

A listing has a heading and then a line for each device: its serial, its status and further
properties, with blanks between them.  However the devices are laid out, the same ones are read
from the listing again in their order.

The model is what follows a mark in one of the properties.  It is read back unless it begins with
the mark itself: the reader takes off every mark at the front, not only the one that was put there.
-/

namespace GuiExplorer

/-- A device as it is listed.  Neither the serial nor the status can be taken for a model. -/
structure ListedDevice where
  serial : Text.Word
  status : Text.Word
  properties : List Text.Word
  serial_unmarked : ¬ Bridge.modelMark <+: serial.chars
  status_unmarked : ¬ Bridge.modelMark <+: status.chars

namespace ListedDevice

def words (device : ListedDevice) : List Text.Word :=
  device.serial :: device.status :: device.properties

/-- What follows the mark in the first property that begins with it. -/
def model? (device : ListedDevice) : Option (List Char) :=
  ((device.properties.map Text.Word.chars).find? Bridge.modelMark.isPrefixOf).map
    (·.drop Bridge.modelMark.length)

/-- The device that was listed. -/
def info (device : ListedDevice) : DeviceInfo :=
  ⟨String.ofList device.serial.chars, String.ofList device.status.chars,
    device.model?.map String.ofList⟩

end ListedDevice

namespace Bridge

/-- The lines below the heading: one for each device in their order, and blank ones. -/
inductive Rows : List ListedDevice → List (List Char) → Prop
  | nil : Rows [] []
  | blank {devices : List ListedDevice} {line : List Char} {lines : List (List Char)}
      (gap : Text.IsGap line) (more : Rows devices lines) : Rows devices (line :: lines)
  | device {devices : List ListedDevice} {line : List Char} {lines : List (List Char)}
      (first : ListedDevice) (shows : Text.Shows first.words line) (more : Rows devices lines) :
      Rows (first :: devices) (line :: lines)

/-- The text lists the devices below the heading. -/
def IsListing (heading : List Char) (devices : List ListedDevice) (text : List Char) : Prop :=
  ∃ lines, Rows devices lines ∧ Text.HasLines (heading :: lines) text

/-! ## Marks -/

/-- Nothing but marks was taken off the front, and no mark is left there. -/
structure Unmarked (text rest : List Char) : Prop where
  marks : ∃ count, text = (List.replicate count modelMark).flatten ++ rest
  bare : ¬ modelMark <+: rest

theorem dropMarks_of_bare {word : List Char} (bare : ¬ modelMark <+: word) :
    dropMarks word = word := by
  rw [dropMarks.eq_def, if_neg (by rwa [List.isPrefixOf_iff_prefix])]

theorem dropMarks_append (rest : List Char) : dropMarks (modelMark ++ rest) = dropMarks rest := by
  have marked : modelMark.isPrefixOf (modelMark ++ rest) = true :=
    List.isPrefixOf_iff_prefix.mpr (List.prefix_append _ _)
  rw [dropMarks.eq_def, if_pos marked]
  rfl

theorem unmarked_dropMarks (word : List Char) : Unmarked word (dropMarks word) := by
  induction measured : word.length using Nat.strongRecOn generalizing word with
  | ind size ih =>
      by_cases marked : modelMark <+: word
      · obtain ⟨rest, rfl⟩ := marked
        have shorter : rest.length < size := by
          rw [← measured, List.length_append]
          exact Nat.lt_add_of_pos_left (by decide)
        obtain ⟨⟨count, marks⟩, bare⟩ := ih rest.length shorter rest rfl
        rw [dropMarks_append]
        refine ⟨⟨count + 1, ?_⟩, bare⟩
        rw [List.replicate_succ, List.flatten_cons, List.append_assoc, ← marks]
      · rw [dropMarks_of_bare marked]
        exact ⟨⟨0, rfl⟩, marked⟩

theorem dropMarks_eq_self_iff {word : List Char} :
    dropMarks word = word ↔ ¬ modelMark <+: word := by
  constructor
  · intro same
    have bare := (unmarked_dropMarks word).bare
    rwa [same] at bare
  · exact dropMarks_of_bare

/-! ## Lines -/

/-- The device as it is read back. -/
def readBack (device : ListedDevice) : DeviceInfo :=
  { device.info with
    model := device.model?.map fun model => String.ofList (dropMarks model) }

theorem readBack_eq_info_iff {device : ListedDevice} :
    readBack device = device.info ↔ ∀ model ∈ device.model?, ¬ modelMark <+: model := by
  cases told : device.model? with
  | none => simp [readBack, ListedDevice.info, told]
  | some model => simp [readBack, ListedDevice.info, told, String.ofList_inj, dropMarks_eq_self_iff]

/-- What is read of a device: its serial, its status, and of its model, if it has one, what follows
all marks at the front. -/
structure IsReadAs (device : ListedDevice) (read : DeviceInfo) : Prop where
  serial : read.serial = device.info.serial
  status : read.status = device.info.status
  unnamed : device.model? = none → read.model = none
  named : ∀ told ∈ device.model?, ∃ model, Unmarked told model ∧
    read.model = some (String.ofList model)

theorem isReadAs_readBack (device : ListedDevice) : IsReadAs device (readBack device) where
  serial := rfl
  status := rfl
  unnamed none := by
    rw [readBack, none]
    rfl
  named told found := by
    refine ⟨dropMarks told, unmarked_dropMarks told, ?_⟩
    rw [readBack, Option.mem_def.mp found]
    rfl

theorem deviceOfLine?_of_gap {line : List Char} (none : Text.words line = []) :
    deviceOfLine? line = .none := by
  rw [deviceOfLine?, none]

theorem deviceOfLine?_of_words {device : ListedDevice} {line : List Char}
    (words : Text.words line = device.words.map Text.Word.chars) :
    deviceOfLine? line = some (readBack device) := by
  have serial : ¬ modelMark.isPrefixOf device.serial.chars = true := by
    rw [List.isPrefixOf_iff_prefix]
    exact device.serial_unmarked
  have status : ¬ modelMark.isPrefixOf device.status.chars = true := by
    rw [List.isPrefixOf_iff_prefix]
    exact device.status_unmarked
  -- Only properties can be taken for the model, and of one that is, the reader drops the first
  -- mark like all others.
  have dropped : ∀ word ∈ (device.properties.map Text.Word.chars).find? modelMark.isPrefixOf,
      String.ofList (dropMarks word) = String.ofList (dropMarks (word.drop modelMark.length)) := by
    intro word found
    obtain ⟨rest, rfl⟩ := List.isPrefixOf_iff_prefix.mp (List.find?_some found)
    rw [dropMarks_append, List.drop_left]
  rw [deviceOfLine?, words]
  simp only [ListedDevice.words, List.map_cons, readBack, ListedDevice.info, ListedDevice.model?,
    Option.map_map, Function.comp_def]
  rw [List.find?_cons_of_neg serial, List.find?_cons_of_neg status, Option.map_congr dropped]

theorem filterMap_deviceOfLine? {devices : List ListedDevice} {rows lines : List (List Char)}
    (listed : Rows devices rows) (words : lines.map Text.words = rows.map Text.words) :
    lines.filterMap deviceOfLine? = devices.map readBack := by
  induction listed generalizing lines with
  | nil =>
      rw [List.map_nil, List.map_eq_nil_iff] at words
      rw [words]
      rfl
  | blank gap more ih =>
      obtain ⟨line, others, rfl, first, later⟩ := List.map_eq_cons_iff.mp words
      have nothing : deviceOfLine? line = none := by
        apply deviceOfLine?_of_gap
        rw [first, Text.words_gap gap]
      rw [List.filterMap_cons_none nothing, ih later]
  | device listed shows more ih =>
      obtain ⟨line, others, rfl, first, later⟩ := List.map_eq_cons_iff.mp words
      have described : deviceOfLine? line = some (readBack listed) := by
        apply deviceOfLine?_of_words
        rw [first, Text.words_of_shows shows]
      rw [List.filterMap_cons_some described, ih later, List.map_cons]

theorem devicesOfList_eq {heading text : List Char} {devices : List ListedDevice}
    (listing : IsListing heading devices text) :
    devicesOfList text = devices.map readBack := by
  obtain ⟨rows, listed, has⟩ := listing
  have words := Text.map_words_lines has
  rw [List.map_cons] at words
  obtain ⟨first, lines, shape, -, below⟩ := List.map_eq_cons_iff.mp words
  rw [devicesOfList, shape, List.drop_one, List.tail_cons]
  exact filterMap_deviceOfLine? listed below

/-! ## A plain listing -/

/-- The words with a tab before and a space after each of them. -/
def spread : List Text.Word → List Char
  | [] => []
  | word :: words => ['\t'] ++ (word.chars ++ ' ' :: spread words)

theorem shows_spread (words : List Text.Word) : Text.Shows words (spread words) := by
  induction words with
  | nil => exact .gap (by decide)
  | cons word words ih => exact .next (by decide) word (by decide) ih

theorem feed_notMem_spread (words : List Text.Word) : '\n' ∉ spread words := by
  induction words with
  | nil => exact List.not_mem_nil
  | cons word words ih =>
      have inside : '\n' ∉ word.chars := by
        intro member
        have solid := word.solid _ member
        contradiction
      simp [spread, inside, ih]

/-- The lines of the devices with blank lines between them. -/
def spreadRows : List ListedDevice → List (List Char)
  | [] => []
  | device :: devices => spread device.words :: [] :: spreadRows devices

theorem rows_spreadRows (devices : List ListedDevice) : Rows devices (spreadRows devices) := by
  induction devices with
  | nil => exact .nil
  | cons device devices ih => exact .device device (shows_spread _) (.blank (by decide) ih)

/-- The lines in a text, each with a carriage return and a line feed. -/
def terminated (lines : List (List Char)) : List Char :=
  lines.flatMap fun line => line ++ ['\r', '\n']

theorem hasLines_terminated {lines : List (List Char)} (whole : ∀ line ∈ lines, '\n' ∉ line) :
    Text.HasLines lines (terminated lines) := by
  induction lines with
  | nil => exact .nil
  | cons line lines ih =>
      obtain ⟨first, others⟩ := List.forall_mem_cons.mp whole
      rw [terminated, List.flatMap_cons, List.append_assoc]
      exact .next first .returnFeed (ih others)

/-- Whatever the heading and the devices are, there is a listing of them. -/
theorem isListing_terminated {heading : List Char} (whole : '\n' ∉ heading)
    (devices : List ListedDevice) :
    IsListing heading devices (terminated (heading :: spreadRows devices)) := by
  refine ⟨_, rows_spreadRows devices, hasLines_terminated ?_⟩
  rw [List.forall_mem_cons]
  refine ⟨whole, ?_⟩
  induction devices with
  | nil => simp [spreadRows]
  | cons device devices ih => simpa [spreadRows, feed_notMem_spread] using ih

/-- From a listing the devices are read back in their order, with their serials and states.  A
device without a model property has no model; of the model told by another one all marks at the
front are taken off.  So the devices are those that were listed exactly if no model begins with the
mark. -/
theorem listing_is_read_back {heading text : List Char} {devices : List ListedDevice}
    (listing : IsListing heading devices text) :
    List.Forall₂ IsReadAs devices (devicesOfList text) ∧
    (devicesOfList text = devices.map ListedDevice.info ↔
      ∀ device ∈ devices, ∀ model ∈ device.model?, ¬ modelMark <+: model) := by
  rw [devicesOfList_eq listing]
  constructor
  · rw [List.forall₂_map_right_iff, List.forall₂_same]
    intro device _
    exact isReadAs_readBack device
  · rw [List.map_inj_left]
    exact forall₂_congr fun device _ => readBack_eq_info_iff

/-- A phone of which the listing tells one property. -/
def phone (property : Text.Word) : ListedDevice where
  serial := ⟨"emulator-5554".toList, by decide, by decide⟩
  status := ⟨"device".toList, by decide, by decide⟩
  properties := [property]
  serial_unmarked := by decide
  status_unmarked := by decide

/-- The model of a phone is read back. -/
theorem listing_is_read_back_of_phone :
    let model : Text.Word := ⟨"model:Pixel_6".toList, by decide, by decide⟩
    let text := terminated ("Devices".toList :: spreadRows [phone model])
    IsListing "Devices".toList [phone model] text ∧
      devicesOfList text = [⟨"emulator-5554", "device", some "Pixel_6"⟩] := by
  intro model text
  have listing : IsListing "Devices".toList [phone model] text :=
    isListing_terminated (by decide) _
  obtain ⟨-, same⟩ := listing_is_read_back listing
  refine ⟨listing, same.mpr ?_⟩
  decide

/-- A model that begins with the mark is not: only what follows its marks is read. -/
theorem listing_loses_mark :
    let model : Text.Word := ⟨"model:model:X".toList, by decide, by decide⟩
    let text := terminated ("Devices".toList :: spreadRows [phone model])
    IsListing "Devices".toList [phone model] text ∧
      (phone model).model? = some "model:X".toList ∧
      devicesOfList text = [⟨"emulator-5554", "device", some "X"⟩] ∧
      devicesOfList text ≠ [(phone model).info] := by
  intro model text
  have listing : IsListing "Devices".toList [phone model] text :=
    isListing_terminated (by decide) _
  have read : devicesOfList text = [⟨"emulator-5554", "device", some "X"⟩] := by
    decide +kernel
  refine ⟨listing, by decide, read, ?_⟩
  rw [read]
  decide

end Bridge

end GuiExplorer
