import GuiExplorer.Proofs.Identity.UuidText
import GuiExplorer.Proofs.Json.Reading
import GuiExplorer.Proofs.Text.Utf8
import GuiExplorer.Store.Recording
import GuiExplorer.Store.Snapshot

/-!
# What is saved can be loaded

A snapshot of the store and a recording are loaded from their files as they were saved,
with all data of every widget, the identifiers that were stored with the widgets and
screens, and the order of all lists.  Nothing is asked of the texts, numbers and
identifiers in them.
-/

namespace GuiExplorer

open Json (ReadsBack)

namespace Json

/-- An optional value is told from an absent one, unless it is written as null itself. -/
theorem ReadsBack.option {write : α → Json} {read : Json → Option α}
    (back : ReadsBack write read) (given : ∀ value, write value ≠ .null) :
    ReadsBack (ofOption write) (optional? read) where
  faithful
    | none => .null
    | some value => back.faithful value
  read_write
    | none => rfl
    | some value => by
        have same := back.read_write value
        rw [ofOption, optional?, same]
        · rfl
        · exact given value

theorem ReadsBack.optionalBool : ReadsBack (ofOption .bool) (optional? bool?) :=
  ReadsBack.bool.option fun _ => Json.noConfusion

theorem ReadsBack.optionalText : ReadsBack (ofOption .str) (optional? text?) :=
  ReadsBack.text.option fun _ => Json.noConfusion

end Json

/-! ## Widgets and screens -/

theorem Uuid.readsBack : ReadsBack Uuid.toJson Uuid.ofJson? where
  faithful _ := .string _
  read_write id := by
    rw [toJson, ofJson?, ReadsBack.text.read_write, Option.bind_some, ofText?_text]

theorem Bounds.readsBack : ReadsBack Bounds.toJson Bounds.ofJson? where
  faithful bounds := .record (by simp [ReadsBack.int32.faithful])
  read_write bounds := by
    have found : bounds.toJson.fields? fieldNames = _ := Json.fields?_record rfl (by decide)
    simp only [ofJson?, found, List.map_cons, List.map_nil, ReadsBack.int32.required_write]
    rfl

theorem WidgetData.readsBack : ReadsBack WidgetData.toJson WidgetData.ofJson? where
  faithful data := .record (by
    simp [ReadsBack.text.faithful, ReadsBack.bool.faithful, Bounds.readsBack.faithful,
      ReadsBack.optionalBool.faithful, ReadsBack.optionalText.faithful])
  read_write data := by
    have found : data.toJson.fields? fieldNames = _ := Json.fields?_record rfl (by decide)
    simp only [ofJson?, found, List.map_cons, List.map_nil, ReadsBack.text.orDefault_write,
      ReadsBack.bool.orDefault_write, Bounds.readsBack.orDefault_write,
      ReadsBack.optionalBool.orDefault_write, ReadsBack.optionalText.orDefault_write]
    rfl

theorem Widget.readsBack : ReadsBack Widget.toJson Widget.ofJson? where
  faithful widget := .record (by simp [Uuid.readsBack.faithful, WidgetData.readsBack.faithful])
  read_write widget := by
    have found : widget.toJson.fields? fieldNames = _ := Json.fields?_record rfl (by decide)
    simp only [ofJson?, found, List.map_cons, List.map_nil,
      Uuid.readsBack.required_write, WidgetData.readsBack.required_write]
    rfl

theorem Screen.readsBack : ReadsBack Screen.toJson Screen.ofJson? where
  faithful screen := .record (by
    simp [Uuid.readsBack.faithful, Widget.readsBack.list.faithful screen.widgets])
  read_write screen := by
    have found : screen.toJson.fields? fieldNames = _ := Json.fields?_record rfl (by decide)
    simp only [ofJson?, found, List.map_cons, List.map_nil,
      Uuid.readsBack.required_write, Widget.readsBack.list.required_write]
    rfl

/-! ## Actions -/

theorem Gesture.readsBack : ReadsBack Gesture.toJson Gesture.ofJson? where
  faithful _ := .string _
  read_write gesture := by cases gesture <;> rfl

theorem Action.onWidgetOfJson?_record (widget : Widget) (gesture : Gesture) :
    onWidgetOfJson? (.record [("widget", widget.toJson), ("gesture", gesture.toJson)]) =
      some (.onWidget widget gesture) := by
  have found : (Json.record [("widget", widget.toJson), ("gesture", gesture.toJson)]).fields?
      fieldNames = _ := Json.fields?_record rfl (by decide)
  simp only [onWidgetOfJson?, found, List.map_cons, List.map_nil,
    Widget.readsBack.required_write, Gesture.readsBack.required_write]
  rfl

theorem Action.isFaithful_onWidget (widget : Widget) (gesture : Gesture) :
    (Action.onWidget widget gesture).toJson.IsFaithful := by
  have data : (Json.record [("widget", widget.toJson), ("gesture", gesture.toJson)]).IsFaithful :=
    .record (by simp [Widget.readsBack.faithful, Gesture.readsBack.faithful])
  exact .record (by simpa using data)

theorem Action.readsBack : ReadsBack Action.toJson Action.ofJson? where
  faithful
    | .onWidget widget gesture => isFaithful_onWidget widget gesture
    | .reset | .terminate | .pressBack | .observe => .string _
  read_write
    | .onWidget widget gesture => onWidgetOfJson?_record widget gesture
    | .reset | .terminate | .pressBack | .observe => rfl

theorem ActionRecord.readsBack : ReadsBack ActionRecord.toJson ActionRecord.ofJson? where
  faithful entry := .record (by
    simp [Action.readsBack.faithful, Screen.readsBack.faithful, ReadsBack.text.faithful])
  read_write entry := by
    have found : entry.toJson.fields? fieldNames = _ := Json.fields?_record rfl (by decide)
    simp only [ofJson?, found, List.map_cons, List.map_nil,
      Action.readsBack.required_write, Screen.readsBack.required_write,
      ReadsBack.text.required_write]
    rfl

theorem Recording.readsBack : ReadsBack Recording.toJson Recording.ofJson? where
  faithful recording := .record (by
    simp [ReadsBack.text.faithful, ActionRecord.readsBack.list.faithful recording.records])
  read_write recording := by
    have found : recording.toJson.fields? fieldNames = _ := Json.fields?_record rfl (by decide)
    simp only [ofJson?, found, List.map_cons, List.map_nil,
      ReadsBack.text.required_write, ActionRecord.readsBack.list.required_write]
    rfl

/-! ## Snapshots of the store -/

theorem ActedCount.readsBack : ReadsBack ActedCount.toJson ActedCount.ofJson? where
  faithful counter := .record (by
    simp [Uuid.readsBack.faithful, ReadsBack.uint32.faithful counter.count])
  read_write counter := by
    have found : counter.toJson.fields? fieldNames = _ := Json.fields?_record rfl (by decide)
    simp only [ofJson?, found, List.map_cons, List.map_nil,
      Uuid.readsBack.required_write, ReadsBack.uint32.required_write]
    rfl

theorem StoreSnapshot.readsBack : ReadsBack StoreSnapshot.toJson StoreSnapshot.ofJson? where
  faithful snapshot := .record (by
    simp [Uuid.readsBack.list.faithful snapshot.observations,
      Screen.readsBack.list.faithful snapshot.screens,
      ActedCount.readsBack.list.faithful snapshot.acted])
  read_write snapshot := by
    have found : snapshot.toJson.fields? fieldNames = _ := Json.fields?_record rfl (by decide)
    simp only [ofJson?, found, List.map_cons, List.map_nil,
      Uuid.readsBack.list.required_write, Screen.readsBack.list.required_write,
      ActedCount.readsBack.list.required_write]
    rfl

/-! ## Files -/

theorem StoredFile.text_ofText (text : String) : (ofText text).text = .ok text := by
  have decoded : Text.decodeUtf8 (Text.utf8Bytes text) = .ok text :=
    Text.decodeUtf8_eq_ok_iff.mpr rfl
  simp only [StoredFile.text, ofText, decoded]

theorem StoredFile.load_ofText {read : String → Option α} {text : String} {value : α}
    (found : read text = some value) : (ofText text).load read = .ok value := by
  simp only [load, text_ofText, found]

namespace Store

/-- Whatever a snapshot of a store or a recording holds, the file with the text that is saved
for it is loaded as that same snapshot or recording. -/
theorem saved_files_reload :
    (∀ snapshot : StoreSnapshot,
      StoreSnapshot.load (.ofText snapshot.save) = .ok snapshot) ∧
    ∀ recording : Recording, Recording.load (.ofText recording.save) = .ok recording :=
  ⟨fun snapshot => StoredFile.load_ofText (StoreSnapshot.readsBack.ofText?_pretty snapshot),
    fun recording => StoredFile.load_ofText (Recording.readsBack.ofText?_pretty recording)⟩

end Store

end GuiExplorer
