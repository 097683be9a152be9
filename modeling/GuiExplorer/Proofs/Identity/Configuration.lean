import GuiExplorer.Proofs.Identity.Fingerprint
import GuiExplorer.Proofs.Text.Digits
import GuiExplorer.Proofs.Text.Utf8

/-!
# What a configuration id tells

The text that is hashed for the configuration of a widget holds its volatile properties and
nothing else, and from the text they can all be read back.  Each property but the last ends at a
mark that cannot occur in it; the position in the UI tree, in which anything may occur, is last.
-/

namespace GuiExplorer

namespace Text

/-- Words with a mark after each of them, and then the rest. -/
def marked (mark : Char) (words : List String) (rest : String) : String :=
  words.foldr (fun word text => word ++ (String.singleton mark ++ text)) rest

/-- The first mark is where the word ends. -/
theorem append_mark_inj {mark : Char} {left right rest other : List Char}
    (leftFree : mark ∉ left) (rightFree : mark ∉ right) :
    left ++ mark :: rest = right ++ mark :: other ↔ left = right ∧ rest = other := by
  induction left generalizing right with
  | nil => cases right <;> grind
  | cons c left ih => cases right <;> grind

/-- As many words, none of which holds the mark, are read back together with the rest. -/
theorem marked_eq_iff {mark : Char} {left right : List String} {rest other : String}
    (leftFree : ∀ word ∈ left, mark ∉ word.toList)
    (rightFree : ∀ word ∈ right, mark ∉ word.toList) (size : left.length = right.length) :
    marked mark left rest = marked mark right other ↔ left = right ∧ rest = other := by
  induction left generalizing right with
  | nil =>
      cases List.length_eq_zero_iff.mp size.symm
      simp [marked]
  | cons word words ih =>
      obtain ⟨first, more, rfl⟩ := List.exists_cons_of_length_eq_add_one size.symm
      obtain ⟨wordFree, wordsFree⟩ := List.forall_mem_cons.mp leftFree
      obtain ⟨firstFree, moreFree⟩ := List.forall_mem_cons.mp rightFree
      have later := ih wordsFree moreFree (Nat.succ.inj size)
      have here (word : String) (words : List String) (rest : String) :
          (marked mark (word :: words) rest).toList =
            word.toList ++ mark :: (marked mark words rest).toList := by
        simp [marked]
      rw [← String.toList_inj, here, here, append_mark_inj wordFree firstFree, String.toList_inj,
        String.toList_inj, later, List.cons.injEq, and_assoc]

theorem utf8Bytes_injective : Function.Injective utf8Bytes := by
  intro left right same
  have decoded : decodeUtf8 (utf8Bytes left) = .ok right := decodeUtf8_eq_ok_iff.mpr same
  exact Except.ok.inj ((decodeUtf8_eq_ok_iff.mpr rfl).symm.trans decoded)

end Text

/-- Two records agree on all that changes while a widget stays the same. -/
structure WidgetData.SameState (data other : WidgetData) : Prop where
  checked : data.checked = other.checked
  focused : data.focused = other.focused
  enabled : data.enabled = other.enabled
  visible : data.visible = other.visible
  selected : data.selected = other.selected
  clickable : data.clickable = other.clickable
  longClickable : data.longClickable = other.longClickable
  scrollable : data.scrollable = other.scrollable
  isPassword : data.isPassword = other.isPassword
  bounds : data.bounds = other.bounds
  xpath : data.xpath = other.xpath

namespace Identity

theorem flag_inj {left right : Bool} : flag left = flag right ↔ left = right := by
  decide +revert

theorem optionalFlag_inj {left right : Option Bool} :
    optionalFlag left = optionalFlag right ↔ left = right := by
  rcases left with _ | _ | _ <;> rcases right with _ | _ | _ <;> decide

theorem toString_toInt_inj {left right : Int32} :
    toString left.toInt = toString right.toInt ↔ left = right :=
  Text.toString_int_injective.eq_iff.trans Int32.toInt_inj

/-- The words for the truth values of a record. -/
def flagWords (data : WidgetData) : List String :=
  ["checked=" ++ optionalFlag data.checked, "focused=" ++ optionalFlag data.focused,
   "enabled=" ++ flag data.enabled, "visible=" ++ flag data.visible,
   "selected=" ++ flag data.selected, "clickable=" ++ flag data.clickable,
   "long_clickable=" ++ flag data.longClickable, "scrollable=" ++ flag data.scrollable,
   "password=" ++ flag data.isPassword]

/-- The word for a rectangle.  The height ends with it. -/
def boundsWord (bounds : Bounds) : String :=
  Text.marked ','
    ["bounds=" ++ toString bounds.x.toInt, toString bounds.y.toInt, toString bounds.width.toInt]
    (toString bounds.height.toInt)

theorem configText_eq (data : WidgetData) :
    configText data =
      Text.marked ';' (flagWords data ++ [boundsWord data.bounds]) ("xpath=" ++ data.xpath) := by
  have semicolon : String.singleton ';' = ";" := rfl
  have comma : String.singleton ',' = "," := rfl
  have joined (left right : String) : ";" ++ (left ++ right) = ";" ++ left ++ right :=
    String.append_assoc.symm
  unfold configText
  simp only [Text.marked, flagWords, boundsWord, List.cons_append, List.nil_append,
    List.foldr_cons, List.foldr_nil, semicolon, comma, String.append_assoc]
  simp only [joined, String.reduceAppend]

/-! ## Marks do not occur in the words -/

theorem mark_notMem_flag (value : Bool) : ';' ∉ (flag value).toList := by
  cases value <;> decide

theorem mark_notMem_optionalFlag (value : Option Bool) : ';' ∉ (optionalFlag value).toList := by
  rcases value with _ | _ | _ <;> decide

theorem mark_notMem_int {mark : Char} (other : mark ≠ '-') (nonDigit : mark.isDigit = false)
    (value : Int) : mark ∉ value.repr.toList := by
  intro inside
  rw [Text.isDigit_of_mem_toString_int inside other] at nonDigit
  cases nonDigit

theorem mark_notMem_flagWords (data : WidgetData) : ∀ word ∈ flagWords data, ';' ∉ word.toList := by
  simp [flagWords, mark_notMem_flag, mark_notMem_optionalFlag]

theorem mark_notMem_boundsWord (bounds : Bounds) : ';' ∉ (boundsWord bounds).toList := by
  have ints : ∀ value : Int, ';' ∉ value.repr.toList := mark_notMem_int (by decide) (by decide)
  simp [boundsWord, Text.marked, ints]

theorem comma_notMem_boundsWords (bounds : Bounds) :
    ∀ word ∈ ["bounds=" ++ toString bounds.x.toInt, toString bounds.y.toInt,
      toString bounds.width.toInt], ',' ∉ word.toList := by
  have ints : ∀ value : Int, ',' ∉ value.repr.toList := mark_notMem_int (by decide) (by decide)
  simp [ints]

/-! ## Reading the words back -/

theorem flagWords_eq_iff {data other : WidgetData} :
    flagWords data = flagWords other ↔
      data.checked = other.checked ∧ data.focused = other.focused ∧
      data.enabled = other.enabled ∧ data.visible = other.visible ∧
      data.selected = other.selected ∧ data.clickable = other.clickable ∧
      data.longClickable = other.longClickable ∧ data.scrollable = other.scrollable ∧
      data.isPassword = other.isPassword := by
  simp [flagWords, flag_inj, optionalFlag_inj]

theorem boundsWord_inj {left right : Bounds} : boundsWord left = boundsWord right ↔ left = right := by
  rw [boundsWord, boundsWord,
    Text.marked_eq_iff (comma_notMem_boundsWords left) (comma_notMem_boundsWords right)
      (by simp)]
  cases left
  cases right
  simp only [List.cons.injEq, String.append_right_inj, toString_toInt_inj, and_true, and_assoc,
    Bounds.mk.injEq]

/-- The text tells the volatile properties of a record and nothing else. -/
theorem configText_eq_iff {data other : WidgetData} :
    configText data = configText other ↔ data.SameState other := by
  have free (data : WidgetData) :
      ∀ word ∈ flagWords data ++ [boundsWord data.bounds], ';' ∉ word.toList := by
    rw [List.forall_mem_append]
    exact ⟨mark_notMem_flagWords data,
      List.forall_mem_singleton.mpr (mark_notMem_boundsWord data.bounds)⟩
  rw [configText_eq, configText_eq, Text.marked_eq_iff (free data) (free other)
    (by simp [flagWords]), ← List.concat_eq_append, ← List.concat_eq_append, List.concat_inj,
    flagWords_eq_iff, boundsWord_inj, String.append_right_inj]
  constructor
  · rintro ⟨⟨⟨checked, focused, enabled, visible, selected, clickable, longClickable, scrollable,
      isPassword⟩, bounds⟩, xpath⟩
    exact ⟨checked, focused, enabled, visible, selected, clickable, longClickable, scrollable,
      isPassword, bounds, xpath⟩
  · intro same
    exact ⟨⟨⟨same.checked, same.focused, same.enabled, same.visible, same.selected,
      same.clickable, same.longClickable, same.scrollable, same.isPassword⟩, same.bounds⟩,
      same.xpath⟩

theorem utf8Bytes_configText_eq_iff {data other : WidgetData} :
    Text.utf8Bytes (configText data) = Text.utf8Bytes (configText other) ↔ data.SameState other :=
  Text.utf8Bytes_injective.eq_iff.trans configText_eq_iff

/-- The string that is hashed for the configuration of a record is that of another record exactly
if the two agree on every volatile property, whatever the position in the UI tree consists of.  So
unless the identifiers of the two strings collide, widgets built from the records have the same
identifiers exactly if these properties and the identifiers of the two identity sources agree.
No other property of a record has a part in its configuration id. -/
theorem configuration_is_exact (data other : WidgetData) :
    (configText data = configText other ↔ data.SameState other) ∧
    (Text.utf8Bytes (configText data) = Text.utf8Bytes (configText other) ↔
      data.SameState other) ∧
    (Uuid.TellsApart (Text.utf8Bytes (configText data)) (Text.utf8Bytes (configText other)) →
      (configId data = configId other ↔ data.SameState other) ∧
      ∀ screen otherScreen : Option Raster,
        (Widget.ofSnapshot data screen).sameId (Widget.ofSnapshot other otherScreen) = true ↔
          data.SameState other ∧
            (Source.ofSnapshot data screen).id = (Source.ofSnapshot other otherScreen).id) ∧
    ∀ (text description resourceId className packageName : String) (parentXpath : Option String)
      (isLeaf : Bool),
      configId { data with
        text := text, description := description, resourceId := resourceId,
        className := className, packageName := packageName, parentXpath := parentXpath,
        isLeaf := isLeaf } = configId data := by
  refine ⟨configText_eq_iff, utf8Bytes_configText_eq_iff, fun apart => ?_, ?_⟩
  · have state : configId data = configId other ↔ data.SameState other :=
      apart.ofName_eq_iff.trans utf8Bytes_configText_eq_iff
    refine ⟨state, fun screen otherScreen => ?_⟩
    rw [← state, Widget.sameId, beq_iff_eq, Widget.id, Widget.id, Prod.mk.injEq, and_comm]
    rfl
  · intros
    rfl

/-- Two widgets with the same label, split between text and description in two ways, are the same
widget though marks occur in their position; one whose row takes a digit from its width is
another. -/
theorem configuration_of_split_label :
    let whole : WidgetData :=
      { text := "OK", bounds := ⟨-1, 2, 30, 4⟩, xpath := "/a,1;xpath=/b" }
    let split : WidgetData := { whole with text := "O", description := "K", className := "Button" }
    let moved : WidgetData := { whole with bounds := ⟨-1, 23, 0, 4⟩ }
    configText whole ≠ configText moved ∧
      Uuid.TellsApart (Text.utf8Bytes (configText whole)) (Text.utf8Bytes (configText split)) ∧
      (Widget.ofData whole).sameId (Widget.ofData split) = true := by
  intro whole split moved
  have state : whole.SameState split := ⟨rfl, rfl, rfl, rfl, rfl, rfl, rfl, rfl, rfl, rfl, rfl⟩
  have apart : Uuid.TellsApart (Text.utf8Bytes (configText whole))
      (Text.utf8Bytes (configText split)) :=
    fun _ => (configuration_is_exact whole split).2.1.mpr state
  have label : Source.ofSnapshot whole none = Source.ofSnapshot split none := by decide
  refine ⟨fun same => ?_, apart, ?_⟩
  · have bounds := ((configuration_is_exact whole moved).1.mp same).bounds
    exact absurd bounds (by decide)
  · have widgets := ((configuration_is_exact whole split).2.2.1 apart).2 none none
    exact widgets.mpr ⟨state, congrArg Source.id label⟩

end Identity

end GuiExplorer
