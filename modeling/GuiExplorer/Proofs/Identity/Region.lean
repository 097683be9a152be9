import GuiExplorer.Identity.Source
import Mathlib.Data.List.Basic

/-!
# What a widget is identified by

A widget with a text or a description is identified by these alone.  Any other widget is
identified by the pixels of the image that its bounds cover, in the order of the rows, and
has nothing to be identified by if they cover none.  Whatever the bounds are, the edges of
the covered part can be computed in words of 64 and 32 bits, and no pixel beyond the image
is looked at.
-/

namespace GuiExplorer

/-- Whether a pixel lies in a rectangle, by its column and row. -/
def Bounds.Covers (bounds : Bounds) (place : Nat × Nat) : Prop :=
  (bounds.x.toInt ≤ place.1 ∧ (place.1 : Int) < bounds.x.toInt + bounds.width.toInt) ∧
    bounds.y.toInt ≤ place.2 ∧ (place.2 : Int) < bounds.y.toInt + bounds.height.toInt

instance (bounds : Bounds) (place : Nat × Nat) : Decidable (bounds.Covers place) :=
  inferInstanceAs (Decidable (_ ∧ _))

namespace Raster

variable (image : Raster) (bounds : Bounds)

/-- The columns and rows of all pixels, row by row. -/
def places : List (Nat × Nat) :=
  (List.range image.height).flatMap fun row =>
    (List.range image.width).map fun column => (column, row)

theorem mem_places_iff {image : Raster} {place : Nat × Nat} :
    place ∈ image.places ↔ place.1 < image.width ∧ place.2 < image.height := by
  obtain ⟨column, row⟩ := place
  simp [places, and_comm]

/-- The bytes of the pixels in a rectangle, row by row. -/
def coveredBytes : List UInt8 :=
  (image.places.filter fun place => bounds.Covers place).flatMap fun place =>
    (image.pixel place.1 place.2).bytes

/-- Only the pixels in the rectangle matter. -/
theorem coveredBytes_congr {image other : Raster} {bounds : Bounds}
    (width : image.width = other.width) (height : image.height = other.height)
    (same : ∀ place ∈ image.places, bounds.Covers place →
      image.pixel place.1 place.2 = other.pixel place.1 place.2) :
    image.coveredBytes bounds = other.coveredBytes bounds := by
  have places : other.places = image.places := by simp only [Raster.places, width, height]
  rw [coveredBytes, coveredBytes, places]
  refine List.flatMap_congr fun place member => ?_
  obtain ⟨inside, covered⟩ := List.mem_filter.mp member
  rw [same place inside (by simpa using covered)]

end Raster

namespace Identity

/-! ## Edges -/

theorem clampTo_le (limit : Nat) (value : Int) : clampTo limit value ≤ limit := by
  unfold clampTo
  omega

theorem clampTo_of_le {limit : Nat} {value : Int} (beyond : (limit : Int) ≤ value) :
    clampTo limit value = limit := by
  unfold clampTo
  omega

theorem clampTo_succ_of_le {limit : Nat} {value : Int} (within : value ≤ limit) :
    clampTo (limit + 1) value = clampTo limit value := by
  unfold clampTo
  omega

/-- The numbers below a limit that lie in a span are those between its clamped ends. -/
theorem filter_span (limit : Nat) (low high : Int) :
    (List.range limit).filter (fun index : Nat => low ≤ (index : Int) ∧ (index : Int) < high) =
      List.range' (clampTo limit low) (clampTo limit high - clampTo limit low) := by
  induction limit with
  | zero =>
      have empty : clampTo 0 high - clampTo 0 low = 0 := by
        have bound := clampTo_le 0 high
        omega
      rw [empty, List.range_zero, List.filter_nil, List.range'_zero]
  | succ limit ih =>
      rw [List.range_succ, List.filter_append, ih]
      by_cases inside : low ≤ (limit : Int) ∧ (limit : Int) < high
      · have bound := clampTo_le limit low
        have stop : clampTo (limit + 1) high = limit + 1 := clampTo_of_le (by omega)
        have size : limit + 1 - clampTo limit low = limit - clampTo limit low + 1 := by omega
        have last : clampTo limit low + (limit - clampTo limit low) = limit := by omega
        rw [List.filter_cons_of_pos (by simpa using inside), List.filter_nil,
          clampTo_succ_of_le inside.1, clampTo_of_le (Int.le_of_lt inside.2), stop, size,
          List.range'_1_concat, last]
      · rw [List.filter_cons_of_neg (by simpa using inside), List.filter_nil, List.append_nil]
        by_cases early : low ≤ (limit : Int)
        · rw [clampTo_succ_of_le early, clampTo_succ_of_le (by omega : high ≤ limit)]
        · -- The span begins behind the limit, so that its clamped ends leave nothing between them.
          have start : clampTo limit low = limit := clampTo_of_le (by omega)
          have next : clampTo (limit + 1) low = limit + 1 := clampTo_of_le (by omega)
          rw [start, next, Nat.sub_eq_zero_of_le (clampTo_le _ _),
            Nat.sub_eq_zero_of_le (clampTo_le _ _), List.range'_zero, List.range'_zero]

theorem clampTo_lt_clampTo_iff {limit : Nat} {low high : Int} :
    clampTo limit low < clampTo limit high ↔
      ∃ index < limit, low ≤ (index : Int) ∧ (index : Int) < high := by
  constructor
  · intro open_span
    refine ⟨clampTo limit low, ?_⟩
    unfold clampTo at *
    omega
  · rintro ⟨index, below, after, before⟩
    unfold clampTo
    omega

/-! ## The covered part of an image -/

theorem flatMap_filter (keep : Nat → Bool) (bytes : Nat → List UInt8) (lines : List Nat) :
    (lines.filter keep).flatMap bytes =
      lines.flatMap fun line => if keep line then bytes line else [] := by
  induction lines with
  | nil => rfl
  | cons line lines ih =>
      by_cases kept : keep line
      · rw [List.filter_cons_of_pos kept, List.flatMap_cons, List.flatMap_cons, ih, if_pos kept]
      · rw [List.filter_cons_of_neg kept, List.flatMap_cons, ih, if_neg kept, List.nil_append]

variable {image : Raster} {bounds : Bounds}

/-- The covered pixels are those between the clamped edges of the rectangle. -/
theorem coveredBytes_eq :
    image.coveredBytes bounds =
      image.regionBytes (clampTo image.width bounds.x.toInt) (clampTo image.height bounds.y.toInt)
        (clampTo image.width bounds.right) (clampTo image.height bounds.bottom) := by
  rw [Raster.coveredBytes, Raster.places, List.filter_flatMap, List.flatMap_assoc,
    Raster.regionBytes, ← filter_span, ← filter_span, flatMap_filter]
  refine List.flatMap_congr fun row _ => ?_
  rw [List.filter_map, List.flatMap_map]
  by_cases reached : bounds.y.toInt ≤ (row : Int) ∧ (row : Int) < bounds.bottom
  · have columns : ((fun place => decide (bounds.Covers place)) ∘ fun column => (column, row)) =
        fun column : Nat =>
          decide (bounds.x.toInt ≤ (column : Int) ∧ (column : Int) < bounds.right) := by
      funext column
      exact decide_eq_decide.mpr (and_iff_left reached)
    rw [columns, if_pos (by simpa using reached)]
  · have columns : ((fun place => decide (bounds.Covers place)) ∘ fun column => (column, row)) =
        fun _ => false := by
      funext column
      exact decide_eq_false fun covered => reached covered.2
    rw [columns, if_neg (by simpa using reached), List.filter_false, List.flatMap_nil]

theorem exists_covered_iff :
    (∃ place ∈ image.places, bounds.Covers place) ↔
      clampTo image.width bounds.x.toInt < clampTo image.width bounds.right ∧
        clampTo image.height bounds.y.toInt < clampTo image.height bounds.bottom := by
  rw [clampTo_lt_clampTo_iff, clampTo_lt_clampTo_iff]
  constructor
  · rintro ⟨⟨column, row⟩, inside, across, down⟩
    obtain ⟨left, above⟩ := Raster.mem_places_iff.mp inside
    exact ⟨⟨column, left, across⟩, row, above, down⟩
  · rintro ⟨⟨column, left, across⟩, row, above, down⟩
    exact ⟨(column, row), Raster.mem_places_iff.mpr ⟨left, above⟩, across, down⟩

theorem croppedBytes_eq :
    croppedBytes image bounds =
      if ∃ place ∈ image.places, bounds.Covers place then some (image.coveredBytes bounds)
      else none := by
  rw [croppedBytes, coveredBytes_eq]
  by_cases some_covered : ∃ place ∈ image.places, bounds.Covers place
  · obtain ⟨across, down⟩ := exists_covered_iff.mp some_covered
    rw [if_pos some_covered, if_neg (by omega)]
  · have empty := mt exists_covered_iff.mpr some_covered
    rw [if_neg some_covered, if_pos (by omega)]

/-! ## Computing in words -/

/-- A sum in 64 bits, unless it overflows. -/
def sum? (left right : Int64) : Option Int64 :=
  let exact := left.toInt + right.toInt
  if Int64.minValue.toInt ≤ exact ∧ exact ≤ Int64.maxValue.toInt then some (left + right) else none

/-- A difference of unsigned numbers, unless it would be negative. -/
def difference? (left right : UInt32) : Option UInt32 :=
  if right ≤ left then some (left - right) else none

/-- A coordinate moved into the range from zero to a limit, with its higher half cut off. -/
def clampWord (limit : UInt32) (value : Int64) : UInt32 :=
  let most : Int64 := .ofInt limit.toNat
  let moved := if value < 0 then 0 else if most < value then most else value
  moved.toUInt64.toUInt32

/-- The bytes of a pixel that the image has. -/
def pixelBytes? (image : Raster) (column row : Nat) : Option (List UInt8) :=
  if column < image.width ∧ row < image.height then some (image.pixel column row).bytes else none

/-- Read for every number of a list, one after the other. -/
def readEach (read : Nat → Option (List UInt8)) : List Nat → Option (List UInt8)
  | [] => some []
  | first :: rest => do
      let bytes ← read first
      let more ← readEach read rest
      some (bytes ++ more)

/-- The bytes of a number of columns and rows, row by row. -/
def regionBytes? (image : Raster) (left top columns rows : Nat) : Option (List UInt8) :=
  readEach
    (fun row =>
      readEach (fun column => pixelBytes? image column row) (List.range' left columns))
    (List.range' top rows)

/-- The part of an image inside the bounds, computed in words; there is no result if a step
overflows or a pixel beyond the image is read. -/
def croppedInWords? (image : Raster) (width height : UInt32) (bounds : Bounds) :
    Option (Option (List UInt8)) := do
  let right ← sum? bounds.x.toInt64 bounds.width.toInt64
  let bottom ← sum? bounds.y.toInt64 bounds.height.toInt64
  let x₀ := clampWord width bounds.x.toInt64
  let y₀ := clampWord height bounds.y.toInt64
  let x₁ := clampWord width right
  let y₁ := clampWord height bottom
  if x₁ ≤ x₀ ∨ y₁ ≤ y₀ then some none
  else do
    let columns ← difference? x₁ x₀
    let rows ← difference? y₁ y₀
    (regionBytes? image x₀.toNat y₀.toNat columns.toNat rows.toNat).map some

theorem sum?_toInt64 (left right : Int32) :
    ∃ sum, sum? left.toInt64 right.toInt64 = some sum ∧ sum.toInt = left.toInt + right.toInt := by
  have bounds := And.intro left.le_toInt left.toInt_lt
  have otherBounds := And.intro right.le_toInt right.toInt_lt
  refine ⟨left.toInt64 + right.toInt64, ?_, ?_⟩
  · simp only [sum?, Int32.toInt_toInt64, Int64.toInt_minValue, Int64.toInt_maxValue]
    rw [if_pos (by omega)]
  · rw [Int64.toInt_add, Int32.toInt_toInt64, Int32.toInt_toInt64,
      Int.bmod_eq_of_le (by omega) (by omega)]

/-- Cutting off the higher half loses nothing of a number that fits in the lower one. -/
theorem toNat_word {value : Int64} (start : 0 ≤ value.toInt) (small : value.toInt < 4294967296) :
    value.toUInt64.toUInt32.toNat = value.toInt.toNat := by
  have nonneg : 0 ≤ value := by
    rw [Int64.le_iff_toInt_le, Int64.toInt_zero]
    exact start
  rw [UInt64.toNat_toUInt32, Int64.toNat_toUInt64_of_le nonneg, Int64.toNatClampNeg]
  omega

theorem toNat_clampWord (limit : UInt32) (value : Int64) :
    (clampWord limit value).toNat = clampTo limit.toNat value.toInt := by
  have bound := limit.toNat_lt
  have most : (Int64.ofInt limit.toNat).toInt = limit.toNat :=
    Int64.toInt_ofInt_of_le (by omega) (by omega)
  simp only [clampWord, Int64.lt_iff_toInt_lt, Int64.toInt_zero, most]
  by_cases negative : value.toInt < 0
  · rw [if_pos negative, clampTo]
    change 0 = _
    omega
  · rw [if_neg negative]
    by_cases beyond : (limit.toNat : Int) < value.toInt
    · rw [if_pos beyond, toNat_word (by omega) (by omega), most, clampTo]
      omega
    · rw [if_neg beyond, toNat_word (by omega) (by omega), clampTo]
      omega

theorem difference?_eq {left right : UInt32} (ordered : right < left) :
    ∃ difference, difference? left right = some difference ∧
      difference.toNat = left.toNat - right.toNat :=
  ⟨left - right, if_pos (UInt32.le_of_lt ordered),
    UInt32.toNat_sub_of_le _ _ (UInt32.le_of_lt ordered)⟩

theorem readEach_eq {read : Nat → Option (List UInt8)} {bytes : Nat → List UInt8}
    {places : List Nat} (each : ∀ place ∈ places, read place = some (bytes place)) :
    readEach read places = some (places.flatMap bytes) := by
  induction places with
  | nil => rfl
  | cons place places ih =>
      obtain ⟨first, others⟩ := List.forall_mem_cons.mp each
      simp [readEach, first, ih others]

theorem regionBytes?_eq {left top right bottom : Nat} (wide : right ≤ image.width)
    (high : bottom ≤ image.height) :
    regionBytes? image left top (right - left) (bottom - top) =
      some (image.regionBytes left top right bottom) := by
  refine readEach_eq fun row row_inside => readEach_eq fun column column_inside => ?_
  rw [List.mem_range'_1] at row_inside column_inside
  exact if_pos ⟨by omega, by omega⟩

/-- In words no step overflows, no pixel beyond the image is read, and the bytes are the same. -/
theorem croppedInWords?_eq {width height : UInt32} (wide : image.width = width.toNat)
    (high : image.height = height.toNat) :
    croppedInWords? image width height bounds = some (croppedBytes image bounds) := by
  obtain ⟨right, right_eq, right_value⟩ := sum?_toInt64 bounds.x bounds.width
  obtain ⟨bottom, bottom_eq, bottom_value⟩ := sum?_toInt64 bounds.y bounds.height
  change right.toInt = bounds.right at right_value
  change bottom.toInt = bounds.bottom at bottom_value
  have x₀ := toNat_clampWord width bounds.x.toInt64
  have y₀ := toNat_clampWord height bounds.y.toInt64
  have x₁ := toNat_clampWord width right
  have y₁ := toNat_clampWord height bottom
  rw [Int32.toInt_toInt64, ← wide] at x₀
  rw [Int32.toInt_toInt64, ← high] at y₀
  rw [right_value, ← wide] at x₁
  rw [bottom_value, ← high] at y₁
  simp only [croppedInWords?, croppedBytes, right_eq, bottom_eq, Option.bind_eq_bind,
    Option.bind_some, UInt32.le_iff_toNat_le, x₀, y₀, x₁, y₁]
  by_cases empty :
      clampTo image.width bounds.right ≤ clampTo image.width bounds.x.toInt ∨
        clampTo image.height bounds.bottom ≤ clampTo image.height bounds.y.toInt
  · rw [if_pos empty, if_pos empty]
  · obtain ⟨across, down⟩ := not_or.mp empty
    have leftmost : clampWord width bounds.x.toInt64 < clampWord width right := by
      rw [UInt32.lt_iff_toNat_lt]
      omega
    have topmost : clampWord height bounds.y.toInt64 < clampWord height bottom := by
      rw [UInt32.lt_iff_toNat_lt]
      omega
    obtain ⟨columns, columns_eq, columns_value⟩ := difference?_eq leftmost
    obtain ⟨rows, rows_eq, rows_value⟩ := difference?_eq topmost
    rw [if_neg empty, if_neg empty]
    simp only [columns_eq, rows_eq, Option.bind_some, columns_value, rows_value, x₀, y₀, x₁, y₁,
      regionBytes?_eq (clampTo_le _ _) (clampTo_le _ _), Option.map_some]

/-! ## Sources -/

namespace Source

variable {data : WidgetData}

theorem ofSnapshot_content (content : data.text ≠ "" ∨ data.description ≠ "")
    (screen : Option Raster) :
    ofSnapshot data screen = .content (data.text ++ data.description) := by
  have filled : ¬ data.content.isEmpty = true := by
    rw [String.isEmpty_iff, WidgetData.content, String.append_eq_empty_iff]
    rcases content with text | description
    · exact fun empty => text empty.1
    · exact fun empty => description empty.2
  rw [ofSnapshot, if_neg filled, WidgetData.content]

theorem ofSnapshot_bare (text : data.text = "") (description : data.description = "")
    (screen : Option Raster) :
    ofSnapshot data screen =
      ((screen.bind (croppedBytes · data.bounds)).map pixels).getD .empty := by
  have empty : data.content.isEmpty = true := by
    rw [String.isEmpty_iff, WidgetData.content, text, description, String.append_empty]
  rw [ofSnapshot, if_pos empty]
  cases screen.bind (croppedBytes · data.bounds) <;> rfl

theorem ofSnapshot_covered (text : data.text = "") (description : data.description = "")
    {image : Raster} (covered : ∃ place ∈ image.places, data.bounds.Covers place) :
    ofSnapshot data (some image) = .pixels (image.coveredBytes data.bounds) := by
  rw [ofSnapshot_bare text description, Option.bind_some, croppedBytes_eq, if_pos covered,
    Option.map_some, Option.getD_some]

theorem ofSnapshot_uncovered (text : data.text = "") (description : data.description = "")
    {screen : Option Raster}
    (uncovered : ∀ image ∈ screen, ∀ place ∈ image.places, ¬ data.bounds.Covers place) :
    ofSnapshot data screen = .empty := by
  rw [ofSnapshot_bare text description]
  cases screen with
  | none => rfl
  | some image =>
      have nowhere : ¬ ∃ place ∈ image.places, data.bounds.Covers place := by
        rintro ⟨place, inside, covers⟩
        exact uncovered image rfl place inside covers
      rw [Option.bind_some, croppedBytes_eq, if_neg nowhere, Option.map_none, Option.getD_none]

/-- Two images that agree where a widget lies give it the same source. -/
theorem ofSnapshot_congr {image other : Raster} (width : image.width = other.width)
    (height : image.height = other.height)
    (same : ∀ place ∈ image.places, data.bounds.Covers place →
      image.pixel place.1 place.2 = other.pixel place.1 place.2) :
    ofSnapshot data (some image) = ofSnapshot data (some other) := by
  have cropped : croppedBytes image data.bounds = croppedBytes other data.bounds := by
    have places : other.places = image.places := by simp only [Raster.places, width, height]
    rw [croppedBytes_eq, croppedBytes_eq, places, Raster.coveredBytes_congr width height same]
  simp only [ofSnapshot, Option.bind_some, cropped]

end Source

/-- A widget with a text or a description is identified by the two together, whatever its bounds
and the image.  Any other widget is identified by the bytes of the pixels that its bounds cover,
row by row, if they cover any pixel of the image, and otherwise by nothing.  For an image whose
size is given in words every step stays within its words and every pixel that is read lies in
the image.  So the identity stays the same when a widget with content is moved, and when the
image changes where the widget does not lie. -/
theorem identified_by_content_or_region (data : WidgetData) :
    (data.text ≠ "" ∨ data.description ≠ "" → ∀ screen,
      Source.ofSnapshot data screen = .content (data.text ++ data.description)) ∧
    (data.text = "" → data.description = "" →
      (∀ image : Raster, (∃ place ∈ image.places, data.bounds.Covers place) →
        Source.ofSnapshot data (some image) = .pixels (image.coveredBytes data.bounds)) ∧
      ∀ screen : Option Raster,
        (∀ image ∈ screen, ∀ place ∈ image.places, ¬ data.bounds.Covers place) →
          Source.ofSnapshot data screen = .empty) ∧
    (∀ (image : Raster) (width height : UInt32),
      image.width = width.toNat → image.height = height.toNat →
        croppedInWords? image width height data.bounds =
          some (croppedBytes image data.bounds)) ∧
    (data.text ≠ "" ∨ data.description ≠ "" → ∀ bounds screen other,
      ofSnapshot { data with bounds := bounds } other = ofSnapshot data screen) ∧
    ∀ image other : Raster, image.width = other.width → image.height = other.height →
      (∀ place ∈ image.places, data.bounds.Covers place →
        image.pixel place.1 place.2 = other.pixel place.1 place.2) →
      ofSnapshot data (some image) = ofSnapshot data (some other) := by
  refine ⟨fun content => Source.ofSnapshot_content content, fun text description => ⟨?_, ?_⟩,
    fun image width height => croppedInWords?_eq, fun content bounds screen other => ?_, ?_⟩
  · exact fun image => Source.ofSnapshot_covered text description
  · exact fun screen => Source.ofSnapshot_uncovered text description
  · let moved : WidgetData := { data with bounds := bounds }
    have movedContent : moved.text ≠ "" ∨ moved.description ≠ "" := content
    rw [ofSnapshot, ofSnapshot, Source.ofSnapshot_content movedContent,
      Source.ofSnapshot_content content]
  · intro image other width height same
    rw [ofSnapshot, ofSnapshot, Source.ofSnapshot_congr width height same]

/-- A widget that begins left of an image covers the part of it in the image; one beyond the
image covers nothing, though the end of its span exceeds the words of its start. -/
theorem identified_by_straddled_pixel :
    let image : Raster := ⟨2, 1, fun column _ => .ofGrey (UInt8.ofNat column)⟩
    let straddling : WidgetData := { bounds := ⟨-1, 0, 2, 1⟩ }
    let beyond : WidgetData := { bounds := ⟨2147483647, 0, 2147483647, 1⟩ }
    straddling.text = "" ∧ straddling.description = "" ∧
      (∃ place ∈ image.places, straddling.bounds.Covers place) ∧
      Source.ofSnapshot straddling (some image) = .pixels [0, 0, 0, 255] ∧
      (∀ place ∈ image.places, ¬ beyond.bounds.Covers place) ∧
      Source.ofSnapshot beyond (some image) = .empty := by
  intro image straddling beyond
  have covered : ∃ place ∈ image.places, straddling.bounds.Covers place := by decide +kernel
  have uncovered : ∀ place ∈ image.places, ¬ beyond.bounds.Covers place := by decide +kernel
  have first := ((identified_by_content_or_region straddling).2.1 rfl rfl).1 image covered
  have second := ((identified_by_content_or_region beyond).2.1 rfl rfl).2 (some image)
  have bytes : image.coveredBytes straddling.bounds = [0, 0, 0, 255] := by decide +kernel
  refine ⟨rfl, rfl, covered, bytes ▸ first, uncovered, second ?_⟩
  rintro _ ⟨⟩
  exact uncovered

end Identity

end GuiExplorer
