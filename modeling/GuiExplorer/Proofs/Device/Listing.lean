import GuiExplorer.Device.Bridge

/-!
# The first ready device of a listing

A listing is free text: a heading, and then a line for each device, whose first word is the serial
and whose second word is the status.  Which serial the search for a ready device comes to is told
here by the lines alone.
-/

namespace GuiExplorer

theorem Text.ne_nil_of_mem_words {text word : List Char} (member : word ∈ Text.words text) :
    word ≠ [] := by
  fun_induction Text.words text with
  | case1 => cases member
  | case2 text first rest shape ih =>
      rcases List.mem_cons.mp member with rfl | later
      · exact List.cons_ne_nil _ _
      · exact ih later

namespace Bridge

/-- The status of a device that is ready. -/
def readyStatus : List Char :=
  "device".toList

/-- The serial is the first word of the first line after the heading whose second word is the
status of a ready device. -/
def ListsReady (text : List Char) (serial : String) : Prop :=
  ∃ heading skipped line rest more,
    Text.lines text = heading :: (skipped ++ line :: rest) ∧
    (∀ other ∈ skipped, (Text.words other)[1]? ≠ some readyStatus) ∧
    Text.words line = serial.toList :: readyStatus :: more

theorem ListsReady.serial_ne_empty {text : List Char} {serial : String}
    (lists : ListsReady text serial) : serial ≠ "" := by
  obtain ⟨heading, skipped, line, rest, more, -, -, words⟩ := lists
  have member : serial.toList ∈ Text.words line := words ▸ List.mem_cons_self
  rintro rfl
  exact Text.ne_nil_of_mem_words member rfl

/-- A line describes a device by its first two words. -/
theorem deviceOfLine?_eq_some_iff {line : List Char} {serial status : String} :
    (∃ device, deviceOfLine? line = some device ∧ device.serial = serial ∧
      device.status = status) ↔
      ∃ more, Text.words line = serial.toList :: status.toList :: more := by
  unfold deviceOfLine?
  split
  case h_1 first second more words =>
    constructor
    · rintro ⟨device, described, rfl, rfl⟩
      cases described
      exact ⟨more, by simp only [words, String.toList_ofList]⟩
    · rintro ⟨others, same⟩
      rw [words] at same
      cases same
      exact ⟨_, rfl, String.ofList_toList, String.ofList_toList⟩
  case h_2 short =>
    constructor
    · rintro ⟨device, described, -⟩
      cases described
    · rintro ⟨more, words⟩
      exact absurd words (short _ _ _)

theorem deviceOfLine?_ready_iff (line : List Char) :
    (deviceOfLine? line).any (·.status = "device") = true ↔
      (Text.words line)[1]? = some readyStatus := by
  rw [Option.any_eq_true]
  constructor
  · rintro ⟨device, described, ready⟩
    obtain ⟨more, words⟩ := deviceOfLine?_eq_some_iff.mp
      ⟨device, described, rfl, of_decide_eq_true ready⟩
    rw [words]
    rfl
  · intro second
    obtain ⟨first, more, words⟩ : ∃ first more, Text.words line = first :: readyStatus :: more := by
      match shape : Text.words line with
      | [] => simp [shape] at second
      | [_] => simp [shape] at second
      | first :: status :: more =>
          rw [shape] at second
          exact ⟨first, more, by rw [Option.some.inj second]⟩
    obtain ⟨device, described, -, ready⟩ := deviceOfLine?_eq_some_iff.mpr
      ⟨more, (words.trans (by rw [String.toList_ofList]; rfl) :
        Text.words line = (String.ofList first).toList :: "device".toList :: more)⟩
    exact ⟨device, described, decide_eq_true ready⟩

/-- The search for a ready device comes to the serial that the lines tell. -/
theorem find?_ready_iff {text : List Char} {serial : String} :
    (∃ device, (devicesOfList text).find? (·.status = "device") = some device ∧
      device.serial = serial) ↔ ListsReady text serial := by
  unfold devicesOfList
  rw [List.find?_filterMap]
  constructor
  · rintro ⟨device, found, rfl⟩
    obtain ⟨line, first, described⟩ := Option.bind_eq_some_iff.mp found
    obtain ⟨ready, skipped, rest, lines, earlier⟩ := List.find?_eq_some_iff_append.mp first
    have status : device.status = "device" := by
      simpa [described] using ready
    obtain ⟨more, words⟩ := deviceOfLine?_eq_some_iff.mp ⟨device, described, rfl, status⟩
    cases shape : Text.lines text with
    | nil => simp [shape] at lines
    | cons heading below =>
        rw [shape, List.drop_one, List.tail_cons] at lines
        refine ⟨heading, skipped, line, rest, more, by rw [shape, lines], ?_, words⟩
        intro other member second
        have unready := earlier other member
        rw [(deviceOfLine?_ready_iff other).mpr second] at unready
        cases unready
  · rintro ⟨heading, skipped, line, rest, more, lines, earlier, words⟩
    obtain ⟨device, described, own, -⟩ := deviceOfLine?_eq_some_iff.mpr ⟨more, words⟩
    refine ⟨device, Option.bind_eq_some_iff.mpr ⟨line, ?_, described⟩, own⟩
    rw [lines, List.drop_one, List.tail_cons, List.find?_eq_some_iff_append]
    refine ⟨(deviceOfLine?_ready_iff line).mpr (by rw [words]; rfl), skipped, rest, rfl, ?_⟩
    intro other member
    have unready := mt (deviceOfLine?_ready_iff other).mp (earlier other member)
    rw [Bool.eq_false_iff.mpr unready]
    rfl

theorem listDevices_state {σ : Type} (runner : Runner σ) (state : σ) :
    (listDevices runner state).2 = (runner listArguments state).2 := by
  unfold listDevices
  split
  case h_1 ran => rw [ran]
  case h_2 ran => rw [ran]

theorem listDevices_ok_iff {σ : Type} {runner : Runner σ} {state : σ} {devices : List DeviceInfo} :
    (listDevices runner state).1 = .ok devices ↔
      ∃ output, (runner listArguments state).1 = .ok output ∧
        devicesOfList (printed output.stdout) = devices := by
  unfold listDevices
  split
  case h_1 ran => simp [ran]
  case h_2 ran => simp [ran]

end Bridge

end GuiExplorer
