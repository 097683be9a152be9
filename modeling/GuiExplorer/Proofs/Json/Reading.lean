import GuiExplorer.Json.Reader
import GuiExplorer.Proofs.Json.Building
import Mathlib.Data.List.Nodup

/-!
# Typed data that are read back

A writer and a reader of one type belong together if the reader gets every value back
from what the writer makes of it.  Writers and readers that are put together from such
pairs belong together again: a list is read back if its items are, and a record whose
fields have different names gives each reader the field of its name.

Whoever wrote it, a value is taken for a record with certain fields only if none of them
is given twice.
-/

namespace GuiExplorer.Json

/-- What `write` makes of a value can be kept as a text, and `read` gets the value back
from it. -/
structure ReadsBack (write : α → Json) (read : Json → Option α) : Prop where
  faithful (value : α) : (write value).IsFaithful
  read_write (value : α) : read (write value) = some value

namespace ReadsBack

theorem text : ReadsBack str text? where
  faithful _ := .string _
  read_write _ := rfl

theorem bool : ReadsBack .bool bool? where
  faithful _ := .bool _
  read_write _ := rfl

theorem int32 : ReadsBack (fun value : Int32 => .int value.toInt) int32? where
  faithful _ := .int _
  read_write value := by
    have low : -2147483648 ≤ value.toInt := value.le_toInt
    have high : value.toInt < 2147483648 := value.toInt_lt
    rw [int32?, if_pos (by omega), Int32.ofInt_toInt]

theorem natBelow?_of_lt {bound value : Nat} (small : value < bound) :
    natBelow? bound (.int value) = some value := by
  rw [natBelow?, if_pos ⟨by omega, by simpa using small⟩, Int.toNat_natCast]

theorem uint16 : ReadsBack (fun value : UInt16 => .int value.toNat) uint16? where
  faithful _ := .int _
  read_write value := by
    rw [uint16?, natBelow?_of_lt value.toNat_lt_size, Option.map_some, UInt16.ofNat_toNat]

theorem uint32 : ReadsBack (fun value : UInt32 => .int value.toNat) uint32? where
  faithful _ := .int _
  read_write value := by
    rw [uint32?, natBelow?_of_lt value.toNat_lt_size, Option.map_some, UInt32.ofNat_toNat]

theorem uint64 : ReadsBack (fun value : UInt64 => .int value.toNat) uint64? where
  faithful _ := .int _
  read_write value := by
    rw [uint64?, natBelow?_of_lt value.toNat_lt_size, Option.map_some, UInt64.ofNat_toNat]

variable {write : α → Json} {read : Json → Option α}

theorem readAll_map (back : ReadsBack write read) (values : List α) :
    readAll read (values.map write) = some values := by
  induction values with
  | nil => rfl
  | cons value values ih => simp only [List.map_cons, readAll, back.read_write, ih, Option.map_some]

theorem list (back : ReadsBack write read) :
    ReadsBack (fun values => .array (values.map write)) (list? read) where
  faithful values := .array (by simpa using fun value _ => back.faithful value)
  read_write values := back.readAll_map values

theorem required_write (back : ReadsBack write read) (value : α) :
    required read (some (write value)) = some value :=
  back.read_write value

theorem orDefault_write (back : ReadsBack write read) (default value : α) :
    orDefault default read (some (write value)) = some value :=
  back.read_write value

/-- A value is read back from its indented text. -/
theorem ofText?_pretty (back : ReadsBack write read) (value : α) :
    (ofText? (write value).pretty).bind read = some value := by
  rw [Json.ofText?_pretty (back.faithful value), Option.bind_some, back.read_write]

end ReadsBack

theorem readAll_text?_eq_some_iff {items : List Json} {texts : List String} :
    readAll text? items = some texts ↔ items = texts.map str := by
  constructor
  · intro read
    induction items generalizing texts with
    | nil =>
        cases read
        rfl
    | cons item items ih =>
        unfold readAll at read
        split at read
        case h_1 first found =>
          obtain ⟨others, rest, rfl⟩ := Option.map_eq_some_iff.mp read
          have same : item = str first := by
            cases item <;> cases found
            rfl
          rw [same, ih rest, List.map_cons]
        case h_2 => cases read
  · rintro rfl
    exact ReadsBack.text.readAll_map texts

/-- A list of texts is read from an array of texts only. -/
theorem list?_text?_eq_some_iff {value : Json} {texts : List String} :
    list? text? value = some texts ↔ value = .array (texts.map str) := by
  cases value with
  | array items => rw [list?, readAll_text?_eq_some_iff, Json.array.injEq]
  | _ => simp [list?]

/-! ## Records -/

theorem IsFaithful.record {members : List (String × Json)}
    (each : ∀ member ∈ members, member.2.IsFaithful) : (record members).IsFaithful := by
  refine .object fun member inside => ?_
  obtain ⟨named, present, rfl⟩ := List.mem_map.mp inside
  exact each named present

/-- Among members with different names, those of one name are one member. -/
theorem filter_named {members : List (String × Json)} (distinct : (members.map Prod.fst).Nodup)
    {name : String} {value : Json} (inside : (name, value) ∈ members) :
    members.filter (·.1 = name) = [(name, value)] := by
  induction members with
  | nil => cases inside
  | cons member members ih =>
      rw [List.map_cons, List.nodup_cons] at distinct
      obtain ⟨absent, distinct⟩ := distinct
      rcases List.mem_cons.mp inside with rfl | inside
      · have others : members.filter (·.1 = name) = [] := by
          rw [List.filter_eq_nil_iff]
          intro other present same
          exact absent (List.mem_map.mpr ⟨other, present, by simpa using same⟩)
        rw [List.filter_cons_of_pos (by simp), others]
      · have other : member.1 ≠ name := by
          rintro rfl
          exact absent (List.mem_map.mpr ⟨_, inside, rfl⟩)
        rw [List.filter_cons_of_neg (by simpa using other), ih distinct inside]

theorem member?_record {members : List (String × Json)}
    (distinct : (members.map Prod.fst).Nodup) {name : String} {value : Json}
    (inside : (name, value) ∈ members) :
    member? name (members.map fun (name, value) => (some name, value)) = some (some value) := by
  have one : (members.map fun (name, value) => (some name, value)).filter (·.1 = some name) =
      [(some name, value)] := by
    rw [List.filter_map]
    simpa [Function.comp_def] using filter_named distinct inside
  rw [member?, one]

theorem membersNamed_of_forall {members : List (Option String × Json)}
    {fields : List (String × Json)}
    (each : ∀ field ∈ fields, member? field.1 members = some (some field.2)) :
    membersNamed members (fields.map Prod.fst) = some (fields.map fun field => some field.2) := by
  induction fields with
  | nil => rfl
  | cons field fields ih =>
      have first := each field (by simp)
      have others := ih fun other inside => each other (by simp [inside])
      simp only [List.map_cons, membersNamed, first, others, Option.map_some]

/-- Every field of a record is found by its name. -/
theorem fields?_record {names : List String} {members : List (String × Json)}
    (named : members.map Prod.fst = names) (distinct : names.Nodup) :
    fields? names (record members) = some (members.map fun member => some member.2) := by
  subst named
  have texts : (members.map fun (name, value) => (some name, value)).any (·.1.isNone) = false := by
    simp
  rw [record, fields?, texts, if_neg (by simp)]
  exact membersNamed_of_forall fun field inside => member?_record distinct inside

/-! ### What a record is -/

/-- The value that a record holds for a field: in an object that of the first member with its
name, in an array the item at its place among the names. -/
def fieldOf? (names : List String) (name : String) : Json → Option Json
  | .object members => (members.find? (·.1 = some name)).map Prod.snd
  | .array items => items[names.idxOf name]?
  | _ => none

/-- A record with fields of these names: an object in which every name is a text and none of
these is given twice, or an array that is not too long. -/
def IsRecord (names : List String) : Json → Prop
  | .object members =>
      (∀ member ∈ members, member.1.isSome) ∧
        ∀ name ∈ names, (members.filter (·.1 = some name)).length ≤ 1
  | .array items => items.length ≤ names.length
  | _ => False

theorem member?_eq_some_iff {name : String} {members : List (Option String × Json)}
    {given : Option Json} :
    member? name members = some given ↔
      (members.filter (·.1 = some name)).length ≤ 1 ∧
        given = (members.find? (·.1 = some name)).map Prod.snd := by
  rw [member?, ← List.head?_filter]
  generalize members.filter (·.1 = some name) = found
  match found with
  | [] => simp [eq_comm]
  | [(_, value)] => simp [eq_comm]
  | _ :: _ :: _ => simp

theorem membersNamed_eq_some_iff {members : List (Option String × Json)} {names : List String}
    {given : List (Option Json)} :
    membersNamed members names = some given ↔
      (∀ name ∈ names, (members.filter (·.1 = some name)).length ≤ 1) ∧
        given = names.map fun name => (members.find? (·.1 = some name)).map Prod.snd := by
  induction names generalizing given with
  | nil => simp [membersNamed, eq_comm]
  | cons name names ih =>
      rw [List.forall_mem_cons, List.map_cons]
      cases found : member? name members with
      | none =>
          have repeated : ¬ (members.filter (·.1 = some name)).length ≤ 1 := by
            intro once
            have first := member?_eq_some_iff.mpr ⟨once, rfl⟩
            rw [found] at first
            contradiction
          simp [membersNamed, found, repeated]
      | some first =>
          obtain ⟨once, rfl⟩ := member?_eq_some_iff.mp found
          simp only [membersNamed, found, Option.map_eq_some_iff]
          constructor
          · rintro ⟨others, read, rfl⟩
            obtain ⟨each, rfl⟩ := ih.mp read
            exact ⟨⟨once, each⟩, rfl⟩
          · rintro ⟨⟨-, each⟩, rfl⟩
            exact ⟨_, ih.mpr ⟨each, rfl⟩, rfl⟩

theorem items_eq_map_idxOf {names : List String} (distinct : names.Nodup) {items : List Json}
    (short : items.length ≤ names.length) :
    items.map some ++ List.replicate (names.length - items.length) none =
      names.map fun name => items[names.idxOf name]? := by
  refine List.ext_getElem (by simp [short]) fun index inside _ => ?_
  have named : index < names.length := by simpa [short] using inside
  rw [List.getElem_map, distinct.idxOf_getElem]
  by_cases given : index < items.length
  · rw [List.getElem_append_left (by simpa using given), List.getElem_map,
      List.getElem?_eq_getElem given]
  · rw [List.getElem_append_right (by simpa using given), List.getElem_replicate,
      List.getElem?_eq_none (by omega)]

/-- The fields can be read exactly if the value is a record, and are what it holds for them. -/
theorem fields?_eq_some_iff {names : List String} (distinct : names.Nodup) {value : Json}
    {given : List (Option Json)} :
    fields? names value = some given ↔
      value.IsRecord names ∧ given = names.map fun name => value.fieldOf? names name := by
  match value with
  | .object members =>
      have texts : members.any (·.1.isNone) = true ↔ ¬ ∀ member ∈ members, member.1.isSome := by
        simp
      by_cases named : ∀ member ∈ members, member.1.isSome
      · rw [fields?, if_neg (by rw [texts]; exact not_not_intro named), membersNamed_eq_some_iff]
        exact ⟨fun ⟨once, same⟩ => ⟨⟨named, once⟩, same⟩, fun ⟨⟨_, once⟩, same⟩ => ⟨once, same⟩⟩
      · rw [fields?, if_pos (texts.mpr named)]
        constructor
        · nofun
        · rintro ⟨⟨texts, -⟩, -⟩
          exact (named texts).elim
  | .array items =>
      by_cases short : items.length ≤ names.length
      · rw [fields?, if_pos short, items_eq_map_idxOf distinct short]
        simp [IsRecord, fieldOf?, short, eq_comm]
      · rw [fields?, if_neg short]
        simp [IsRecord, short]
  | .null | .bool _ | .int _ | .real _ | .string _ => simp [fields?, IsRecord]

/-- A field with a default is refused only if it is given and cannot be read. -/
theorem orDefault_bind_eq_some_iff {default : α} {read : Json → Option α} {given : Option Json}
    {next : α → Option β} {result : β} :
    (orDefault default read given >>= next) = some result ↔
      (∀ item, given = some item → (read item).isSome) ∧
        next ((given.bind read).getD default) = some result := by
  cases given with
  | none => simp [orDefault]
  | some item => cases found : read item <;> simp [orDefault, found]

end GuiExplorer.Json
