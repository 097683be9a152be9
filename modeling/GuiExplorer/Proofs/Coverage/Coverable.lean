import GuiExplorer.Proofs.Coverage.Fraction
import GuiExplorer.Proofs.Json.Reading
import GuiExplorer.Proofs.Store.Saving
import GuiExplorer.Proofs.Text.Digits
import GuiExplorer.Proofs.Text.Words

/-!
# Which instrumented statements can be covered

Statement ids are found in the methods of an instrumentation file by the digits of any script, of
any number; a record is kept only if its id is a number of 64 bits in ASCII digits.  So of the
instrumented statements exactly those with such an id can be covered, and a run that executes all
of them has full coverage only if there are no others.
-/

namespace GuiExplorer

namespace Instrumentation

/-- The text has the id: the digits after the first mark that a digit follows, up to the first
character that is none. -/
inductive HasId : List Char → List Char → Prop
  | here {digits rest : List Char} (nonempty : digits ≠ [])
      (each : ∀ c ∈ digits, Text.isDecimalDigit c = true)
      (ends : ∀ c ∈ rest.head?, Text.isDecimalDigit c = false) :
      HasId (idMark ++ (digits ++ rest)) digits
  | there {c : Char} {text digits : List Char}
      (silent : ∀ first rest, c :: text = idMark ++ first :: rest →
        Text.isDecimalDigit first = false)
      (later : HasId text digits) : HasId (c :: text) digits

theorem HasId.digits {text digits : List Char} (has : HasId text digits) :
    digits ≠ [] ∧ ∀ c ∈ digits, Text.isDecimalDigit c = true := by
  induction has with
  | here nonempty each _ => exact ⟨nonempty, each⟩
  | there _ _ ih => exact ih

/-- A mark at the front that digits follow decides what is found. -/
theorem findId_marked {digits rest : List Char} (nonempty : digits ≠ [])
    (each : ∀ c ∈ digits, Text.isDecimalDigit c = true)
    (ends : ∀ c ∈ rest.head?, Text.isDecimalDigit c = false) :
    findId (idMark ++ (digits ++ rest)) = some digits := by
  have taken : (((idMark ++ (digits ++ rest)).drop idMark.length).takeWhile
      Text.isDecimalDigit) = digits := by
    rw [List.drop_left, (Text.span_append each ends).1]
  have marked : idMark.isPrefixOf (idMark ++ (digits ++ rest)) = true :=
    List.isPrefixOf_iff_prefix.mpr (List.prefix_append _ _)
  have shape : idMark ++ (digits ++ rest) = 'd' :: ("mid=".toList ++ (digits ++ rest)) := rfl
  rw [shape] at taken marked ⊢
  rw [findId, taken, marked, if_pos]
  simpa using nonempty

theorem findId_silent {c : Char} {text : List Char}
    (silent : ∀ first rest, c :: text = idMark ++ first :: rest →
      Text.isDecimalDigit first = false) :
    findId (c :: text) = findId text := by
  rw [findId, if_neg]
  rw [Bool.and_eq_true, not_and]
  intro marked
  obtain ⟨rest, same⟩ := List.isPrefixOf_iff_prefix.mp marked
  rw [← same, List.drop_left]
  cases rest with
  | nil => simp
  | cons first rest => simp [silent first rest same.symm]

theorem findId_eq_some_iff {text digits : List Char} :
    findId text = some digits ↔ HasId text digits := by
  constructor
  · intro found
    induction text with
    | nil => cases found
    | cons c text ih =>
        by_cases marked : ∃ first rest, c :: text = idMark ++ first :: rest ∧
            Text.isDecimalDigit first = true
        · obtain ⟨first, rest, shape, digit⟩ := marked
          obtain ⟨number, after, parts, each, ends⟩ :=
            Text.exists_span Text.isDecimalDigit (first :: rest)
          have nonempty : number ≠ [] := by
            rintro rfl
            rw [List.nil_append] at parts
            rw [← parts, List.head?_cons] at ends
            simp [ends first rfl] at digit
          rw [shape, parts] at found ⊢
          rw [findId_marked nonempty each ends] at found
          cases found
          exact .here nonempty each ends
        · have silent : ∀ first rest, c :: text = idMark ++ first :: rest →
              Text.isDecimalDigit first = false := by
            intro first rest shape
            rw [Bool.eq_false_iff]
            intro digit
            exact marked ⟨first, rest, shape, digit⟩
          rw [findId_silent silent] at found
          exact .there silent (ih found)
  · intro has
    induction has with
    | here nonempty each ends => exact findId_marked nonempty each ends
    | there silent _ ih => rw [findId_silent silent, ih]

theorem statementId?_eq_some_iff {method id : String} :
    statementId? method = some id ↔ HasId method.toList id.toList := by
  rw [← findId_eq_some_iff, statementId?, Option.map_eq_some_iff]
  constructor
  · rintro ⟨digits, found, rfl⟩
    rw [found, String.toList_ofList]
  · intro found
    exact ⟨id.toList, found, String.ofList_toList⟩

theorem statements_concat (methods : List String) (method : String) :
    (ofMethods (methods ++ [method])).statements =
      match statementId? method with
      | some id => insert (ofMethods methods).statements id method
      | none => (ofMethods methods).statements := by
  rw [ofMethods, List.foldl_append]
  rfl

theorem mem_ids_ofMethods {methods : List String} {id : String} :
    id ∈ (ofMethods methods).ids ↔ ∃ method ∈ methods, HasId method.toList id.toList := by
  rw [ids, List.mem_toFinset]
  induction methods using List.reverseRecOn with
  | nil => simp [ofMethods]
  | append_singleton methods method ih =>
      simp only [List.mem_append, List.mem_singleton, or_and_right, exists_or, exists_eq_left]
      rw [statements_concat, ← statementId?_eq_some_iff, ← ih]
      cases told : statementId? method with
      | none => simp
      | some other => rw [mem_keys_insert, Option.some.injEq, or_comm, eq_comm]

/-! ## Files -/

/-- The file is a record that lists the methods. -/
def IsListedIn (methods : List String) (stored : StoredFile) : Prop :=
  ∃ text value, stored.text = .ok text ∧ Json.ofText? text = some value ∧
    value.IsRecord fieldNames ∧
    value.fieldOf? fieldNames "allMethods" = some (.array (methods.map Json.str))

theorem load_listed {methods : List String} {stored : StoredFile}
    (listed : IsListedIn methods stored) : stored.load ofText? = .ok (ofMethods methods) := by
  obtain ⟨text, value, has, read, record, field⟩ := listed
  have given : value.fields? fieldNames = some [some (.array (methods.map Json.str))] :=
    (Json.fields?_eq_some_iff (by decide)).mpr ⟨record, by rw [← field]; rfl⟩
  have texts : Json.list? Json.text? (.array (methods.map Json.str)) = some methods :=
    Json.list?_text?_eq_some_iff.mpr rfl
  simp only [StoredFile.load, has, ofText?, read, Option.bind_some, given, Json.required, texts,
    Option.map_some]

theorem exists_listed_of_load {stored : StoredFile} {instrumentation : Instrumentation}
    (loaded : stored.load ofText? = .ok instrumentation) :
    ∃ methods, IsListedIn methods stored ∧ instrumentation = ofMethods methods := by
  unfold StoredFile.load at loaded
  split at loaded
  case h_1 => cases loaded
  case h_2 text has =>
    split at loaded
    case h_2 => cases loaded
    case h_1 result collected =>
      cases loaded
      unfold ofText? at collected
      split at collected
      case h_2 => cases collected
      case h_1 field found =>
        obtain ⟨value, read, given⟩ := Option.bind_eq_some_iff.mp found
        obtain ⟨record, fields⟩ := (Json.fields?_eq_some_iff (by decide)).mp given
        have named : field = value.fieldOf? fieldNames "allMethods" := (List.cons.inj fields).1
        obtain ⟨methods, texts, rfl⟩ := Option.map_eq_some_iff.mp collected
        cases field with
        | none => cases texts
        | some item =>
            have array : item = .array (methods.map Json.str) :=
              Json.list?_text?_eq_some_iff.mp texts
            exact ⟨methods, ⟨text, value, has, read, record, by rw [← named, array]⟩, rfl⟩

/-- A file that lists the methods. -/
def fileOf (methods : List String) : StoredFile :=
  .ofText (Json.record [("allMethods", .array (methods.map Json.str))]).pretty

theorem isListedIn_fileOf (methods : List String) : IsListedIn methods (fileOf methods) := by
  have texts : (Json.array (methods.map Json.str)).IsFaithful :=
    Json.ReadsBack.text.list.faithful methods
  refine ⟨_, _, StoredFile.text_ofText _, Json.ofText?_pretty (.record ?_), ?_, rfl⟩
  · simpa using texts
  · simp [Json.record, Json.IsRecord, fieldNames]

end Instrumentation

namespace StatementRecord

/-- A record of the statement with a time that can be read. -/
def Reports (entry : StatementRecord) (id : String) : Prop :=
  entry.id = id ∧ (Timestamp.ofText? entry.timestamp).isSome

instance (entry : StatementRecord) (id : String) : Decidable (entry.Reports id) :=
  inferInstanceAs (Decidable (_ ∧ _))

theorem tells_iff {entry : StatementRecord} {id : String} :
    entry.Tells id ↔ entry.Reports id ∧ CoverageMonitor.isStatementId id = true := by
  unfold Tells IsValid Reports
  constructor
  · rintro ⟨rfl, time, number⟩
    exact ⟨⟨rfl, time⟩, number⟩
  · rintro ⟨⟨rfl, time⟩, number⟩
    exact ⟨rfl, time, number⟩

end StatementRecord

namespace CoverageMonitor

/-- A number of 64 bits in ASCII digits. -/
def IsCoverable (id : String) : Prop :=
  (∀ c ∈ id.toList, c.isDigit = true) ∧ Text.ofDigits id.toList < UInt64.size

instance (id : String) : Decidable (IsCoverable id) :=
  decidable_of_iff (id.toList.all Char.isDigit = true ∧ Text.ofDigits id.toList < UInt64.size)
    (and_congr_left' List.all_eq_true)

/-- Of the ids that are found, those of coverable statements are taken from records. -/
theorem isStatementId_iff {id : String} (nonempty : id.toList ≠ [])
    (each : ∀ c ∈ id.toList, Text.isDecimalDigit c = true) :
    isStatementId id = true ↔ IsCoverable id := by
  rw [isStatementId, Option.isSome_iff_exists]
  constructor
  · rintro ⟨number, read⟩
    obtain ⟨⟨digits, written, -, ascii, rfl⟩, small⟩ := Text.readUnsigned_eq_some_iff.mp read
    rcases written with same | signed
    · rw [IsCoverable, same]
      exact ⟨ascii, small⟩
    · have plus : Text.isDecimalDigit '+' = true := each '+' (by simp [signed])
      exact absurd plus (by decide)
  · rintro ⟨ascii, small⟩
    have writes : Text.WritesNumber id.toList (Text.ofDigits id.toList) :=
      ⟨id.toList, .inl rfl, nonempty, ascii, rfl⟩
    exact ⟨_, Text.readUnsigned_eq_some_iff.mpr ⟨writes, small⟩⟩

theorem isStatementId_iff_of_mem {methods : List String} {id : String}
    (member : id ∈ (Instrumentation.ofMethods methods).ids) :
    isStatementId id = true ↔ IsCoverable id := by
  obtain ⟨method, -, has⟩ := Instrumentation.mem_ids_ofMethods.mp member
  obtain ⟨nonempty, each⟩ := has.digits
  exact isStatementId_iff nonempty each

section

variable {records : List StatementRecord} {monitor : CoverageMonitor} {id : String}

theorem Keeps.isSome_firstTime?_iff (keeps : Keeps records monitor) :
    (monitor.firstTime? id).isSome = true ↔ ∃ entry ∈ records, entry.Tells id := by
  rw [← StatementRecord.exists_firstSeen_iff, Option.isSome_iff_exists]
  exact exists_congr fun time => keeps.firstTime?_eq_some_iff

/-- Whatever was recorded before, after one more record of a statement it is stored exactly if its
id is one that is taken. -/
theorem Keeps.isSome_firstTime?_update_iff (keeps : Keeps records monitor)
    {entry : StatementRecord} (reports : entry.Reports id) :
    ((monitor.update [entry]).firstTime? id).isSome = true ↔ isStatementId id = true := by
  rw [(keeps.update [entry]).isSome_firstTime?_iff]
  simp only [StatementRecord.tells_iff]
  constructor
  · rintro ⟨-, -, -, number⟩
    exact number
  · intro number
    exact ⟨entry, by simp, reports, number⟩

/-- Of the instrumented statements, if all were recorded, the coverable ones were executed. -/
theorem inter_executedIds {methods : List String}
    (complete : ∀ id ∈ (Instrumentation.ofMethods methods).ids,
      ∃ entry ∈ records, entry.Reports id) :
    (Instrumentation.ofMethods methods).ids ∩ executedIds records =
      (Instrumentation.ofMethods methods).ids.filter IsCoverable := by
  ext id
  rw [Finset.mem_inter, Finset.mem_filter, mem_executedIds_iff]
  refine and_congr_right fun member => ?_
  simp only [StatementRecord.tells_iff]
  constructor
  · rintro ⟨-, -, -, number⟩
    exact (isStatementId_iff_of_mem member).mp number
  · intro coverable
    obtain ⟨entry, inside, reports⟩ := complete id member
    exact ⟨entry, inside, reports, (isStatementId_iff_of_mem member).mpr coverable⟩

end

theorem coverage_ofMethods_updateAll (methods : List String)
    (batches : List (List StatementRecord)) :
    ((ofInstrumentation (.ofMethods methods)).updateAll batches).coverage =
      ⟨(executedIds batches.flatten).card, (Instrumentation.ofMethods methods).ids.card⟩ := by
  rw [coverage, (keeps_updateAll _ batches).executedCount_eq, instrumentation_updateAll,
    ← Instrumentation.size_eq_card (Instrumentation.nodup_ofMethods methods)]
  rfl

/-- Whatever instrumentation file was loaded, its ids are those that its methods have, each made of
decimal digits of any script.  After any batches of records, one more with such an id and a time
that can be read is stored under that id exactly if it is a number of 64 bits in ASCII digits.
When every loaded statement was executed, exactly those with such ids are covered, and the coverage
counts them and the strays.  Without strays it is full only if every loaded statement has such
an id. -/
theorem loaded_statements_coverable_iff {stored : StoredFile} {instrumentation : Instrumentation}
    (loaded : stored.load Instrumentation.ofText? = .ok instrumentation)
    (batches : List (List StatementRecord)) :
    let ids := instrumentation.ids
    let monitor := (ofInstrumentation instrumentation).updateAll batches
    let executed := executedIds batches.flatten
    let coverable := ids.filter IsCoverable
    let strays := executed \ ids
    (∃ methods, Instrumentation.IsListedIn methods stored ∧
      ∀ id, id ∈ ids ↔ ∃ method ∈ methods, Instrumentation.HasId method.toList id.toList) ∧
    (∀ id ∈ ids, id ≠ "" ∧ ∀ c ∈ id.toList, Text.isDecimalDigit c = true) ∧
    (∀ id ∈ ids, ∀ entry : StatementRecord, entry.Reports id →
      (((monitor.update [entry]).firstTime? id).isSome ↔ IsCoverable id)) ∧
    ((∀ id ∈ ids, ∃ entry ∈ batches.flatten, entry.Reports id) →
      ids ∩ executed = coverable ∧
      monitor.coverage.exact = (coverable.card + strays.card : ℚ) / ids.card ∧
      (strays = ∅ →
        (monitor.coverage.exact = 1 ↔ ids.Nonempty ∧ ∀ id ∈ ids, IsCoverable id))) := by
  intro ids monitor executed coverable strays
  obtain ⟨methods, listed, rfl⟩ := Instrumentation.exists_listed_of_load loaded
  refine ⟨⟨methods, listed, fun id => Instrumentation.mem_ids_ofMethods⟩, ?_, ?_, ?_⟩
  · intro id member
    obtain ⟨method, -, has⟩ := Instrumentation.mem_ids_ofMethods.mp member
    obtain ⟨nonempty, each⟩ := has.digits
    exact ⟨fun empty => nonempty (by rw [empty]; rfl), each⟩
  · intro id member entry reports
    rw [(keeps_updateAll _ batches).isSome_firstTime?_update_iff reports,
      isStatementId_iff_of_mem member]
  · intro complete
    have covered : ids ∩ executed = coverable := inter_executedIds complete
    have share : monitor.coverage = ⟨executed.card, ids.card⟩ :=
      coverage_ofMethods_updateAll methods batches
    have parts : executed.card = coverable.card + strays.card := by
      rw [← Finset.card_inter_add_card_sdiff executed ids, Finset.inter_comm, covered]
    refine ⟨covered, ?_, ?_⟩
    · rw [share, Share.exact_eq_div, parts, Nat.cast_add]
    · intro clean
      have counted : executed.card = coverable.card := by
        rw [parts, clean, Finset.card_empty, Nat.add_zero]
      rw [Share.exact_eq_one_iff, share, Share.isFull, counted, Bool.and_eq_true,
        decide_eq_true_eq, decide_eq_true_eq, Finset.card_ne_zero, Finset.card_filter_eq_iff]

/-- The one statement has two leading zeros and is covered; a second id of the same method does not
count, nor does a method without any. -/
theorem loaded_statements_coverable_of_one :
    let methods := ["void open() dmid=007 dmid=8", "no id here"]
    let instrumentation := Instrumentation.ofMethods methods
    let batches : List (List StatementRecord) := [[⟨"2024-01-01 10:00:00.100", "007"⟩]]
    let again : StatementRecord := ⟨"2024-01-01 10:00:00.200", "007"⟩
    let monitor := (ofInstrumentation instrumentation).updateAll batches
    (Instrumentation.fileOf methods).load Instrumentation.ofText? = .ok instrumentation ∧
      "007" ∈ instrumentation.ids ∧ again.Reports "007" ∧
      ((monitor.update [again]).firstTime? "007").isSome ∧
      (∀ id ∈ instrumentation.ids, ∃ entry ∈ batches.flatten, entry.Reports id) ∧
      executedIds batches.flatten \ instrumentation.ids = ∅ ∧ monitor.coverage.exact = 1 := by
  intro methods instrumentation batches again monitor
  have loaded := Instrumentation.load_listed (Instrumentation.isListedIn_fileOf methods)
  obtain ⟨-, -, stored, share⟩ := loaded_statements_coverable_iff loaded batches
  have member : "007" ∈ instrumentation.ids := by decide +kernel
  have reports : again.Reports "007" := by decide +kernel
  have complete : ∀ id ∈ instrumentation.ids, ∃ entry ∈ batches.flatten, entry.Reports id := by
    decide +kernel
  have clean : executedIds batches.flatten \ instrumentation.ids = ∅ := by decide +kernel
  obtain ⟨-, -, full⟩ := share complete
  have coverable : ∀ id ∈ instrumentation.ids, IsCoverable id := by decide +kernel
  exact ⟨loaded, member, reports, (stored "007" member again reports).mpr (by decide +kernel),
    complete, clean, (full clean).mpr ⟨⟨"007", member⟩, coverable⟩⟩

/-- Three statements were loaded and executed, but the id of one is not in ASCII digits and that of
another has more than 64 bits: these are not stored, and the coverage is a third. -/
theorem loaded_statements_not_stored :
    let methods :=
      ["void open() dmid=1", "void shut() dmid=٣", "void wait() dmid=18446744073709551616"]
    let instrumentation := Instrumentation.ofMethods methods
    let batches : List (List StatementRecord) :=
      [[⟨"2024-01-01 10:00:00.100", "1"⟩, ⟨"2024-01-01 10:00:00.200", "٣"⟩,
        ⟨"2024-01-01 10:00:00.300", "18446744073709551616"⟩]]
    let monitor := (ofInstrumentation instrumentation).updateAll batches
    (Instrumentation.fileOf methods).load Instrumentation.ofText? = .ok instrumentation ∧
      instrumentation.ids = {"1", "٣", "18446744073709551616"} ∧
      (∀ id ∈ instrumentation.ids, ∃ entry ∈ batches.flatten, entry.Reports id) ∧
      monitor.firstTime? "٣" = none ∧ monitor.firstTime? "18446744073709551616" = none ∧
      monitor.coverage.exact = 1 / 3 ∧ monitor.coverage.exact ≠ 1 := by
  intro methods instrumentation batches monitor
  have loaded := Instrumentation.load_listed (Instrumentation.isListedIn_fileOf methods)
  have third : monitor.coverage.exact = 1 / 3 := by
    have counted : monitor.coverage = ⟨1, 3⟩ := by decide +kernel
    rw [counted, Share.exact_eq_div]
    norm_num
  refine ⟨loaded, by decide +kernel, by decide +kernel, by decide +kernel, by decide +kernel, third,
    ?_⟩
  rw [third]
  norm_num

end CoverageMonitor

end GuiExplorer
