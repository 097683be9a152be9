import GuiExplorer.Proofs.Json.Reading
import GuiExplorer.Proofs.Store.Saving
import GuiExplorer.Proofs.Text.Digits
import GuiExplorer.Settings.Overrides
import Mathlib.Data.List.Pairwise

/-!
# Layers of settings

Each setting has the value of its environment variable, if there is one that can be read;
otherwise the value in the settings file, if the file can be read as a whole and the value
is one that counts; and otherwise its default.  What is common to all settings is said of a
table of the fields: how they are named in the file and the environment, what kind of value
they have, and whether an empty or zero value counts.
-/

namespace GuiExplorer

/-- The environment in which a variable is not set. -/
def Environment.without (env : Environment) (name : String) : Environment :=
  fun other => if other = name then none else env other

namespace Settings

open Json (ReadsBack)

/-- What is done with the values of a field depends on their kind only. -/
inductive Kind where
  | text
  | word16
  | word32
  | word64

namespace Kind

abbrev Value : Kind → Type
  | text => String
  | word16 => UInt16
  | word32 => UInt32
  | word64 => UInt64

def ofJson? : (kind : Kind) → Json → Option kind.Value
  | text => Json.text?
  | word16 => Json.uint16?
  | word32 => Json.uint32?
  | word64 => Json.uint64?

/-- Read the value of a variable: a text as it is, a number after trimming blanks. -/
def ofVariable? : (kind : Kind) → String → Option kind.Value
  | text, value => some value
  | word16, value => (Text.readUnsigned UInt16.size (Text.trim value.toList)).map UInt16.ofNat
  | word32, value => (Text.readUnsigned UInt32.size (Text.trim value.toList)).map UInt32.ofNat
  | word64, value => (Text.readUnsigned UInt64.size (Text.trim value.toList)).map UInt64.ofNat

/-- The text of a variable stands for the value: a number is written between blanks. -/
def Writes : (kind : Kind) → String → kind.Value → Prop
  | text, written, value => written = value
  | word16, written, value => Text.WritesNumber (Text.trim written.toList) value.toNat
  | word32, written, value => Text.WritesNumber (Text.trim written.toList) value.toNat
  | word64, written, value => Text.WritesNumber (Text.trim written.toList) value.toNat

/-- An empty text or zero. -/
def IsVoid : (kind : Kind) → kind.Value → Prop
  | text, value => value = ""
  | word16, value => value = 0
  | word32, value => value = 0
  | word64, value => value = 0

theorem ofVariable?_eq_some_iff (kind : Kind) {written : String} {value : kind.Value} :
    kind.ofVariable? written = some value ↔ kind.Writes written value := by
  cases kind with
  | text => exact Option.some_inj
  | word16 =>
      exact Text.map_readUnsigned_eq_some_iff UInt16.toNat_lt_size (fun _ => UInt16.ofNat_toNat)
        (fun _ => UInt16.toNat_ofNat_of_lt)
  | word32 =>
      exact Text.map_readUnsigned_eq_some_iff UInt32.toNat_lt_size (fun _ => UInt32.ofNat_toNat)
        (fun _ => UInt32.toNat_ofNat_of_lt)
  | word64 =>
      exact Text.map_readUnsigned_eq_some_iff UInt64.toNat_lt_size (fun _ => UInt64.ofNat_toNat)
        (fun _ => UInt64.toNat_ofNat_of_lt)

end Kind

/-- A field of the settings. -/
structure Field where
  /-- Its name in the file. -/
  name : String
  /-- The environment variable that overrides it. -/
  override : Option String
  kind : Kind
  /-- Whether a void value in the file does not count. -/
  isRefilled : Bool
  value : Settings → kind.Value

def fields : List Field :=
  [⟨"device_serial", some "DEVICE_SERIAL", .text, false, deviceSerial⟩,
   ⟨"app_package", some "APP_PACKAGE", .text, false, appPackage⟩,
   ⟨"adb_path", some "ADB_PATH", .text, true, adbPath⟩,
   ⟨"daemon_port", some "DAEMON_PORT", .word16, true, daemonPort⟩,
   ⟨"daemon_runner", none, .text, true, daemonRunner⟩,
   ⟨"socket_timeout_ms", some "SOCKET_TIMEOUT_MS", .word64, true, socketTimeoutMs⟩,
   ⟨"server_start_timeout_ms", some "SERVER_START_TIMEOUT_MS", .word64, true,
    serverStartTimeoutMs⟩,
   ⟨"server_start_query_delay_ms", some "SERVER_START_QUERY_DELAY_MS", .word64, true,
    serverStartQueryDelayMs⟩,
   ⟨"close_timeout_ms", none, .word64, false, closeTimeoutMs⟩,
   ⟨"action_limit", some "ACTION_LIMIT", .word64, false, actionLimit⟩,
   ⟨"time_limit_secs", some "TIME_LIMIT_SECS", .word64, false, timeLimitSecs⟩,
   ⟨"widget_exhaustion_threshold", some "WIDGET_EXHAUSTION_THRESHOLD", .word32, false,
    exhaustionThreshold⟩,
   ⟨"playback_trace", some "PLAYBACK_TRACE", .text, false, playbackTrace⟩,
   ⟨"coverage_dir", some "COVERAGE_DIR", .text, false, coverageDir⟩,
   ⟨"coverage_log_tag", some "COVERAGE_LOG_TAG", .text, true, coverageLogTag⟩,
   ⟨"output_dir", some "OUTPUT_DIR", .text, false, outputDir⟩]

namespace Field

def override? (field : Field) (env : Environment) : Option field.kind.Value :=
  (field.override.bind env).bind field.kind.ofVariable?

def given? (field : Field) (value : Json) : Option Json :=
  value.fieldOf? fieldNames field.name

end Field

theorem eq_of_values {settings other : Settings}
    (same : ∀ field ∈ fields, field.value settings = field.value other) : settings = other := by
  simp only [fields, List.forall_mem_cons] at same
  cases settings
  cases other
  simp_all

theorem exists_of_values (values : (field : Field) → field.kind.Value) :
    ∃ settings, ∀ field ∈ fields, field.value settings = values field := by
  simp only [fields, List.forall_mem_cons]
  exact ⟨⟨_, _, _, _, _, _, _, _, _, _, _, _, _, _, _, _⟩, rfl, rfl, rfl, rfl, rfl, rfl, rfl, rfl,
    rfl, rfl, rfl, rfl, rfl, rfl, rfl, rfl, nofun⟩

/-- No variable overrides two fields. -/
theorem eq_of_override {field other : Field} (member : field ∈ fields)
    (otherMember : other ∈ fields) {name : String} (named : field.override = some name)
    (otherNamed : other.override = some name) : field = other := by
  have distinct : fields.Pairwise fun field other =>
      field.override = none ∨ field.override ≠ other.override := by decide
  have apart : fields.Pairwise fun field other =>
      ¬ (field.override = some name ∧ other.override = some name) := by
    refine distinct.imp ?_
    rintro _ _ (absent | unlike) ⟨named, otherNamed⟩
    · rw [absent] at named
      cases named
    · exact unlike (named.trans otherNamed.symm)
  have : Std.Symm fun field other : Field =>
      ¬ (field.override = some name ∧ other.override = some name) :=
    ⟨fun _ _ separate both => separate both.symm⟩
  by_contra different
  exact apart.forall member otherMember different ⟨named, otherNamed⟩

theorem value_overridden (settings : Settings) (env : Environment) :
    ∀ field ∈ fields, field.value (settings.overridden env) =
      (field.override? env).getD (field.value settings) := by
  have text (name : String) : (env name).bind (Kind.ofVariable? .text) = env name :=
    Option.bind_fun_some (env name)
  have word16 (name : String) : (env name).bind (Kind.ofVariable? .word16) = env.uint16? name := by
    rw [Environment.uint16?, Environment.number?, Option.map_bind]
    rfl
  have word32 (name : String) : (env name).bind (Kind.ofVariable? .word32) = env.uint32? name := by
    rw [Environment.uint32?, Environment.number?, Option.map_bind]
    rfl
  have word64 (name : String) : (env name).bind (Kind.ofVariable? .word64) = env.uint64? name := by
    rw [Environment.uint64?, Environment.number?, Option.map_bind]
    rfl
  simp only [fields, List.forall_mem_cons, Field.override?, Option.bind_some, Option.bind_none,
    text, word16, word32, word64, Option.getD_none]
  exact ⟨rfl, rfl, rfl, rfl, rfl, rfl, rfl, rfl, rfl, rfl, rfl, rfl, rfl, rfl, rfl, rfl, nofun⟩

/-- Back-filling replaces the void values that do not count, and no others. -/
theorem value_backfilled (settings : Settings) :
    ∀ field ∈ fields,
      (field.isRefilled = true ∧ field.kind.IsVoid (field.value settings) →
        field.value settings.backfilled = field.value initial) ∧
      (¬ (field.isRefilled = true ∧ field.kind.IsVoid (field.value settings)) →
        field.value settings.backfilled = field.value settings) := by
  simp +contextual [fields, backfilled, nonEmpty, nonZero, Kind.IsVoid]

theorem backfilled_initial : initial.backfilled = initial := by
  refine eq_of_values fun field member => ?_
  obtain ⟨refilled, kept⟩ := value_backfilled initial field member
  by_cases filled : field.isRefilled = true ∧ field.kind.IsVoid (field.value initial)
  · exact refilled filled
  · exact kept filled

theorem backfilled_backfilled (settings : Settings) :
    settings.backfilled.backfilled = settings.backfilled := by
  refine eq_of_values fun field member => ?_
  obtain ⟨refilled, kept⟩ := value_backfilled settings field member
  obtain ⟨refilledAgain, keptAgain⟩ := value_backfilled settings.backfilled field member
  by_cases again : field.isRefilled = true ∧ field.kind.IsVoid (field.value settings.backfilled)
  · by_cases first : field.isRefilled = true ∧ field.kind.IsVoid (field.value settings)
    · rw [refilledAgain again, refilled first]
    · exact (first ((kept first) ▸ again)).elim
  · exact keptAgain again

theorem overridden_overridden (settings : Settings) (env : Environment) :
    (settings.overridden env).overridden env = settings.overridden env := by
  refine eq_of_values fun field member => ?_
  rw [value_overridden _ env field member, value_overridden settings env field member]
  cases field.override? env <;> rfl

/-! ## Files -/

/-- The value of a settings file: a record in which every field that is given can be read. -/
structure IsSettings (value : Json) : Prop where
  isRecord : value.IsRecord fieldNames
  readable : ∀ field ∈ fields, ∀ item, field.given? value = some item →
    (field.kind.ofJson? item).isSome

/-- Settings are read from what is given for each field: all of it must be readable, and a field
for which nothing is given has its default. -/
theorem ofJson?_of_given {value : Json} {settings : Settings} {given : String → Option Json}
    (found : value.fields? fieldNames = some (fieldNames.map given)) :
    ofJson? value = some settings ↔ ∀ field ∈ fields,
      (∀ item, given field.name = some item → (field.kind.ofJson? item).isSome) ∧
        field.value settings =
          ((given field.name).bind field.kind.ofJson?).getD (field.value initial) := by
  cases settings
  simp only [fieldNames, List.map_cons, List.map_nil] at found
  rw [ofJson?, fieldNames, found]
  dsimp only
  -- One field after the other; simp would begin with the innermost.
  repeat rw [Json.orDefault_bind_eq_some_iff]
  simp only [Option.some.injEq, mk.injEq, fields, List.forall_mem_cons, List.not_mem_nil,
    Kind.ofJson?]
  -- Both sides ask the same of the fields, one of them first that all can be read.
  grind

theorem ofJson?_eq_some_iff {value : Json} {settings : Settings} :
    ofJson? value = some settings ↔
      IsSettings value ∧ ∀ field ∈ fields, field.value settings =
        ((field.given? value).bind field.kind.ofJson?).getD (field.value initial) := by
  by_cases isRecord : value.IsRecord fieldNames
  · have found := (Json.fields?_eq_some_iff (by decide)).mpr ⟨isRecord, rfl⟩
    rw [ofJson?_of_given found]
    constructor
    · intro each
      exact ⟨⟨isRecord, fun field member => (each field member).1⟩,
        fun field member => (each field member).2⟩
    · rintro ⟨⟨-, readable⟩, same⟩ field member
      exact ⟨readable field member, same field member⟩
  · have refused : value.fields? fieldNames = none := by
      rw [Option.eq_none_iff_forall_ne_some]
      intro given found
      exact isRecord ((Json.fields?_eq_some_iff (by decide)).mp found).1
    rw [ofJson?, refused]
    constructor
    · nofun
    · rintro ⟨⟨record, -⟩, -⟩
      exact (isRecord record).elim

theorem readsBack : ReadsBack toJson ofJson? where
  faithful settings := .record (by
    simp [ReadsBack.text.faithful, ReadsBack.uint16.faithful settings.daemonPort,
      ReadsBack.uint32.faithful settings.exhaustionThreshold, ReadsBack.uint64.faithful])
  read_write settings := by
    have found : settings.toJson.fields? fieldNames = _ := Json.fields?_record rfl (by decide)
    simp only [ofJson?, found, List.map_cons, List.map_nil, ReadsBack.text.orDefault_write,
      ReadsBack.uint16.orDefault_write, ReadsBack.uint32.orDefault_write,
      ReadsBack.uint64.orDefault_write]
    rfl

theorem load_save (settings : Settings) : load (.ofText settings.save) = settings.backfilled := by
  have loaded : (StoredFile.ofText settings.save).load ofText? = .ok settings :=
    StoredFile.load_ofText (readsBack.ofText?_pretty settings)
  rw [load, loaded]

/-! ## Layers -/

/-- The file has a text, which is that of settings as a whole. -/
def IsFileOf (stored : StoredFile) (value : Json) : Prop :=
  ∃ text, stored.text = .ok text ∧ Json.ofText? text = some value ∧ IsSettings value

theorem IsFileOf.unique {stored : StoredFile} {value other : Json}
    (file : IsFileOf stored value) (again : IsFileOf stored other) : value = other := by
  obtain ⟨text, has, read, -⟩ := file
  obtain ⟨_, hasAlso, readAlso, -⟩ := again
  cases has.symm.trans hasAlso
  exact Option.some.inj (read.symm.trans readAlso)

theorem load_of_isFileOf {stored : StoredFile} {value : Json} (file : IsFileOf stored value) :
    ∃ settings, load stored = settings.backfilled ∧ ∀ field ∈ fields, field.value settings =
      ((field.given? value).bind field.kind.ofJson?).getD (field.value initial) := by
  obtain ⟨text, has, read, isSettings⟩ := file
  obtain ⟨settings, same⟩ := exists_of_values fun field =>
    ((field.given? value).bind field.kind.ofJson?).getD (field.value initial)
  have decoded : ofText? text = some settings := by
    rw [ofText?, read, Option.bind_some, ofJson?_eq_some_iff.mpr ⟨isSettings, same⟩]
  refine ⟨settings, ?_, same⟩
  simp only [load, StoredFile.load, has, decoded]

theorem load_of_no_file {stored : StoredFile} (none : ∀ value, ¬ IsFileOf stored value) :
    load stored = initial := by
  cases loaded : stored.load ofText? with
  | error _ => rw [load, loaded, backfilled_initial]
  | ok settings =>
      rw [StoredFile.load] at loaded
      split at loaded
      case h_1 => cases loaded
      case h_2 text has =>
        split at loaded
        case h_2 => cases loaded
        case h_1 read =>
          obtain ⟨value, readJson, decoded⟩ := Option.bind_eq_some_iff.mp read
          exact (none value ⟨text, has, readJson, (ofJson?_eq_some_iff.mp decoded).1⟩).elim

namespace Field

/-- The variable of the field is set, and its text stands for the value. -/
def IsOverridden (field : Field) (env : Environment) (value : field.kind.Value) : Prop :=
  ∃ name text, field.override = some name ∧ env name = some text ∧ field.kind.Writes text value

/-- The file has the value for the field. -/
def IsStored (field : Field) (stored : StoredFile) (value : field.kind.Value) : Prop :=
  ∃ file item, IsFileOf stored file ∧ field.given? file = some item ∧
    field.kind.ofJson? item = some value

/-- A value in the file is not replaced by the default. -/
def Counts (field : Field) (value : field.kind.Value) : Prop :=
  ¬ (field.isRefilled = true ∧ field.kind.IsVoid value)

/-- The field has the value by a settings file and an environment. -/
inductive Resolves (stored : StoredFile) (env : Environment) (field : Field)
    (value : field.kind.Value) : Prop
  | overridden (override : field.IsOverridden env value)
  | stored (none : ∀ other, ¬ field.IsOverridden env other)
      (found : field.IsStored stored value) (counts : field.Counts value)
  | fallback (none : ∀ other, ¬ field.IsOverridden env other)
      (ignored : ∀ other, field.IsStored stored other → ¬ field.Counts other)
      (default : value = field.value initial)

variable {field : Field} {stored : StoredFile} {env : Environment} {value other : field.kind.Value}

theorem override?_eq_some_iff :
    field.override? env = some value ↔ field.IsOverridden env value := by
  simp only [override?, IsOverridden, Option.bind_eq_some_iff, Kind.ofVariable?_eq_some_iff]
  constructor
  · rintro ⟨text, ⟨name, named, set⟩, writes⟩
    exact ⟨name, text, named, set, writes⟩
  · rintro ⟨name, text, named, set, writes⟩
    exact ⟨text, ⟨name, named, set⟩, writes⟩

theorem override?_eq_none_iff :
    field.override? env = none ↔ ∀ value, ¬ field.IsOverridden env value := by
  simp only [Option.eq_none_iff_forall_ne_some, ne_eq, override?_eq_some_iff]

theorem isStored_iff {file : Json} (isFile : IsFileOf stored file) :
    field.IsStored stored value ↔ (field.given? file).bind field.kind.ofJson? = some value := by
  rw [Option.bind_eq_some_iff]
  constructor
  · rintro ⟨other, item, isFileAlso, given, read⟩
    cases isFile.unique isFileAlso
    exact ⟨item, given, read⟩
  · rintro ⟨item, given, read⟩
    exact ⟨file, item, isFile, given, read⟩

theorem IsStored.unique (found : field.IsStored stored value)
    (again : field.IsStored stored other) : value = other := by
  have ⟨file, _, isFile, _, _⟩ := found
  rw [isStored_iff isFile] at found again
  exact Option.some.inj (found.symm.trans again)

theorem IsOverridden.unique (override : field.IsOverridden env value)
    (again : field.IsOverridden env other) : value = other :=
  Option.some.inj ((override?_eq_some_iff.mpr override).symm.trans
    (override?_eq_some_iff.mpr again))

/-- A file and an environment leave one value for each field. -/
theorem Resolves.unique (resolves : field.Resolves stored env value)
    (again : field.Resolves stored env other) : value = other := by
  cases resolves with
  | overridden override =>
      cases again with
      | overridden overrideAlso => exact override.unique overrideAlso
      | stored none _ _ => exact (none _ override).elim
      | fallback none _ _ => exact (none _ override).elim
  | stored none found counts =>
      cases again with
      | overridden override => exact (none _ override).elim
      | stored _ foundAlso _ => exact found.unique foundAlso
      | fallback _ ignored _ => exact (ignored _ found counts).elim
  | fallback none ignored default =>
      cases again with
      | overridden override => exact (none _ override).elim
      | stored _ found counts => exact (ignored _ found counts).elim
      | fallback _ _ defaultAlso => exact default.trans defaultAlso.symm

end Field

/-- What is loaded for a field is its value in the file, if that counts. -/
theorem value_load (stored : StoredFile) :
    ∀ field ∈ fields,
      (∀ value, field.IsStored stored value → field.Counts value →
        field.value (load stored) = value) ∧
      ((∀ value, field.IsStored stored value → ¬ field.Counts value) →
        field.value (load stored) = field.value initial) := by
  intro field member
  by_cases readable : ∃ file, IsFileOf stored file
  · obtain ⟨file, isFile⟩ := readable
    obtain ⟨settings, loaded, values⟩ := load_of_isFileOf isFile
    obtain ⟨refilled, kept⟩ := value_backfilled settings field member
    rw [loaded]
    constructor
    · intro value found counts
      have had : field.value settings = value := by
        rw [values field member, (Field.isStored_iff isFile).mp found, Option.getD_some]
      rw [kept (had ▸ counts), had]
    · intro ignored
      cases had : (field.given? file).bind field.kind.ofJson? with
      | none =>
          have default : field.value settings = field.value initial := by
            rw [values field member, had, Option.getD_none]
          by_cases filled : field.isRefilled = true ∧ field.kind.IsVoid (field.value settings)
          · exact refilled filled
          · rw [kept filled, default]
      | some value =>
          have same : field.value settings = value := by
            rw [values field member, had, Option.getD_some]
          refine refilled ?_
          rw [same]
          exact not_not.mp (ignored value ((Field.isStored_iff isFile).mpr had))
  · have unreadable : ∀ file, ¬ IsFileOf stored file := not_exists.mp readable
    rw [load_of_no_file unreadable]
    constructor
    · rintro value ⟨file, -, isFile, -, -⟩ -
      exact (unreadable file isFile).elim
    · intro _
      rfl

theorem resolves (stored : StoredFile) (env : Environment) :
    ∀ field ∈ fields, field.Resolves stored env (field.value ((load stored).overridden env)) := by
  intro field member
  obtain ⟨counted, ignored⟩ := value_load stored field member
  rw [value_overridden _ env field member]
  cases override : field.override? env with
  | some value => exact .overridden (Field.override?_eq_some_iff.mp override)
  | none =>
      have none := Field.override?_eq_none_iff.mp override
      rw [Option.getD_none]
      by_cases found : ∃ value, field.IsStored stored value ∧ field.Counts value
      · obtain ⟨value, found, counts⟩ := found
        rw [counted value found counts]
        exact .stored none found counts
      · have without : ∀ value, field.IsStored stored value → ¬ field.Counts value :=
          fun value has counts => found ⟨value, has, counts⟩
        exact .fallback none without (ignored without)

theorem load_of_unreadable {stored : StoredFile} {text : String} {value : Json}
    (has : stored.text = .ok text) (read : Json.ofText? text = some value)
    {field : Field} (member : field ∈ fields) {item : Json}
    (given : field.given? value = some item) (unreadable : field.kind.ofJson? item = none) :
    load stored = initial := by
  refine load_of_no_file ?_
  rintro other ⟨_, hasAlso, readAlso, isSettings⟩
  cases has.symm.trans hasAlso
  cases read.symm.trans readAlso
  have readable := isSettings.readable field member item given
  rw [unreadable] at readable
  cases readable

/-- A variable that cannot be read counts as one that is not set. -/
theorem overridden_without (settings : Settings) {env : Environment} {field : Field}
    (member : field ∈ fields) {name text : String} (named : field.override = some name)
    (set : env name = some text) (unreadable : ∀ value, ¬ field.kind.Writes text value) :
    settings.overridden env = settings.overridden (env.without name) := by
  refine eq_of_values fun other otherMember => ?_
  rw [value_overridden settings env other otherMember,
    value_overridden settings (env.without name) other otherMember]
  suffices same : other.override? env = other.override? (env.without name) by rw [same]
  by_cases otherNamed : other.override = some name
  · obtain rfl := eq_of_override member otherMember named otherNamed
    have silent : field.kind.ofVariable? text = none :=
      Option.eq_none_iff_forall_ne_some.mpr fun value read =>
        unreadable value ((Kind.ofVariable?_eq_some_iff _).mp read)
    simp only [Field.override?, named, Option.bind_some, set, silent, Environment.without,
      if_true, Option.bind_none]
  · cases overriding : other.override with
    | none => simp only [Field.override?, overriding, Option.bind_none]
    | some otherName =>
        have different : otherName ≠ name := by
          rintro rfl
          exact otherNamed overriding
        simp only [Field.override?, overriding, Option.bind_some, Environment.without,
          if_neg different]

/-- Whatever the file and the environment hold, every field has the value of its variable, else
that of the file, else its default.  What cannot be read in the file discards the file; what
cannot be read in a variable discards the variable. -/
theorem resolved_by_layers (stored : StoredFile) (env : Environment) (settings : Settings) :
    (∀ field ∈ fields, ∀ value,
      field.value ((load stored).overridden env) = value ↔ field.Resolves stored env value) ∧
    (settings.overridden env).daemonRunner = settings.daemonRunner ∧
    (settings.overridden env).closeTimeoutMs = settings.closeTimeoutMs ∧
    (∀ text value, stored.text = .ok text → Json.ofText? text = some value →
      ∀ field ∈ fields, ∀ item, field.given? value = some item →
        field.kind.ofJson? item = none → load stored = initial) ∧
    (∀ field ∈ fields, ∀ name text, field.override = some name → env name = some text →
      (∀ value, ¬ field.kind.Writes text value) →
        field.value (settings.overridden env) = field.value settings ∧
        settings.overridden env = settings.overridden (env.without name)) ∧
    (settings.overridden env).overridden env = settings.overridden env ∧
    load (.ofText settings.save) = settings.backfilled ∧
    settings.backfilled.backfilled = settings.backfilled := by
  refine ⟨fun field member value => ?_, rfl, rfl,
    fun text value has read field member item => load_of_unreadable has read member,
    fun field member name text named set unreadable => ⟨?_, ?_⟩,
    overridden_overridden settings env, load_save settings, backfilled_backfilled settings⟩
  · constructor
    · rintro rfl
      exact resolves stored env field member
    · exact (resolves stored env field member).unique
  · have none : field.override? env = none := by
      rw [Field.override?_eq_none_iff]
      rintro value ⟨_, _, namedAlso, setAlso, writes⟩
      cases named.symm.trans namedAlso
      cases set.symm.trans setAlso
      exact unreadable value writes
    rw [value_overridden settings env field member, none, Option.getD_none]
  · exact overridden_without settings member named set unreadable

/-- A file and a variable with limits that are no numbers, and a variable with a number. -/
theorem resolved_by_layers_of_wrong_limits :
    let file := Json.record [("adb_path", .str "/opt/adb"), ("time_limit_secs", .str "soon")]
    let stored := StoredFile.ofText file.pretty
    let env : Environment := fun name =>
      [("DAEMON_PORT", " 6100 "), ("ACTION_LIMIT", "many")].lookup name
    load stored = initial ∧ ((load stored).overridden env).daemonPort = 6100 ∧
      (initial.overridden env).actionLimit = 100 ∧
      initial.overridden env = initial.overridden (env.without "ACTION_LIMIT") := by
  intro file stored env
  obtain ⟨resolved, -, -, discarded, ignored, -⟩ := resolved_by_layers stored env initial
  have read : Json.ofText? file.pretty = some file :=
    Json.ofText?_pretty (.record (by simp [ReadsBack.text.faithful]))
  have sixty : Kind.Writes .word16 " 6100 " 6100 :=
    (Kind.ofVariable?_eq_some_iff .word16).mp (by decide +kernel)
  have many (value : UInt64) : ¬ Kind.Writes .word64 "many" value := by
    have none : Kind.ofVariable? .word64 "many" = none := by decide +kernel
    intro writes
    rw [(Kind.ofVariable?_eq_some_iff .word64).mpr writes] at none
    cases none
  obtain ⟨kept, without⟩ :=
    ignored ⟨"action_limit", some "ACTION_LIMIT", .word64, false, actionLimit⟩ (by simp [fields])
      _ _ rfl rfl many
  refine ⟨?_, ?_, kept, without⟩
  · exact discarded _ file (StoredFile.text_ofText _) read
      ⟨"time_limit_secs", some "TIME_LIMIT_SECS", .word64, false, timeLimitSecs⟩
      (by simp [fields]) (.str "soon") rfl rfl
  · exact (resolved ⟨"daemon_port", some "DAEMON_PORT", .word16, true, daemonPort⟩
      (by simp [fields]) 6100).mpr (.overridden ⟨_, _, rfl, rfl, sixty⟩)

end Settings

end GuiExplorer
