import GuiExplorer.Proofs.Identity.SharedCells
import GuiExplorer.Screen
import Mathlib.Algebra.GroupWithZero.Nat

/-!
# Reading shared cells in any order

However the turns of the builder, the workers and other readers are scheduled, the source of a cell
is taken out and hashed at most once, each read gives the identity of the widget, a value once there
stays, and the screen gets the identifier that it would have got without workers.  If whoever gets a
turn goes on getting turns, all these reads come to an end.
-/

namespace GuiExplorer.Identity.SharedScreen

/-! ## Progress -/

/-- How many turns with an effect are possible at most. -/
def workLeft (screen : SharedScreen) : Nat :=
  5 * screen.toBuild.length + (screen.parties.map (·.toRead.length)).sum +
    (screen.cells.map SharedCell.turnsLeft).sum

theorem sum_map_set_lt {α : Type} {items : List α} {index : Nat} {old new : α} (f : α → Nat)
    (found : items[index]? = some old) (less : f new < f old) :
    ((items.set index new).map f).sum < (items.map f).sum := by
  induction items generalizing index with
  | nil => cases found
  | cons first rest ih =>
      cases index with
      | zero =>
          cases found
          simpa using less
      | succ index => simpa using ih found

theorem workLeft_build_lt
    {screen : SharedScreen} {source : Source} {rest : List Source} (runtime : Bool)
    (toBuild : screen.toBuild = source :: rest) :
    (screen.build runtime source rest).workLeft < screen.workLeft := by
  cases runtime <;>
    simp [workLeft, build, toBuild, Party.ofProgram, SharedCell.deferred, SharedCell.turnsLeft,
      Cell.deferred] <;> omega

/-- A turn has an effect unless the party is blocked. -/
theorem Turn.less_or_blocked
    {runtime : Bool} {screen next : SharedScreen} {number : Nat}
    (turn : Turn runtime screen number next) :
    next.workLeft < screen.workLeft ∨
      next = screen ∧ screen.Blocked number := by
  cases turn with
  | builds toBuild => exact .inl (workLeft_build_lt runtime toBuild)
  | @reads cell rest hasRead shared id party found value =>
      left
      have fewer : ((screen.parties.set number ⟨rest, hasRead ++ [(cell, id)]⟩).map
          (·.toRead.length)).sum < (screen.parties.map (·.toRead.length)).sum :=
        sum_map_set_lt _ party (Nat.lt_succ_self _)
      simp only [workLeft]
      omega
  | works party found less own =>
      left
      have fewer := sum_map_set_lt _ found less
      simp only [workLeft]
      omega
  | waits blocked => exact .inr ⟨rfl, blocked⟩

section

variable {runtime : Bool} {screen : SharedScreen}

theorem workLeft_run_le (schedule : List Nat) :
    (screen.run runtime schedule).workLeft ≤ screen.workLeft := by
  induction schedule generalizing screen with
  | nil => exact Nat.le_refl _
  | cons number rest ih =>
      refine Nat.le_trans ih ?_
      rcases (turn_turn runtime screen number).less_or_blocked with less | ⟨same, -⟩
      · exact Nat.le_of_lt less
      · exact Nat.le_of_eq (congrArg workLeft same)

/-- A schedule has an effect if any of its turns had one at the beginning. -/
theorem workLeft_run_lt
    {schedule : List Nat}
    (effective : ∃ number ∈ schedule, (screen.turn runtime number).workLeft < screen.workLeft) :
    (screen.run runtime schedule).workLeft < screen.workLeft := by
  obtain ⟨number, member, less⟩ := effective
  induction schedule with
  | nil => cases member
  | cons first rest ih =>
      rcases (turn_turn runtime screen first).less_or_blocked with lessNow | ⟨same, -⟩
      · exact Nat.lt_of_le_of_lt (workLeft_run_le rest) lessNow
      · rw [run, List.foldl_cons, same]
        rcases List.mem_cons.mp member with rfl | later
        · rw [same] at less
          exact (Nat.lt_irrefl _ less).elim
        · exact ih later

/-- All widgets are built, and these parties have nothing left to read. -/
def Finished (screen : SharedScreen) (active : List Nat) : Prop :=
  screen.toBuild = [] ∧ ∀ number ∈ active, ∀ party, screen.parties[number]? = some party →
    party.toRead = []

/-- Only these parties compute values. -/
def HeldBy (screen : SharedScreen) (active : List Nat) : Prop :=
  ∀ {cell number : Nat} {shared : SharedCell}, screen.cells[cell]? = some shared →
    shared.progress.party? = some number → number ∈ active

variable {active : List Nat}

theorem HeldBy.turn (held : screen.HeldBy active) {number : Nat} (member : number ∈ active) :
    (screen.turn runtime number).HeldBy active := by
  have turns := turn_turn runtime screen number
  generalize screen.turn runtime number = next at turns
  intro cell holding shared found holder
  cases turns with
  | builds toBuild =>
      rcases of_getElem?_concat found with old | ⟨-, rfl⟩
      · exact held old holder
      · cases holder
  | reads => exact held found holder
  | works party foundBefore less own =>
      rcases of_getElem?_set found with old | ⟨-, rfl⟩
      · exact held old holder
      · exact own holding holder ▸ member
  | waits => exact held found holder

theorem HeldBy.run
    (held : screen.HeldBy active) {schedule : List Nat} (within : schedule ⊆ active) :
    (screen.run runtime schedule).HeldBy active := by
  induction schedule generalizing screen with
  | nil => exact held
  | cons number rest ih =>
      obtain ⟨now, later⟩ := List.cons_subset.mp within
      exact ih (held.turn now) later

variable {sources : List Source} {readers : List (List Nat)}

/-- Once all widgets are built, every party that is not finished has a cell to read. -/
theorem Sound.exists_cell
    (sound : Sound runtime sources readers screen)
    (known : ∀ reader ∈ readers, ∀ cell ∈ reader, cell < sources.length)
    (built : screen.toBuild = []) {party : Party} (member : party ∈ screen.parties) {cell : Nat}
    (unread : cell ∈ party.toRead) :
    ∃ shared, screen.cells[cell]? = some shared := by
  have all : sources.length ≤ screen.cells.length := by
    rw [← List.drop_eq_nil_iff, ← sound.toBuild, built]
  have program : party.program ∈ screen.parties.map Party.program := List.mem_map_of_mem member
  have inProgram : cell ∈ party.program := List.mem_append_right _ unread
  have within : cell < screen.cells.length := by
    rw [sound.programs] at program
    rcases List.mem_append.mp program with first | worker
    · rcases List.mem_cons.mp first with builder | reader
      · rw [builder, List.mem_range] at inProgram
        omega
      · have := known _ reader cell inProgram
        omega
    · cases runtime <;> simp [workerPrograms] at worker
      obtain ⟨own, within, same⟩ := worker
      simp [← same] at inProgram
      omega
  exact ⟨_, List.getElem?_eq_getElem within⟩

/-- Unless these parties are finished, one of them can do something. -/
theorem Sound.exists_effective
    (sound : Sound runtime sources readers screen)
    (known : ∀ reader ∈ readers, ∀ cell ∈ reader, cell < sources.length)
    (held : screen.HeldBy active) (builder : 0 ∈ active) (unfinished : ¬ screen.Finished active) :
    ∃ number ∈ active, (screen.turn runtime number).workLeft < screen.workLeft := by
  cases toBuild : screen.toBuild with
  | cons source rest =>
      refine ⟨0, builder, ?_⟩
      simp only [SharedScreen.turn, toBuild]
      exact workLeft_build_lt runtime toBuild
  | nil =>
      have busy : ∃ number ∈ active, ∃ party, screen.parties[number]? = some party ∧
          party.toRead ≠ [] := by
        simpa [Finished, toBuild] using unfinished
      obtain ⟨number, member, ⟨toRead, hasRead⟩, found, unread⟩ := busy
      obtain ⟨cell, rest, rfl⟩ := List.exists_cons_of_ne_nil unread
      obtain ⟨shared, built⟩ := sound.exists_cell known toBuild (List.mem_of_getElem? found)
        List.mem_cons_self
      -- Either the party itself can go on, or the one that computes the value can.
      cases holder : shared.progress.party? with
      | none =>
          refine ⟨number, member, ?_⟩
          rcases (turn_turn runtime screen number).less_or_blocked with less | ⟨-, blocked⟩
          · exact less
          · obtain ⟨other, busy, -⟩ := blocked found built
            cases holder.symm.trans busy
      | some other =>
          refine ⟨other, held built holder, ?_⟩
          obtain ⟨others, otherReads, otherParty⟩ := sound.holders built holder
          rcases (turn_turn runtime screen other).less_or_blocked with less | ⟨-, blocked⟩
          · exact less
          · obtain ⟨another, busy, different⟩ := blocked otherParty built
            cases holder.symm.trans busy
            exact (different rfl).elim

theorem Finished.turn
    (finished : screen.Finished active) {number : Nat} (member : number ∈ active) :
    screen.turn runtime number = screen := by
  obtain ⟨built, nothing⟩ := finished
  have turns := turn_turn runtime screen number
  generalize screen.turn runtime number = next at turns
  cases turns with
  | builds toBuild =>
      rw [built] at toBuild
      cases toBuild
  | reads party | works party => cases nothing number member _ party
  | waits => rfl

theorem Finished.run
    (finished : screen.Finished active) {schedule : List Nat} (within : schedule ⊆ active) :
    screen.run runtime schedule = screen := by
  induction schedule with
  | nil => rfl
  | cons number rest ih =>
      obtain ⟨now, later⟩ := List.cons_subset.mp within
      rw [SharedScreen.run, List.foldl_cons, finished.turn now]
      exact ih later

/-- If in each round these parties get turns and nobody else does, they are finished as soon as
there were as many rounds as there is work. -/
theorem Sound.finishes
    (sound : Sound runtime sources readers screen)
    (known : ∀ reader ∈ readers, ∀ cell ∈ reader, cell < sources.length)
    (held : screen.HeldBy active) (builder : 0 ∈ active) {rounds : List (List Nat)}
    (fair : ∀ round ∈ rounds, active ⊆ round ∧ round ⊆ active)
    (enough : screen.workLeft ≤ rounds.length) :
    (screen.run runtime rounds.flatten).Finished active := by
  induction rounds generalizing screen with
  | nil =>
      refine Classical.byContradiction fun unfinished => ?_
      obtain ⟨number, -, less⟩ := sound.exists_effective known held builder unfinished
      exact Nat.not_lt_zero _ (Nat.lt_of_lt_of_le less enough)
  | cons round rest ih =>
      -- A round lowers the work, unless there is nothing left for the rounds to do.
      by_cases finished : screen.Finished active
      · have within : (round :: rest).flatten ⊆ active := by
          intro number member
          obtain ⟨some, inRounds, inRound⟩ := List.mem_flatten.mp member
          exact (fair some inRounds).2 inRound
        rwa [finished.run within]
      · obtain ⟨⟨covers, within⟩, fairLater⟩ := List.forall_mem_cons.mp fair
        obtain ⟨number, member, less⟩ := sound.exists_effective known held builder finished
        have fewer := workLeft_run_lt ⟨number, covers member, less⟩
        have remaining : (screen.run runtime round).workLeft ≤ rest.length :=
          Nat.le_of_lt_succ (Nat.lt_of_lt_of_le fewer enough)
        rw [List.flatten_cons, SharedScreen.run, List.foldl_append]
        exact ih (sound.run round) (held.run within) fairLater remaining

theorem workLeft_start (sources : List Source) (readers : List (List Nat)) :
    (start sources readers).workLeft = 6 * sources.length + (readers.map List.length).sum := by
  have same : (fun party : Party => party.toRead.length) ∘ Party.ofProgram = List.length := rfl
  simp only [workLeft, start, List.map_map, same, List.map_cons, List.sum_cons, List.map_nil,
    List.sum_nil, Party.ofProgram, List.length_range]
  omega

theorem start_finishes
    {schedule : List Nat} {rounds : List (List Nat)}
    (known : ∀ reader ∈ readers, ∀ cell ∈ reader, cell < sources.length) (builder : 0 ∈ active)
    (scheduled : schedule ⊆ active) (fair : ∀ round ∈ rounds, active ⊆ round ∧ round ⊆ active)
    (enough : 6 * sources.length + (readers.map List.length).sum ≤ rounds.length) :
    (((start sources readers).run runtime schedule).run runtime rounds.flatten).Finished active := by
  have untouched : (start sources readers).HeldBy active := by
    intro cell number shared found
    simp [start] at found
  have least : ((start sources readers).run runtime schedule).workLeft ≤ rounds.length := by
    rw [← workLeft_start] at enough
    exact Nat.le_trans (workLeft_run_le schedule) enough
  exact ((start_sound runtime sources readers).run schedule).finishes known
    (untouched.run scheduled) builder fair least

/-! ## What is read -/

/-- Who has read all its cells has read the identities of their widgets. -/
theorem Sound.hasRead_eq
    (sound : Sound runtime sources readers screen) {party : Party}
    (member : party ∈ screen.parties) (done : party.toRead = []) :
    party.hasRead =
      party.program.map fun cell => (cell, ((sources.map Source.id)[cell]?).getD Uuid.nil) := by
  rw [Party.program, done, List.append_nil, List.map_map]
  symm
  refine (List.map_congr_left fun entry read => ?_).trans (List.map_id _)
  have known := sound.reads party member entry read
  exact Prod.ext rfl (congrArg (·.getD Uuid.nil) known)

theorem uid?_eq_some_iff {uid : Uuid} :
    screen.uid? = some uid ↔ screen.toBuild = [] ∧ ∃ hasRead others,
      screen.parties = ⟨[], hasRead⟩ :: others ∧ uid = ofWidgets (hasRead.map Prod.snd) := by
  obtain ⟨toBuild, cells, parties⟩ := screen
  unfold uid?
  constructor
  · intro known
    split at known
    case h_2 => cases known
    case h_1 hasRead others built all =>
      exact ⟨built, hasRead, others, all, (Option.some.inj known).symm⟩
  · rintro ⟨rfl, hasRead, others, rfl, rfl⟩
    rfl

/-- The builder, once it has read all cells, has read all identities in order. -/
theorem Sound.builder_read
    (sound : Sound runtime sources readers screen) {hasRead : List (Nat × Uuid)}
    {others : List Party} (all : screen.parties = ⟨[], hasRead⟩ :: others) :
    hasRead.map Prod.snd = sources.map Source.id := by
  have programs := sound.programs
  rw [all] at programs
  have program : Party.program ⟨[], hasRead⟩ = List.range sources.length :=
    (List.cons.inj programs).1
  have read := sound.hasRead_eq (all ▸ List.mem_cons_self) rfl
  rw [program] at read
  change hasRead = _ at read
  rw [read, List.map_map]
  refine List.ext_getElem (by simp) fun cell _ within => ?_
  simp [List.getElem?_eq_getElem (List.length_map Source.id ▸ within)]

theorem Sound.uid_eq
    (sound : Sound runtime sources readers screen) {uid : Uuid} (known : screen.uid? = some uid) :
    uid = ofWidgets (sources.map Source.id) := by
  obtain ⟨-, hasRead, others, all, rfl⟩ := uid?_eq_some_iff.mp known
  rw [sound.builder_read all]

theorem Sound.uid_of_finished
    (sound : Sound runtime sources readers screen) (finished : screen.Finished active)
    (builder : 0 ∈ active) : screen.uid? = some (ofWidgets (sources.map Source.id)) := by
  obtain ⟨built, nothing⟩ := finished
  cases parties : screen.parties with
  | nil =>
      have programs := sound.programs
      simp [parties] at programs
  | cons first others =>
      obtain ⟨toRead, hasRead⟩ := first
      obtain rfl : toRead = [] := nothing 0 builder ⟨toRead, hasRead⟩ (by simp [parties])
      rw [← sound.builder_read parties]
      exact uid?_eq_some_iff.mpr ⟨built, hasRead, others, parties, rfl⟩

theorem Sound.reader_read
    (sound : Sound runtime sources readers screen) (finished : screen.Finished active)
    {number : Nat} {reader : List Nat} (own : readers[number]? = some reader)
    (member : number + 1 ∈ active) :
    screen.parties[number + 1]? = some ⟨[], reader.map fun cell =>
      (cell, ((sources.map Source.id)[cell]?).getD Uuid.nil)⟩ := by
  have program : (screen.parties.map Party.program)[number + 1]? = some reader := by
    have within := (List.getElem?_eq_some_iff.mp own).1
    rw [sound.programs, List.cons_append, List.getElem?_cons_succ,
      List.getElem?_append_left within, own]
  rw [List.getElem?_map, Option.map_eq_some_iff] at program
  obtain ⟨⟨toRead, hasRead⟩, found, same⟩ := program
  obtain rfl : toRead = [] := finished.2 (number + 1) member _ found
  have read := sound.hasRead_eq (List.mem_of_getElem? found) rfl
  rw [same] at read
  rw [found, ← read]

end

/-- What holds of the screen of a snapshot in every schedule. -/
structure Faithful (records : List WidgetData) (image : Option Raster) (screen : SharedScreen) :
    Prop where
  /-- The source of a widget was found and hashed once, or not yet. -/
  once {number : Nat} {shared : SharedCell} (found : screen.cells[number]? = some shared) :
    ∃ record, records[number]? = some record ∧
      shared.taken <+: [some (Source.ofSnapshot record image)] ∧
      shared.hashed <+: [Source.ofSnapshot record image]
  /-- Whoever has read a cell has read the identity of the widget. -/
  reads {party : Party} (member : party ∈ screen.parties) {cell : Nat} {id : Uuid}
    (read : (cell, id) ∈ party.hasRead) :
    ∃ record, records[cell]? = some record ∧ id = Identity.ofSnapshot record image
  uid {uid : Uuid} (known : screen.uid? = some uid) :
    uid = ofWidgets (records.map (Identity.ofSnapshot · image)) ∧
      uid = (Screen.ofSnapshot records image).uid

theorem Sound.faithful
    {records : List WidgetData} {image : Option Raster} {runtime : Bool}
    {readers : List (List Nat)} {screen : SharedScreen}
    (sound : Sound runtime (records.map (Source.ofSnapshot · image)) readers screen) :
    screen.Faithful records image where
  once := by
    intro number shared found
    obtain ⟨source, known, reached⟩ := sound.cells found
    rw [List.getElem?_map, Option.map_eq_some_iff] at known
    obtain ⟨record, shown, rfl⟩ := known
    exact ⟨record, shown, reached.once⟩
  reads := by
    intro party member cell id read
    have known := sound.reads party member _ read
    rw [List.map_map, List.getElem?_map, Option.map_eq_some_iff] at known
    obtain ⟨record, shown, same⟩ := known
    exact ⟨record, shown, same.symm⟩
  uid := by
    intro uid known
    have same : uid = ofWidgets (records.map (Identity.ofSnapshot · image)) := by
      rw [sound.uid_eq known, List.map_map]
      rfl
    refine ⟨same, ?_⟩
    rw [same, Screen.ofSnapshot, Screen.ofWidgets, List.map_map]
    rfl

/-- However the turns are scheduled, with a runtime or without: sources are hashed at most once,
all that is read are the identities of the widgets, and cells that are ready stay as they are.
If only some parties get turns, the builder among them, but these go on in one round after
another, then the screen gets its identifier and the readers among them get all they want. -/
theorem hashing_is_unobservable
    (records : List WidgetData) (image : Option Raster) (runtime : Bool)
    (readers : List (List (Fin records.length))) (schedule : List Nat) :
    let screen := (ofSnapshot records image (readers.map (·.map Fin.val))).run runtime schedule
    screen.Faithful records image ∧
      (∀ (number : Nat) (shared : SharedCell), screen.cells[number]? = some shared →
        shared.cell.isReady = true →
          ∀ later, (screen.run runtime later).cells[number]? = some shared) ∧
      ∀ (active : List Nat) (rounds : List (List Nat)), 0 ∈ active → schedule ⊆ active →
        (∀ round ∈ rounds, active ⊆ round ∧ round ⊆ active) →
        6 * records.length + (readers.map List.length).sum ≤ rounds.length →
          let final := screen.run runtime rounds.flatten
          final.uid? = some (ofWidgets (records.map (Identity.ofSnapshot · image))) ∧
            ∀ (number : Nat) (reader : List (Fin records.length)), readers[number]? = some reader →
              number + 1 ∈ active →
                final.parties[number + 1]? = some ⟨[], reader.map fun cell =>
                  (cell.val, Identity.ofSnapshot records[cell] image)⟩ := by
  intro screen
  have sound : Sound runtime _ _ screen := (start_sound runtime _ _).run schedule
  refine ⟨sound.faithful, fun number shared found ready => keeps_ready found ready, ?_⟩
  intro active rounds builder scheduled fair enough final
  have known : ∀ reader ∈ readers.map (·.map Fin.val), ∀ cell ∈ reader,
      cell < (records.map (Source.ofSnapshot · image)).length := by
    simp
  have finished : final.Finished active :=
    start_finishes known builder scheduled fair (by simpa [Function.comp_def] using enough)
  have soundFinal : Sound runtime _ _ final := sound.run rounds.flatten
  constructor
  · rw [soundFinal.uid_of_finished finished builder, List.map_map]
    rfl
  · intro number reader own member
    rw [soundFinal.reader_read finished (List.getElem?_map.trans (congrArg _ own)) member]
    simp [Identity.ofSnapshot]

/-- One of two workers fills its cell while a reader waits for it; the other worker never gets a
turn, and its cell is filled by whoever comes first. -/
theorem hashing_is_unobservable_without_worker :
    let records : List WidgetData := [{ text := "OK" }, { text := "Cancel" }]
    let schedule := [0, 0, 3, 1, 3, 3]
    let active := [0, 1, 3]
    let rounds := List.replicate 14 [3, 1, 0]
    let screen := (ofSnapshot records none [[1, 0]]).run true schedule
    let final := screen.run true rounds.flatten
    schedule ⊆ active ∧ (∀ round ∈ rounds, active ⊆ round ∧ round ⊆ active) ∧
      screen.cells.map (·.cell.isReady) = [false, true] ∧
      (∀ shared, screen.cells[1]? = some shared →
        ∀ later, (screen.run true later).cells[1]? = some shared) ∧
      final.uid? = some (ofWidgets (records.map (Identity.ofSnapshot · none))) ∧
      final.parties[1]? = some ⟨[], [(1, Identity.ofSnapshot { text := "Cancel" } none),
        (0, Identity.ofSnapshot { text := "OK" } none)]⟩ := by
  intro records schedule active rounds screen final
  obtain ⟨-, keeps, completes⟩ := hashing_is_unobservable records none true
    [[⟨1, by decide⟩, ⟨0, by decide⟩]] schedule
  have scheduled : schedule ⊆ active := by decide
  have fair : ∀ round ∈ rounds, active ⊆ round ∧ round ⊆ active := by decide
  have ready : screen.cells.map (·.cell.isReady) = [false, true] := rfl
  obtain ⟨uid, readers⟩ := completes active rounds (by decide) scheduled fair (by decide)
  refine ⟨scheduled, fair, ready, fun shared found => ?_, uid, readers 0 _ rfl (by decide)⟩
  have isReady : (screen.cells.map (·.cell.isReady))[1]? = some shared.cell.isReady := by
    rw [List.getElem?_map, found]
    rfl
  rw [ready] at isReady
  exact keeps 1 shared found (Option.some.inj isReady).symm

end GuiExplorer.Identity.SharedScreen
