import GuiExplorer.Identity.Schedule

/-!
# Cells that are shared

A cell goes through four states, whoever has a turn: untouched, entered by some party, hashed by it,
and ready.  What a turn does is said once, in `SharedScreen.Turn`; what holds in every schedule is
`SharedScreen.Sound`.
-/

namespace GuiExplorer.Identity

/-! ## One cell -/

namespace SharedCell

/-- The states that a cell goes through. -/
inductive Reached (source : Source) : SharedCell → Prop where
  | untouched : Reached source (.deferred source)
  | entered (party : Nat) : Reached source ⟨.deferred source, .entered party, [], []⟩
  | hashing (party : Nat) :
      Reached source ⟨⟨none, none⟩, .hashing party (some source), [some source], []⟩
  | ready : Reached source ⟨.ready source.id, .idle, [some source], [source]⟩

/-- How many turns the computation still takes. -/
def turnsLeft (shared : SharedCell) : Nat :=
  match shared.cell.value, shared.progress with
  | some _, _ => 0
  | none, .hashing _ _ => 1
  | none, .entered _ => 2
  | none, .idle => 3

namespace Reached

variable {source : Source} {shared : SharedCell}

theorem turn (reached : Reached source shared) (party : Nat) :
    Reached source (shared.turn party).2 := by
  cases reached with
  | untouched => exact .entered party
  | entered other =>
      by_cases same : other = party
      · simp only [SharedCell.turn, Cell.deferred, same, if_true]
        exact .hashing party
      · simp only [SharedCell.turn, Cell.deferred, same, if_false]
        exact .entered other
  | hashing other =>
      by_cases same : other = party
      · simp only [SharedCell.turn, same, if_true]
        exact .ready
      · simp only [SharedCell.turn, same, if_false]
        exact .hashing other
  | ready => exact .ready

theorem eq_id (reached : Reached source shared) {id : Uuid} (value : shared.cell.value = some id) :
    id = source.id := by
  cases reached with
  | untouched | entered | hashing => cases value
  | ready =>
      cases value
      rfl

/-- Nobody computes a value that is there. -/
theorem free (reached : Reached source shared) {id : Uuid} (value : shared.cell.value = some id) :
    shared.progress.party? = none := by
  cases reached with
  | untouched | entered | hashing => cases value
  | ready => rfl

theorem once (reached : Reached source shared) :
    shared.taken <+: [some source] ∧ shared.hashed <+: [source] := by
  cases reached <;> simp [deferred]

end Reached

/-- What a turn of a party comes to. -/
inductive Turn (shared : SharedCell) (party : Nat) : Option Uuid × SharedCell → Prop where
  | reads {id : Uuid} (value : shared.cell.value = some id) : Turn shared party (some id, shared)
  /-- Somebody else computes the value. -/
  | waits {other : Nat} (busy : shared.progress.party? = some other) (different : other ≠ party) :
      Turn shared party (none, shared)
  | works {next : SharedCell} (less : next.turnsLeft < shared.turnsLeft)
      (own : ∀ other, next.progress.party? = some other → other = party) :
      Turn shared party (none, next)

theorem turn_turn (shared : SharedCell) (party : Nat) : Turn shared party (shared.turn party) := by
  obtain ⟨⟨value, source⟩, progress, taken, hashed⟩ := shared
  cases value with
  | some id => exact .reads rfl
  | none =>
      cases progress with
      | idle => exact .works (by simp [turnsLeft]) (by simp [Progress.party?])
      | entered other =>
          by_cases same : other = party
          · simp only [turn, same, if_true]
            exact .works (by simp [turnsLeft, take]) (by simp [take, Progress.party?])
          · simp only [turn, same, if_false]
            exact .waits rfl same
      | hashing other found =>
          by_cases same : other = party
          · simp only [turn, same, if_true]
            exact .works (by simp [turnsLeft, fill]) (by simp [fill, Progress.party?])
          · simp only [turn, same, if_false]
            exact .waits rfl same

end SharedCell

/-! ## What a turn does -/

/-- All cells that a party had to read from the start, in order. -/
def Party.program (party : Party) : List Nat :=
  party.hasRead.map Prod.fst ++ party.toRead

namespace SharedScreen

/-- There is nothing to read for the party, unless somebody else computes the value of the cell. -/
def Blocked (screen : SharedScreen) (number : Nat) : Prop :=
  ∀ {cell : Nat} {rest : List Nat} {hasRead : List (Nat × Uuid)} {shared : SharedCell},
    screen.parties[number]? = some ⟨cell :: rest, hasRead⟩ → screen.cells[cell]? = some shared →
      ∃ other, shared.progress.party? = some other ∧ other ≠ number

/-- What becomes of a screen in a turn of a party. -/
inductive Turn (runtime : Bool) (screen : SharedScreen) (number : Nat) : SharedScreen → Prop where
  | builds {source : Source} {rest : List Source} (toBuild : screen.toBuild = source :: rest) :
      Turn runtime screen number (screen.build runtime source rest)
  | reads {cell : Nat} {rest : List Nat} {hasRead : List (Nat × Uuid)} {shared : SharedCell}
      {id : Uuid} (party : screen.parties[number]? = some ⟨cell :: rest, hasRead⟩)
      (found : screen.cells[cell]? = some shared) (value : shared.cell.value = some id) :
      Turn runtime screen number
        { screen with parties := screen.parties.set number ⟨rest, hasRead ++ [(cell, id)]⟩ }
  | works {cell : Nat} {rest : List Nat} {hasRead : List (Nat × Uuid)} {shared : SharedCell}
      (party : screen.parties[number]? = some ⟨cell :: rest, hasRead⟩)
      (found : screen.cells[cell]? = some shared)
      (less : (shared.turn number).2.turnsLeft < shared.turnsLeft)
      (own : ∀ other, (shared.turn number).2.progress.party? = some other → other = number) :
      Turn runtime screen number
        { screen with cells := screen.cells.set cell (shared.turn number).2 }
  | waits (blocked : screen.Blocked number) : Turn runtime screen number screen

theorem read_turn (runtime : Bool) (screen : SharedScreen) (number : Nat) :
    Turn runtime screen number (screen.read number) := by
  unfold read
  split
  case h_2 finished =>
    exact .waits fun party => (finished _ _ _ party).elim
  case h_1 cell rest hasRead party =>
    split
    case h_2 missing =>
      refine .waits fun sameParty found => ?_
      cases party.symm.trans sameParty
      cases missing.symm.trans found
    case h_1 shared found =>
      have turns := shared.turn_turn number
      have works := @Turn.works runtime screen number cell rest hasRead shared party found
      generalize shared.turn number = result at turns works ⊢
      cases turns with
      | reads value => exact .reads party found value
      | works less own => exact works less own
      | @waits other busy different =>
          obtain ⟨within, same⟩ := List.getElem?_eq_some_iff.mp found
          have unchanged : screen.cells.set cell shared = screen.cells := by
            rw [← same, List.set_getElem_self]
          simp only [unchanged]
          refine .waits fun sameParty sameFound => ?_
          cases party.symm.trans sameParty
          cases found.symm.trans sameFound
          exact ⟨other, busy, different⟩

theorem turn_turn (runtime : Bool) (screen : SharedScreen) (number : Nat) :
    Turn runtime screen number (screen.turn runtime number) := by
  cases number with
  | zero =>
      cases toBuild : screen.toBuild with
      | nil =>
          simp only [turn, toBuild]
          exact read_turn runtime screen 0
      | cons source rest =>
          simp only [turn, toBuild]
          exact .builds toBuild
  | succ number => exact read_turn runtime screen (number + 1)

/-! ## What stays true -/

theorem of_getElem?_concat {α : Type} {items : List α} {last item : α} {index : Nat}
    (found : (items ++ [last])[index]? = some item) :
    items[index]? = some item ∨ index = items.length ∧ last = item := by
  rcases Nat.lt_or_ge index items.length with within | beyond
  · rw [List.getElem?_append_left within] at found
    exact .inl found
  · rw [List.getElem?_append_right beyond, List.getElem?_singleton] at found
    split at found
    case isTrue atEnd => exact .inr ⟨by omega, Option.some.inj found⟩
    case isFalse => cases found

theorem of_getElem?_set {α : Type} {items : List α} {new item : α} {index other : Nat}
    (found : (items.set index new)[other]? = some item) :
    items[other]? = some item ∨ index = other ∧ new = item := by
  rw [List.getElem?_set] at found
  split at found
  case isTrue same =>
    split at found
    case isTrue => exact .inr ⟨same, Option.some.inj found⟩
    case isFalse => cases found
  case isFalse => exact .inl found

theorem map_set_of_eq {α β : Type} {items : List α} {index : Nat} {old new : α} {f : α → β}
    (found : items[index]? = some old) (same : f new = f old) :
    (items.set index new).map f = items.map f := by
  obtain ⟨within, rfl⟩ := List.getElem?_eq_some_iff.mp found
  rw [List.map_set, same, ← List.getElem_map f (h := by simpa using within), List.set_getElem_self]

/-- The cells that the workers have to read. -/
def workerPrograms (runtime : Bool) (cells : Nat) : List (List Nat) :=
  if runtime then (List.range cells).map ([·]) else []

/-- What holds of a screen in every schedule. -/
structure Sound (runtime : Bool) (sources : List Source) (readers : List (List Nat))
    (screen : SharedScreen) : Prop where
  toBuild : screen.toBuild = sources.drop screen.cells.length
  cells {number : Nat} {shared : SharedCell} (found : screen.cells[number]? = some shared) :
    ∃ source, sources[number]? = some source ∧ shared.Reached source
  programs : screen.parties.map Party.program =
    (List.range sources.length :: readers) ++ workerPrograms runtime screen.cells.length
  reads : ∀ party ∈ screen.parties, ∀ entry ∈ party.hasRead,
    (sources.map Source.id)[entry.1]? = some entry.2
  /-- Who computes the value of a cell is about to read it. -/
  holders {cell number : Nat} {shared : SharedCell} (found : screen.cells[cell]? = some shared)
    (holder : shared.progress.party? = some number) :
      ∃ rest hasRead, screen.parties[number]? = some ⟨cell :: rest, hasRead⟩

theorem start_sound (runtime : Bool) (sources : List Source) (readers : List (List Nat)) :
    Sound runtime sources readers (start sources readers) where
  toBuild := rfl
  cells := by simp [start]
  programs := by
    simp [start, workerPrograms, Party.program, Party.ofProgram, Function.comp_def]
  reads := by
    intro party member
    obtain ⟨program, -, rfl⟩ := List.mem_map.mp member
    simp [Party.ofProgram]
  holders := by simp [start]

namespace Sound

variable {runtime : Bool} {sources : List Source} {readers : List (List Nat)}
  {screen : SharedScreen}

theorem build
    (sound : Sound runtime sources readers screen) {source : Source} {rest : List Source}
    (toBuild : screen.toBuild = source :: rest) :
    Sound runtime sources readers (screen.build runtime source rest) := by
  have dropped := sound.toBuild
  rw [toBuild] at dropped
  constructor
  case toBuild =>
    simp only [SharedScreen.build, List.length_append, List.length_singleton]
    rw [← List.tail_drop, ← dropped, List.tail_cons]
  case cells =>
    intro number shared found
    rcases of_getElem?_concat found with old | ⟨rfl, rfl⟩
    · exact sound.cells old
    · refine ⟨source, ?_, .untouched⟩
      rw [← List.head?_drop, ← dropped, List.head?_cons]
  case programs =>
    cases runtime <;>
      simp [SharedScreen.build, sound.programs, workerPrograms, List.range_succ, Party.program,
        Party.ofProgram]
  case reads =>
    intro party member entry known
    rcases List.mem_append.mp member with old | new
    · exact sound.reads party old entry known
    · cases runtime <;> simp [Party.ofProgram] at new
      simp [new] at known
  case holders =>
    intro cell number shared found holder
    rcases of_getElem?_concat found with old | ⟨rfl, rfl⟩
    · obtain ⟨others, hasRead, party⟩ := sound.holders old holder
      refine ⟨others, hasRead, ?_⟩
      have within := (List.getElem?_eq_some_iff.mp party).1
      rw [SharedScreen.build, List.getElem?_append_left within, party]
    · cases holder

theorem read
    (sound : Sound runtime sources readers screen) {number cell : Nat} {rest : List Nat}
    {hasRead : List (Nat × Uuid)} {shared : SharedCell} {id : Uuid}
    (party : screen.parties[number]? = some ⟨cell :: rest, hasRead⟩)
    (found : screen.cells[cell]? = some shared) (value : shared.cell.value = some id) :
    Sound runtime sources readers
      { screen with parties := screen.parties.set number ⟨rest, hasRead ++ [(cell, id)]⟩ } := by
  obtain ⟨source, known, reached⟩ := sound.cells found
  constructor
  case toBuild => exact sound.toBuild
  case cells => exact sound.cells
  case programs =>
    rw [← sound.programs]
    exact map_set_of_eq party (by simp [Party.program])
  case reads =>
    intro other member entry read
    rcases List.mem_or_eq_of_mem_set member with old | rfl
    · exact sound.reads other old entry read
    · rcases List.mem_append.mp read with earlier | last
      · exact sound.reads _ (List.mem_of_getElem? party) entry earlier
      · rw [List.mem_singleton.mp last, List.getElem?_map, known, reached.eq_id value]
        rfl
  case holders =>
    intro held holding other heldBy holder
    obtain ⟨others, otherReads, otherParty⟩ := sound.holders heldBy holder
    -- Nobody computes the value that was read, so the reader is no holder.
    have different : number ≠ holding := by
      rintro rfl
      cases party.symm.trans otherParty
      cases found.symm.trans heldBy
      rw [reached.free value] at holder
      cases holder
    exact ⟨others, otherReads, by rw [List.getElem?_set_ne different, otherParty]⟩

theorem work
    (sound : Sound runtime sources readers screen) {number cell : Nat} {rest : List Nat}
    {hasRead : List (Nat × Uuid)} {shared : SharedCell}
    (party : screen.parties[number]? = some ⟨cell :: rest, hasRead⟩)
    (found : screen.cells[cell]? = some shared)
    (own : ∀ other, (shared.turn number).2.progress.party? = some other → other = number) :
    Sound runtime sources readers
      { screen with cells := screen.cells.set cell (shared.turn number).2 } := by
  constructor
  case toBuild => simpa using sound.toBuild
  case cells =>
    intro position other atPosition
    rcases of_getElem?_set atPosition with old | ⟨rfl, rfl⟩
    · exact sound.cells old
    · obtain ⟨source, known, reached⟩ := sound.cells found
      exact ⟨source, known, reached.turn number⟩
  case programs => simpa using sound.programs
  case reads => exact sound.reads
  case holders =>
    intro position holding other atPosition holder
    rcases of_getElem?_set atPosition with old | ⟨rfl, rfl⟩
    · exact sound.holders old holder
    · obtain rfl := own holding holder
      exact ⟨rest, hasRead, party⟩

theorem turn (sound : Sound runtime sources readers screen) (number : Nat) :
    Sound runtime sources readers (screen.turn runtime number) := by
  have turns := turn_turn runtime screen number
  generalize screen.turn runtime number = next at turns
  cases turns with
  | builds toBuild => exact sound.build toBuild
  | reads party found value => exact sound.read party found value
  | works party found less own => exact sound.work party found own
  | waits => exact sound

theorem run (sound : Sound runtime sources readers screen) (schedule : List Nat) :
    Sound runtime sources readers (screen.run runtime schedule) := by
  induction schedule generalizing screen with
  | nil => exact sound
  | cons number rest ih => exact ih (sound.turn number)

end Sound

/-- A value that is there stays, with all else in the cell. -/
theorem keeps_ready
    {runtime : Bool} {screen : SharedScreen} {number : Nat} {shared : SharedCell}
    (found : screen.cells[number]? = some shared)
    (ready : shared.cell.isReady = true) (schedule : List Nat) :
    (screen.run runtime schedule).cells[number]? = some shared := by
  induction schedule generalizing screen with
  | nil => exact found
  | cons party rest ih =>
      refine ih ?_
      have turns := turn_turn runtime screen party
      generalize screen.turn runtime party = next at turns
      cases turns with
      | builds toBuild =>
          have within := (List.getElem?_eq_some_iff.mp found).1
          rw [build, List.getElem?_append_left within, found]
      | reads => exact found
      | @works cell others hasRead before party foundBefore less own =>
          -- There is no work left in a cell that is ready.
          have different : cell ≠ number := by
            rintro rfl
            cases found.symm.trans foundBefore
            obtain ⟨id, value⟩ := Option.isSome_iff_exists.mp ready
            simp [SharedCell.turnsLeft, value] at less
          rw [List.getElem?_set_ne different, found]
      | waits => exact found

end SharedScreen

end GuiExplorer.Identity
