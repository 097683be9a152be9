import GuiExplorer.Identity.Cell

/-!
# Schedules of shared cells

The cells of a screen are shared by the builder of the screen, by the workers in the background
that are told to fill them, and by all who got a copy of a widget.  A read is taken apart here into
the turns between which another party may come: whoever finds no value enters the computation, takes
the source out of the cell, and hashes it; the others wait until the value is there.  A schedule
is the order in which the parties get their turns.
-/

namespace GuiExplorer.Identity

/-- How far the computation of a value has come, and who makes it. -/
inductive Progress where
  | idle
  /-- The party is about to take the source out of the cell. -/
  | entered (party : Nat)
  /-- The party is about to hash what it found in the cell. -/
  | hashing (party : Nat) (found : Option Source)
deriving DecidableEq, Repr

/-- The party that makes the computation. -/
def Progress.party? : Progress → Option Nat
  | .idle => none
  | .entered party => some party
  | .hashing party _ => some party

/-- A cell, the computation of its value, and what was done so far. -/
structure SharedCell where
  cell : Cell
  progress : Progress
  /-- What was found whenever the source was taken out. -/
  taken : List (Option Source)
  /-- The sources that were hashed. -/
  hashed : List Source
deriving DecidableEq, Repr

namespace SharedCell

/-- A cell that nobody has read. -/
def deferred (source : Source) : SharedCell :=
  ⟨.deferred source, .idle, [], []⟩

/-- Take out the source, if there is one. -/
def take (shared : SharedCell) (party : Nat) : SharedCell where
  cell := ⟨shared.cell.value, none⟩
  progress := .hashing party shared.cell.source
  taken := shared.taken ++ [shared.cell.source]
  hashed := shared.hashed

/-- Hash what was found and fill the cell.  Where nothing was found the value is nil. -/
def fill (shared : SharedCell) (found : Option Source) : SharedCell where
  cell := ⟨some ((found.map Source.id).getD Uuid.nil), shared.cell.source⟩
  progress := .idle
  taken := shared.taken
  hashed := shared.hashed ++ found.toList

/-- A turn of a party that reads the cell: the value if it is there, and else what becomes of the
cell. -/
def turn (shared : SharedCell) (party : Nat) : Option Uuid × SharedCell :=
  match shared.cell.value with
  | some id => (some id, shared)
  | none =>
      match shared.progress with
      | .idle => (none, { shared with progress := .entered party })
      | .entered other => (none, if other = party then shared.take party else shared)
      | .hashing other found => (none, if other = party then shared.fill found else shared)

end SharedCell

/-- Somebody who reads cells one after another. -/
structure Party where
  /-- The numbers of the cells that are still to be read. -/
  toRead : List Nat
  /-- The cells that were read and what was read. -/
  hasRead : List (Nat × Uuid)
deriving DecidableEq, Repr

namespace Party

/-- A party that has these cells to read. -/
def ofProgram (program : List Nat) : Party :=
  ⟨program, []⟩

end Party

/-- A screen that is built from the sources of its widgets, and those who read it. -/
structure SharedScreen where
  /-- The sources of the widgets that are still to be built. -/
  toBuild : List Source
  /-- The cells of the widgets that were built. -/
  cells : List SharedCell
  /-- First the builder, then those who read copies, then the workers as they were started. -/
  parties : List Party
deriving DecidableEq, Repr

namespace SharedScreen

/-- Before the first widget is built.  The builder will read all cells in order. -/
def start (sources : List Source) (readers : List (List Nat)) : SharedScreen :=
  ⟨sources, [], (List.range sources.length :: readers).map .ofProgram⟩

/-- Before the screen of a snapshot is built. -/
def ofSnapshot (records : List WidgetData) (image : Option Raster) (readers : List (List Nat)) :
    SharedScreen :=
  start (records.map (Source.ofSnapshot · image)) readers

/-- Build the next widget.  With a runtime a worker is told to fill its cell. -/
def build (screen : SharedScreen) (runtime : Bool) (source : Source) (rest : List Source) :
    SharedScreen where
  toBuild := rest
  cells := screen.cells ++ [.deferred source]
  parties := screen.parties ++ if runtime then [.ofProgram [screen.cells.length]] else []

/-- Let a party go on with its next read.  It waits for a cell that was not built yet. -/
def read (screen : SharedScreen) (number : Nat) : SharedScreen :=
  match screen.parties[number]? with
  | some ⟨cell :: rest, hasRead⟩ =>
      match screen.cells[cell]? with
      | some shared =>
          match shared.turn number with
          | (some id, _) =>
              { screen with
                parties := screen.parties.set number ⟨rest, hasRead ++ [(cell, id)]⟩ }
          | (none, next) => { screen with cells := screen.cells.set cell next }
      | none => screen
  | _ => screen

/-- A turn of a party.  The builder builds all widgets before it reads the first. -/
def turn (runtime : Bool) (screen : SharedScreen) (number : Nat) : SharedScreen :=
  match number, screen.toBuild with
  | 0, source :: rest => screen.build runtime source rest
  | _, _ => screen.read number

/-- Let the parties have their turns in the order of the schedule. -/
def run (runtime : Bool) (screen : SharedScreen) (schedule : List Nat) : SharedScreen :=
  schedule.foldl (turn runtime) screen

/-- The identifier of the screen, once the builder has read all cells. -/
def uid? (screen : SharedScreen) : Option Uuid :=
  match screen.toBuild, screen.parties with
  | [], ⟨[], hasRead⟩ :: _ => some (ofWidgets (hasRead.map Prod.snd))
  | _, _ => none

end SharedScreen

end GuiExplorer.Identity
