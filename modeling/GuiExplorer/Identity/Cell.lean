import GuiExplorer.Identity.Source

/-!
# Identities computed at most once

Hashing pixels takes time, so an identity is held in a cell that is filled once:
by a worker in the background or by the first reader.  Taking the source out of
the cell and filling in the value are one step for every reader; a reader that
comes while the value is being computed waits for it.
-/

namespace GuiExplorer.Identity

/-- A cell for one identity.  All copies of an identity share its cell. -/
structure Cell where
  /-- The identity, once it is known. -/
  value : Option Uuid
  /-- The input that was not used yet. -/
  source : Option Source
deriving DecidableEq, Repr, Inhabited

namespace Cell

/-- A cell whose value is known. -/
def ready (id : Uuid) : Cell :=
  ⟨some id, none⟩

/-- A cell that the first reader fills. -/
def deferred (source : Source) : Cell :=
  ⟨none, some source⟩

/-- Read the cell, filling it first if necessary. -/
def read (cell : Cell) : Uuid × Cell :=
  match cell.value with
  | some id => (id, cell)
  | none =>
      let id := (cell.source.map Source.id).getD Uuid.nil
      (id, ⟨some id, none⟩)

/-- A cell that a background worker has been told to fill.  Without workers it
stays as it is until somebody reads it. -/
def spawned (workers : Bool) (source : Source) : Cell :=
  if workers then (deferred source).read.2 else deferred source

/-- The identity that readers get. -/
def get (cell : Cell) : Uuid :=
  cell.read.1

def isReady (cell : Cell) : Bool :=
  cell.value.isSome

/-- Description for diagnostics; it does not fill the cell. -/
def describe (cell : Cell) : String :=
  match cell.value with
  | some id => "Ready(" ++ id.text ++ ")"
  | none => "Pending"

end Cell

end GuiExplorer.Identity
