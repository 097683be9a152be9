import GuiExplorer.Identity.Uuid

/-!
# Acted-upon counters

How often each widget was acted upon on each screen.  The counters are kept in
order of their keys, one for each key that was counted at least once.
-/

namespace GuiExplorer

/-- How often a widget was acted upon on a screen. -/
structure ActedCount where
  screen : Uuid
  widget : Uuid
  count : UInt32
deriving DecidableEq, Repr

namespace ActedCount

/-- The key of a counter. -/
def key (counter : ActedCount) : Uuid × Uuid :=
  (counter.screen, counter.widget)

end ActedCount

namespace Counters

/-- Keys are ordered by the screen, then by the widget. -/
def precedes (left right : Uuid × Uuid) : Bool :=
  left.1 < right.1 || (left.1 = right.1 && left.2 < right.2)

/-- The count for a key; zero if it was never counted. -/
def get (counters : List ActedCount) (screen widget : Uuid) : UInt32 :=
  match counters.find? (·.key = (screen, widget)) with
  | some counter => counter.count
  | none => 0

/-- Count once more for a key. -/
def increment (counters : List ActedCount) (screen widget : Uuid) : List ActedCount :=
  match counters with
  | [] => [⟨screen, widget, 1⟩]
  | counter :: rest =>
      if counter.key = (screen, widget) then
        { counter with count := counter.count + 1 } :: rest
      else if precedes (screen, widget) counter.key then
        ⟨screen, widget, 1⟩ :: counter :: rest
      else counter :: increment rest screen widget

end Counters

end GuiExplorer
