import GuiExplorer.Store.Basic

/-!
# What the counters hold

Counters are kept in strictly ascending order of their keys.  In that order a
key is counted in one place only, so counting once more raises the count of its
key by one and leaves all others alone.
-/

namespace GuiExplorer

namespace Counters

theorem precedes_irrefl (key : Uuid × Uuid) : precedes key key = false := by
  have screen : ¬ key.1 < key.1 := List.lt_irrefl key.1.bytes
  have widget : ¬ key.2 < key.2 := List.lt_irrefl key.2.bytes
  simp [precedes, screen, widget]

theorem precedes_trans
    {first second third : Uuid × Uuid}
    (former : precedes first second = true) (latter : precedes second third = true) :
    precedes first third = true := by
  simp only [precedes, Bool.or_eq_true, Bool.and_eq_true, decide_eq_true_eq] at *
  rcases former with smaller | ⟨same, smaller⟩
  · rcases latter with later | ⟨equal, -⟩
    · exact .inl (List.lt_trans smaller later)
    · exact .inl (equal ▸ smaller)
  · rcases latter with later | ⟨equal, later⟩
    · exact .inl (same ▸ later)
    · exact .inr ⟨same.trans equal, List.lt_trans smaller later⟩

private theorem uuid_eq_of_not_lt
    {left right : Uuid} (below : ¬ left < right) (above : ¬ right < left) :
    left = right :=
  Uuid.ext (List.le_antisymm (List.not_lt.mp above) (List.not_lt.mp below))

theorem precedes_of_ne
    {left right : Uuid × Uuid}
    (different : left ≠ right) (below : precedes left right = false) :
    precedes right left = true := by
  simp only [precedes, Bool.or_eq_false_iff, Bool.and_eq_false_iff,
    decide_eq_false_iff_not, Bool.or_eq_true, Bool.and_eq_true, decide_eq_true_eq] at *
  obtain ⟨screen, widget⟩ := below
  by_cases smaller : right.1 < left.1
  · exact .inl smaller
  · have same : right.1 = left.1 := uuid_eq_of_not_lt smaller screen
    refine .inr ⟨same, ?_⟩
    by_cases less : right.2 < left.2
    · exact less
    · have widgetBelow : ¬ left.2 < right.2 := by
        rcases widget with other | notLess
        · exact (other same.symm).elim
        · exact notLess
      exact (different (Prod.ext same.symm (uuid_eq_of_not_lt widgetBelow less))).elim

/-- Counters in strictly ascending order of their keys. -/
def Sorted (counters : List ActedCount) : Prop :=
  counters.Pairwise fun earlier later => precedes earlier.key later.key = true

theorem sorted_nil : Sorted [] :=
  List.Pairwise.nil

theorem key_of_mem_increment
    {counters : List ActedCount} {screen widget : Uuid} {counter : ActedCount}
    (member : counter ∈ increment counters screen widget) :
    counter.key = (screen, widget) ∨ ∃ known ∈ counters, known.key = counter.key := by
  induction counters with
  | nil =>
      rw [increment, List.mem_singleton] at member
      exact .inl (by rw [member]; rfl)
  | cons head rest ih =>
      rw [increment] at member
      split at member
      · rcases List.mem_cons.mp member with first | later
        · exact .inr ⟨head, List.mem_cons_self, by rw [first]; rfl⟩
        · exact .inr ⟨counter, List.mem_cons_of_mem _ later, rfl⟩
      · split at member
        · rcases List.mem_cons.mp member with first | later
          · exact .inl (by rw [first]; rfl)
          · exact .inr ⟨counter, later, rfl⟩
        · rcases List.mem_cons.mp member with first | later
          · exact .inr ⟨head, List.mem_cons_self, by rw [first]⟩
          · rcases ih later with counted | ⟨known, knownMember, same⟩
            · exact .inl counted
            · exact .inr ⟨known, List.mem_cons_of_mem _ knownMember, same⟩

theorem sorted_increment
    {counters : List ActedCount} (sorted : Sorted counters) (screen widget : Uuid) :
    Sorted (increment counters screen widget) := by
  induction counters with
  | nil => exact List.pairwise_singleton _ _
  | cons head rest ih =>
      obtain ⟨first, others⟩ := List.pairwise_cons.mp sorted
      rw [increment]
      split
      case isTrue found => exact List.pairwise_cons.mpr ⟨first, others⟩
      case isFalse different =>
        split
        case isTrue before =>
          refine List.pairwise_cons.mpr ⟨?_, sorted⟩
          intro counter member
          rcases List.mem_cons.mp member with equal | later
          · rw [equal]
            exact before
          · exact precedes_trans before (first counter later)
        case isFalse notBefore =>
          refine List.pairwise_cons.mpr ⟨?_, ih others⟩
          intro counter member
          rcases key_of_mem_increment member with counted | ⟨known, knownMember, same⟩
          · rw [counted]
            exact precedes_of_ne (Ne.symm different) (by simpa using notBefore)
          · rw [← same]
            exact first known knownMember

theorem get_eq_zero_of_precedes
    {counters : List ActedCount} {screen widget : Uuid}
    (below : ∀ counter ∈ counters, precedes (screen, widget) counter.key = true) :
    get counters screen widget = 0 := by
  have absent : counters.find? (·.key = (screen, widget)) = none := by
    rw [List.find?_eq_none]
    intro counter member found
    have smaller := below counter member
    rw [decide_eq_true_eq.mp found, precedes_irrefl] at smaller
    contradiction
  rw [get, absent]

theorem get_cons (counter : ActedCount) (rest : List ActedCount) (screen widget : Uuid) :
    get (counter :: rest) screen widget =
      if counter.key = (screen, widget) then counter.count else get rest screen widget := by
  by_cases found : counter.key = (screen, widget) <;> simp [get, found]

/-- Counting raises the count of one key and no other. -/
theorem get_increment
    {counters : List ActedCount} (sorted : Sorted counters) (screen widget : Uuid)
    (otherScreen otherWidget : Uuid) :
    get (increment counters screen widget) otherScreen otherWidget =
      get counters otherScreen otherWidget +
        if (screen, widget) = (otherScreen, otherWidget) then 1 else 0 := by
  induction counters with
  | nil =>
      rw [increment, get_cons]
      by_cases counted : (screen, widget) = (otherScreen, otherWidget) <;>
        simp [ActedCount.key, get, counted]
  | cons head rest ih =>
      obtain ⟨first, others⟩ := List.pairwise_cons.mp sorted
      rw [increment]
      split
      case isTrue found =>
        rw [get_cons, get_cons]
        have sameKey : ActedCount.key { head with count := head.count + 1 } = head.key := rfl
        rw [sameKey, found]
        split <;> simp
      case isFalse different =>
        split
        case isTrue before =>
          have new : get (head :: rest) screen widget = 0 := by
            apply get_eq_zero_of_precedes
            intro counter member
            rcases List.mem_cons.mp member with equal | later
            · rw [equal]
              exact before
            · exact precedes_trans before (first counter later)
          rw [get_cons]
          by_cases counted : (screen, widget) = (otherScreen, otherWidget)
          · cases counted
            rw [new]
            simp [ActedCount.key]
          · simp [ActedCount.key, counted]
        case isFalse notBefore =>
          rw [get_cons, get_cons, ih others]
          split
          case isTrue atHead =>
            have uncounted : (screen, widget) ≠ (otherScreen, otherWidget) :=
              fun same => different (atHead.trans same.symm)
            simp [uncounted]
          case isFalse => rfl

end Counters

namespace Store

/-- Count once more for a key, if there is one. -/
def count (store : Store) : Option (Uuid × Uuid) → Store
  | some (screen, widget) => store.increment screen widget
  | none => store

@[simp]
theorem observations_count (store : Store) (key : Option (Uuid × Uuid)) :
    (store.count key).observations = store.observations := by
  rcases key with _ | ⟨screen, widget⟩ <;> rfl

/-- It does not matter whether a screen is recorded before or after a key is counted. -/
theorem count_record (store : Store) (screen : Screen) (key : Option (Uuid × Uuid)) :
    (store.record screen).count key = (store.count key).record screen := by
  rcases key with _ | ⟨keyScreen, keyWidget⟩ <;> rfl

@[simp]
theorem actedCount_record (store : Store) (shown : Screen) (screen widget : Uuid) :
    (store.record shown).actedCount screen widget = store.actedCount screen widget :=
  rfl

theorem sorted_count
    {store : Store} (sorted : Counters.Sorted store.counters) (key : Option (Uuid × Uuid)) :
    Counters.Sorted (store.count key).counters := by
  rcases key with _ | ⟨screen, widget⟩
  · exact sorted
  · exact Counters.sorted_increment sorted screen widget

theorem actedCount_count
    {store : Store} (sorted : Counters.Sorted store.counters) (key : Option (Uuid × Uuid))
    (screen widget : Uuid) :
    (store.count key).actedCount screen widget =
      store.actedCount screen widget + if key = some (screen, widget) then 1 else 0 := by
  rcases key with _ | ⟨keyScreen, keyWidget⟩
  · simp [count]
  · rw [count, actedCount, increment, Counters.get_increment sorted]
    simp [actedCount]

end Store

end GuiExplorer
