import GuiExplorer.Proofs.Playback.Passage

/-!
# The traces of a recording

A recording is cut into traces before each of its resets.  Nothing is lost or reordered, and no
other traces are such a cut: the recorded steps alone decide where each trace ends.
-/

namespace GuiExplorer

namespace Playback

/-- The traces are the recorded steps, cut before each reset, and none of them was replayed. -/
structure CutAtResets (records : List (Action × Screen)) (traces : List PlaybackTrace) : Prop where
  recorded : (stepsOf traces).map (fun entry => (entry.action, entry.screen)) = records
  nonempty : ∀ trace ∈ traces, trace.entries ≠ []
  /-- Only the steps before the first reset are a trace that begins otherwise. -/
  begins : ∀ trace ∈ traces.tail,
    ∃ entry, trace.entries.head? = some entry ∧ entry.action = .reset
  goesOn : ∀ trace ∈ traces, ∀ entry ∈ trace.entries.tail, entry.action ≠ .reset
  fresh : ∀ trace ∈ traces, trace.IsFresh

theorem isReset_iff {action : Action} : action.isReset = true ↔ action = .reset := by
  cases action <;> simp [Action.isReset]

/-! ## A step is added -/

/-- A reset and the first step of all open a trace. -/
theorem addRecord_of_opens
    {action : Action} {traces : List PlaybackTrace} (screen : Screen)
    (opens : traces = [] ∨ action = .reset) :
    addRecord action screen traces = traces ++ [PlaybackTrace.empty.add action screen] := by
  fun_induction addRecord action screen traces with
  | case1 => rfl
  | case2 last restarts => rfl
  | case3 last goesOn =>
      have reset : action = .reset := opens.resolve_left (List.cons_ne_nil _ _)
      exact (goesOn (isReset_iff.mpr reset)).elim
  | case4 first rest several ih =>
      have reset : action = .reset := opens.resolve_left (List.cons_ne_nil _ _)
      rw [ih (.inr reset), List.cons_append]

/-- Any other step goes on with the last trace. -/
theorem addRecord_of_goesOn
    {action : Action} (screen : Screen) (goesOn : action ≠ .reset) (before : List PlaybackTrace)
    (last : PlaybackTrace) :
    addRecord action screen (before ++ [last]) = before ++ [last.add action screen] := by
  have other : ¬ action.isReset = true := fun resets => goesOn (isReset_iff.mp resets)
  induction before with
  | nil => simp only [List.nil_append, addRecord, if_neg other]
  | cons first rest ih =>
      have several : rest ++ [last] ≠ [] := by simp
      obtain ⟨next, later, split⟩ := List.exists_cons_of_ne_nil several
      rw [List.cons_append, split, addRecord, ← split, ih, List.cons_append]
      simp

namespace CutAtResets

variable {records : List (Action × Screen)} {traces : List PlaybackTrace}

theorem nil : CutAtResets [] [] := by
  constructor <;> simp [stepsOf]

/-- A trace of one step is put after the others. -/
theorem opens
    (cut : CutAtResets records traces) {action : Action} (screen : Screen)
    (opens : traces = [] ∨ action = .reset) :
    CutAtResets (records ++ [(action, screen)])
      (traces ++ [PlaybackTrace.empty.add action screen]) where
  recorded := by
    have added := recorded_addRecord action screen traces
    rwa [addRecord_of_opens screen opens, cut.recorded] at added
  nonempty := by
    simpa [or_imp, forall_and, PlaybackTrace.add] using cut.nonempty
  begins := by
    rcases opens with rfl | rfl
    · simp
    · cases traces with
      | nil => simp
      | cons first rest =>
          simpa [or_imp, forall_and, PlaybackTrace.add, PlaybackTrace.empty] using cut.begins
  goesOn := by
    simpa [or_imp, forall_and, PlaybackTrace.add, PlaybackTrace.empty] using cut.goesOn
  fresh := by
    simpa [or_imp, forall_and, PlaybackTrace.isFresh_empty.add] using cut.fresh

/-- The last trace goes on. -/
theorem add
    {before : List PlaybackTrace} {last : PlaybackTrace}
    (cut : CutAtResets records (before ++ [last])) {action : Action} (screen : Screen)
    (goesOn : action ≠ .reset) :
    CutAtResets (records ++ [(action, screen)]) (before ++ [last.add action screen]) := by
  obtain ⟨recorded, nonempty, begins, inside, fresh⟩ := cut
  simp only [List.mem_append, List.mem_singleton, or_imp, forall_and, forall_eq]
    at nonempty inside fresh
  have added := recorded_addRecord action screen (before ++ [last])
  rw [addRecord_of_goesOn screen goesOn, recorded] at added
  obtain ⟨first, later, entries⟩ := List.exists_cons_of_ne_nil nonempty.2
  have lastInside := inside.2
  rw [entries, List.tail_cons] at lastInside
  refine ⟨added, ?_, ?_, ?_, ?_⟩
  · simpa [or_imp, forall_and, PlaybackTrace.add] using nonempty.1
  · cases before with
    | nil => simp
    | cons head rest =>
        simpa [or_imp, forall_and, PlaybackTrace.add, entries] using begins
  · simpa [or_imp, forall_and, PlaybackTrace.add, entries, goesOn] using ⟨inside.1, lastInside⟩
  · simpa [or_imp, forall_and, fresh.2.add] using fresh.1

theorem addRecord
    (cut : CutAtResets records traces) (action : Action) (screen : Screen) :
    CutAtResets (records ++ [(action, screen)]) (Playback.addRecord action screen traces) := by
  by_cases opens : traces = [] ∨ action = .reset
  · rw [addRecord_of_opens screen opens]
    exact cut.opens screen opens
  · obtain ⟨begun, goesOn⟩ := not_or.mp opens
    obtain ⟨before, last, rfl⟩ := (List.eq_nil_or_concat' traces).resolve_left begun
    rw [addRecord_of_goesOn screen goesOn]
    exact cut.add screen goesOn

end CutAtResets

theorem cutAtResets_ofRecords (package : String) (records : List (Action × Screen)) :
    CutAtResets records (ofRecords package records).traces := by
  have steps (before : List (Action × Screen)) (traces : List PlaybackTrace)
      (cut : CutAtResets before traces) :
      CutAtResets (before ++ records)
        (records.foldl (fun traces record => addRecord record.1 record.2 traces) traces) := by
    induction records generalizing before traces with
    | nil => simpa using cut
    | cons record rest ih =>
        have added := ih _ _ (cut.addRecord record.1 record.2)
        rwa [List.append_assoc] at added
  exact steps [] [] .nil

/-! ## There is one cut -/

/-- A list is split in one way into items without a property and a rest that begins with it. -/
theorem append_inj_of_border
    {α : Type} {property : α → Bool} {left right other rest : List α}
    (inside : ∀ item ∈ left, property item = false)
    (border : ∀ item ∈ right.head?, property item = true)
    (otherInside : ∀ item ∈ other, property item = false)
    (otherBorder : ∀ item ∈ rest.head?, property item = true)
    (same : left ++ right = other ++ rest) : left = other ∧ right = rest := by
  have cut {left right : List α} (inside : ∀ item ∈ left, property item = false)
      (border : ∀ item ∈ right.head?, property item = true) :
      (left ++ right).takeWhile (!property ·) = left := by
    rw [List.takeWhile_append_of_pos (by simpa using inside)]
    cases right with
    | nil => simp
    | cons item later => simp [border item rfl]
  have equal : left = other := by rw [← cut inside border, same, cut otherInside otherBorder]
  subst equal
  exact ⟨rfl, List.append_cancel_left same⟩

namespace CutAtResets

variable {records : List (Action × Screen)} {trace : PlaybackTrace}
  {traces rest : List PlaybackTrace}

theorem tail (cut : CutAtResets records (trace :: rest)) :
    CutAtResets ((stepsOf rest).map fun entry => (entry.action, entry.screen)) rest where
  recorded := rfl
  nonempty := fun other member => cut.nonempty other (List.mem_cons_of_mem _ member)
  begins := fun other member => cut.begins other (List.mem_of_mem_tail member)
  goesOn := fun other member => cut.goesOn other (List.mem_cons_of_mem _ member)
  fresh := fun other member => cut.fresh other (List.mem_cons_of_mem _ member)

/-- The steps are known from their records, since none was replayed. -/
theorem stepsOf_eq (cut : CutAtResets records traces) :
    stepsOf traces = records.map fun record => ⟨record.1, record.2, false⟩ := by
  rw [← cut.recorded, List.map_map]
  refine (List.map_id _).symm.trans (List.map_congr_left fun entry member => ?_)
  obtain ⟨trace, known, inTrace⟩ := List.mem_flatMap.mp member
  rw [Function.comp_apply, ← (cut.fresh trace known).unexplored entry inTrace, id]

/-- The first trace is one step and those after it that are no resets. -/
theorem head (cut : CutAtResets records (trace :: rest)) :
    ∃ first later, trace = ⟨first :: later, 0⟩ ∧
      ∀ entry ∈ later, entry.action.isReset = false := by
  obtain ⟨first, later, entries⟩ :=
    List.exists_cons_of_ne_nil (cut.nonempty trace List.mem_cons_self)
  have goesOn := cut.goesOn trace List.mem_cons_self
  have cursor := (cut.fresh trace List.mem_cons_self).cursor
  refine ⟨first, later, by rw [← entries, ← cursor], fun entry member => ?_⟩
  rw [entries] at goesOn
  exact Bool.eq_false_iff.mpr fun resets => goesOn entry member (isReset_iff.mp resets)

/-- What follows the first trace begins with a reset. -/
theorem border (cut : CutAtResets records (trace :: rest)) :
    ∀ entry ∈ (stepsOf rest).head?, entry.action.isReset = true := by
  cases rest with
  | nil => simp [stepsOf]
  | cons next others =>
      obtain ⟨first, begins, reset⟩ := cut.begins next List.mem_cons_self
      rw [stepsOf_cons, List.head?_append, begins]
      rintro entry ⟨⟩
      exact isReset_iff.mpr reset

theorem unique {others : List PlaybackTrace}
    (cut : CutAtResets records traces) (otherCut : CutAtResets records others) :
    others = traces := by
  have steps : stepsOf others = stepsOf traces := otherCut.stepsOf_eq.trans cut.stepsOf_eq.symm
  induction traces generalizing records others with
  | nil =>
      cases others with
      | nil => rfl
      | cons other others =>
          obtain ⟨first, later, rfl, -⟩ := otherCut.head
          cases steps
  | cons trace rest ih =>
      obtain ⟨first, later, rfl, inside⟩ := cut.head
      cases others with
      | nil => cases steps
      | cons other others =>
          obtain ⟨otherFirst, otherLater, rfl, otherInside⟩ := otherCut.head
          rw [stepsOf_cons, stepsOf_cons, List.cons_append, List.cons_append] at steps
          obtain ⟨sameFirst, sameRest⟩ := List.cons.inj steps
          -- In both cuts the first trace goes on up to the next reset, hence equally far.
          obtain ⟨sameLater, same⟩ :=
            append_inj_of_border otherInside otherCut.border inside cut.border sameRest
          have tails := ih cut.tail (same ▸ otherCut.tail) same
          rw [sameFirst, sameLater, tails]

/-- In the first trace only the first step may be a reset. -/
theorem countP_head (cut : CutAtResets records (trace :: rest)) :
    trace.entries.countP (·.action.isReset) =
      if (stepsOf (trace :: rest)).head?.any (·.action.isReset) then 1 else 0 := by
  obtain ⟨first, later, rfl, inside⟩ := cut.head
  have noOther : later.countP (·.action.isReset) = 0 := by
    simpa [List.countP_eq_zero] using inside
  rw [List.countP_cons, noOther, Nat.zero_add]
  rfl

/-- If the first step is a reset, there are as many resets as traces. -/
theorem countP_eq_length
    (cut : CutAtResets records traces)
    (border : ∀ entry ∈ (stepsOf traces).head?, entry.action.isReset = true) :
    (stepsOf traces).countP (·.action.isReset) = traces.length := by
  induction traces generalizing records with
  | nil => rfl
  | cons trace rest ih =>
      have opened := cut.countP_head
      obtain ⟨first, later, rfl, -⟩ := cut.head
      have reset : first.action.isReset = true := border first rfl
      rw [stepsOf_cons, List.head?_append, List.head?_cons, Option.some_or, Option.any_some, reset,
        if_pos rfl] at opened
      rw [stepsOf_cons, List.countP_append, opened, ih cut.tail cut.border, List.length_cons,
        Nat.add_comm]

/-- Each reset opens a trace, and so does a first step that is no reset. -/
theorem length_eq (cut : CutAtResets records traces) :
    traces.length = records.countP (·.1.isReset) +
      if records.head?.any (!·.1.isReset) then 1 else 0 := by
  have resets : records.countP (·.1.isReset) = (stepsOf traces).countP (·.action.isReset) := by
    rw [← cut.recorded, List.countP_map]
    rfl
  have start : records.head?.any (!·.1.isReset) =
      (stepsOf traces).head?.any (!·.action.isReset) := by
    rw [← cut.recorded, List.head?_map, Option.any_map]
  rw [resets, start]
  cases traces with
  | nil => rfl
  | cons trace rest =>
      have opened := cut.countP_head
      obtain ⟨first, later, rfl, -⟩ := cut.head
      rw [stepsOf_cons, List.countP_append, opened, cut.tail.countP_eq_length cut.border]
      cases reset : first.action.isReset <;> simp [reset, Nat.add_comm]

end CutAtResets

/-- The traces of a recording are its cut at the resets, and the only one: the recorded steps in
order, with none lost, in traces that are not empty and hold no reset but as their first step, as
which all but the first trace have one.  There are as many traces as resets, and one more if the
recording begins otherwise. -/
theorem ofRecords_cuts (package : String) (records : List (Action × Screen)) :
    let traces := (ofRecords package records).traces
    (∀ others, CutAtResets records others ↔ others = traces) ∧
    traces.length = records.countP (·.1.isReset) +
      if records.head?.any (!·.1.isReset) then 1 else 0 := by
  have cut := cutAtResets_ofRecords package records
  exact ⟨fun others => ⟨cut.unique, fun same => same ▸ cut⟩, cut.length_eq⟩

end Playback

end GuiExplorer
