import GuiExplorer.Playback.Replay
import Mathlib.Data.List.Forall2

/-!
# The passage of a playback

The traces of a playback are passed in order: none is begun before all earlier
ones are complete.  So the steps of all traces make one sequence with one border
between the steps that were passed and those that are pending, and a search for
the next action moves that border.
-/

namespace GuiExplorer

/-- The step is marked as replayed. -/
def TraceEntry.replayed (entry : TraceEntry) : TraceEntry :=
  { entry with explored := true }

namespace PlaybackTrace

/-- Nothing of the trace was passed or replayed yet. -/
structure IsFresh (trace : PlaybackTrace) : Prop where
  cursor : trace.cursor = 0
  unexplored : ∀ entry ∈ trace.entries, entry.explored = false

theorem IsFresh.add
    {trace : PlaybackTrace} (fresh : trace.IsFresh) (action : Action) (screen : Screen) :
    (trace.add action screen).IsFresh := by
  refine ⟨fresh.cursor, ?_⟩
  intro entry member
  rcases List.mem_append.mp member with before | last
  · exact fresh.unexplored entry before
  · rw [List.mem_singleton.mp last]

theorem isFresh_empty : empty.IsFresh :=
  ⟨rfl, by simp [empty]⟩

/-- The cursor has moved forward, and the recorded steps are the same. -/
structure Advances (before after : PlaybackTrace) : Prop where
  cursor : before.cursor ≤ after.cursor
  recorded : after.entries.map (fun entry => (entry.action, entry.screen)) =
    before.entries.map (fun entry => (entry.action, entry.screen))

theorem Advances.refl (trace : PlaybackTrace) : trace.Advances trace :=
  ⟨Nat.le_refl _, rfl⟩

theorem advances_advance (trace : PlaybackTrace) (count : Nat) :
    trace.Advances (trace.advance count) :=
  ⟨Nat.le_add_right _ _, rfl⟩

theorem explore_advance_succ (trace : PlaybackTrace) (count : Nat) :
    (trace.advance (count + 1)).explore =
      ⟨trace.entries.modify (trace.cursor + count) TraceEntry.replayed,
        trace.cursor + count + 1⟩ :=
  rfl

theorem recorded_modify (entries : List TraceEntry) (position : Nat) :
    (entries.modify position TraceEntry.replayed).map
        (fun entry => (entry.action, entry.screen)) =
      entries.map (fun entry => (entry.action, entry.screen)) := by
  apply List.ext_getElem?
  intro other
  rw [List.getElem?_map, List.getElem?_map, List.getElem?_modify]
  split <;> cases entries[other]? <;> rfl

theorem advances_explore (trace : PlaybackTrace) (count : Nat) :
    trace.Advances (trace.advance (count + 1)).explore := by
  rw [explore_advance_succ]
  exact ⟨by dsimp only; omega, recorded_modify _ _⟩

end PlaybackTrace

namespace Playback

private theorem modify_append_left
    {left right : List TraceEntry} {position : Nat} (within : position < left.length)
    (change : TraceEntry → TraceEntry) :
    (left ++ right).modify position change = left.modify position change ++ right := by
  induction left generalizing position with
  | nil => contradiction
  | cons entry rest ih =>
      cases position with
      | zero => rfl
      | succ position => simp [ih (Nat.lt_of_succ_lt_succ within)]

private theorem modify_append_right
    (left right : List TraceEntry) (position : Nat) (change : TraceEntry → TraceEntry) :
    (left ++ right).modify (left.length + position) change =
      left ++ right.modify position change := by
  induction left with
  | nil => simp
  | cons entry rest ih => simpa [Nat.succ_add] using ih

theorem isFresh_of_mem_addRecord
    {action : Action} {screen : Screen} {traces : List PlaybackTrace}
    (fresh : ∀ trace ∈ traces, trace.IsFresh) :
    ∀ trace ∈ addRecord action screen traces, trace.IsFresh := by
  have new := PlaybackTrace.isFresh_empty.add action screen
  fun_induction addRecord action screen traces with
  | case1 => simpa using new
  | case2 last restarts => simpa using ⟨fresh last List.mem_cons_self, new⟩
  | case3 last goesOn => simpa using (fresh last List.mem_cons_self).add action screen
  | case4 first rest several ih =>
      intro trace member
      rcases List.mem_cons.mp member with old | later
      · exact old ▸ fresh first List.mem_cons_self
      · exact ih (fun other known => fresh other (List.mem_cons_of_mem _ known)) trace later

theorem isFresh_of_mem_ofRecords
    (package : String) (records : List (Action × Screen)) :
    ∀ trace ∈ (ofRecords package records).traces, trace.IsFresh := by
  have steps (traces : List PlaybackTrace) (fresh : ∀ trace ∈ traces, trace.IsFresh) :
      ∀ trace ∈ records.foldl (fun traces record => addRecord record.1 record.2 traces) traces,
        trace.IsFresh := by
    induction records generalizing traces with
    | nil => exact fresh
    | cons record rest ih => exact ih _ (isFresh_of_mem_addRecord fresh)
  exact steps [] (by simp)

/-- All recorded steps, one trace after another. -/
def stepsOf (traces : List PlaybackTrace) : List TraceEntry :=
  traces.flatMap PlaybackTrace.entries

/-- How many steps were passed. -/
def passedIn : List PlaybackTrace → Nat
  | [] => 0
  | trace :: rest => trace.cursor + passedIn rest

/-- The steps from the cursors on. -/
def pendingOf (traces : List PlaybackTrace) : List TraceEntry :=
  traces.flatMap PlaybackTrace.pending

@[simp]
theorem stepsOf_cons (trace : PlaybackTrace) (rest : List PlaybackTrace) :
    stepsOf (trace :: rest) = trace.entries ++ stepsOf rest :=
  rfl

@[simp]
theorem passedIn_cons (trace : PlaybackTrace) (rest : List PlaybackTrace) :
    passedIn (trace :: rest) = trace.cursor + passedIn rest :=
  rfl

@[simp]
theorem pendingOf_cons (trace : PlaybackTrace) (rest : List PlaybackTrace) :
    pendingOf (trace :: rest) = trace.pending ++ pendingOf rest :=
  rfl

theorem recorded_addRecord (action : Action) (screen : Screen) (traces : List PlaybackTrace) :
    (stepsOf (addRecord action screen traces)).map (fun entry => (entry.action, entry.screen)) =
      (stepsOf traces).map (fun entry => (entry.action, entry.screen)) ++ [(action, screen)] := by
  fun_induction addRecord action screen traces with
  | case1 => rfl
  | case2 last restarts => simp [stepsOf, PlaybackTrace.add, PlaybackTrace.empty]
  | case3 last goesOn => simp [stepsOf, PlaybackTrace.add]
  | case4 first rest several ih =>
      rw [stepsOf_cons, stepsOf_cons, List.map_append, List.map_append, ih, List.append_assoc]

theorem recorded_ofRecords (package : String) (records : List (Action × Screen)) :
    (stepsOf (ofRecords package records).traces).map (fun entry => (entry.action, entry.screen)) =
      records := by
  have added (traces : List PlaybackTrace) :
      (stepsOf (records.foldl (fun traces record => addRecord record.1 record.2 traces)
          traces)).map (fun entry => (entry.action, entry.screen)) =
        (stepsOf traces).map (fun entry => (entry.action, entry.screen)) ++ records := by
    induction records generalizing traces with
    | nil => simp
    | cons record rest ih =>
        rw [List.foldl_cons, ih, recorded_addRecord, List.append_assoc]
        rfl
  exact added []

/-- No cursor is past the end of its trace, and no trace was begun before all
earlier ones were complete. -/
structure InOrder (traces : List PlaybackTrace) : Prop where
  bounded : ∀ trace ∈ traces, trace.cursor ≤ trace.entries.length
  ordered : traces.Pairwise fun earlier later => 0 < later.cursor → earlier.isComplete = true

namespace InOrder

variable {trace : PlaybackTrace} {rest : List PlaybackTrace}

theorem head (inOrder : InOrder (trace :: rest)) : trace.cursor ≤ trace.entries.length :=
  inOrder.bounded trace List.mem_cons_self

theorem tail (inOrder : InOrder (trace :: rest)) : InOrder rest where
  bounded := fun other member => inOrder.bounded other (List.mem_cons_of_mem _ member)
  ordered := (List.pairwise_cons.mp inOrder.ordered).2

theorem unbegun
    (inOrder : InOrder (trace :: rest)) (incomplete : trace.cursor < trace.entries.length) :
    ∀ later ∈ rest, later.cursor = 0 := by
  intro later member
  have ordered := (List.pairwise_cons.mp inOrder.ordered).1 later member
  by_cases begun : later.cursor = 0
  · exact begun
  · have complete := ordered (Nat.pos_of_ne_zero begun)
    simp only [PlaybackTrace.isComplete, decide_eq_true_eq] at complete
    omega

theorem passedIn_unbegun
    {traces : List PlaybackTrace} (unbegun : ∀ trace ∈ traces, trace.cursor = 0) :
    passedIn traces = 0 := by
  induction traces with
  | nil => rfl
  | cons trace rest ih =>
      rw [passedIn, unbegun trace List.mem_cons_self,
        ih fun later member => unbegun later (List.mem_cons_of_mem _ member)]

/-- A first trace may be put before traces that were not begun, or, if it is complete,
before any. -/
theorem cons
    {first : PlaybackTrace} (inOrder : InOrder rest)
    (bounded : first.cursor ≤ first.entries.length)
    (ordered : first.isComplete = true ∨ ∀ later ∈ rest, later.cursor = 0) :
    InOrder (first :: rest) where
  bounded := by
    intro trace member
    rcases List.mem_cons.mp member with here | there
    · exact here ▸ bounded
    · exact inOrder.bounded trace there
  ordered := by
    refine List.pairwise_cons.mpr ⟨?_, inOrder.ordered⟩
    intro later member begun
    rcases ordered with complete | unbegun
    · exact complete
    · exact absurd (unbegun later member) (Nat.pos_iff_ne_zero.mp begun)

/-- The pending steps are those past the border. -/
theorem pendingOf_eq_drop {traces : List PlaybackTrace} (inOrder : InOrder traces) :
    pendingOf traces = (stepsOf traces).drop (passedIn traces) := by
  induction traces with
  | nil => rfl
  | cons trace rest ih =>
      have within := inOrder.head
      have later := ih inOrder.tail
      rw [pendingOf_cons, stepsOf_cons, passedIn_cons, List.drop_append, later,
        PlaybackTrace.pending]
      rcases Nat.lt_or_ge trace.cursor trace.entries.length with incomplete | complete
      · have none : passedIn rest = 0 := passedIn_unbegun (inOrder.unbegun incomplete)
        rw [none]
        congr 2
        omega
      · have exact : trace.cursor = trace.entries.length := Nat.le_antisymm within complete
        rw [exact, Nat.add_sub_cancel_left]
        simp

end InOrder

/-! ## What a search passes -/

/-- A step that can be skipped on the live screen. -/
def IsSkipped (context : Context) (entry : TraceEntry) : Prop :=
  ∃ later, replay context entry later = none

/-- Where a scan of steps ends: all before the last step that it passed were skipped. -/
inductive Scanned (context : Context) : List TraceEntry → Nat → ScanEnd → Prop where
  | found (skipped : List TraceEntry) {later : List TraceEntry} {entry : TraceEntry}
      {action : Action}
      (skips : ∀ step ∈ skipped, IsSkipped context step)
      (replays : replay context entry later = some action) :
      Scanned context (skipped ++ entry :: later) (skipped.length + 1) (.found action)
  | exhausted (skipped : List TraceEntry) {count : Nat}
      (skips : ∀ step ∈ skipped, IsSkipped context step) :
      Scanned context skipped skipped.length (.exhausted count)
  | tooMany (skipped : List TraceEntry) {later : List TraceEntry} {count : Nat}
      (skips : ∀ step ∈ skipped, IsSkipped context step) (some : skipped ≠ []) :
      Scanned context (skipped ++ later) skipped.length (.tooMany count)

theorem Scanned.cons
    {context : Context} {entry : TraceEntry} {later : List TraceEntry} {passed : Nat}
    {ending : ScanEnd} (scanned : Scanned context later passed ending)
    (skipped : IsSkipped context entry) :
    Scanned context (entry :: later) (passed + 1) ending := by
  have all {steps : List TraceEntry} (skips : ∀ step ∈ steps, IsSkipped context step) :
      ∀ step ∈ entry :: steps, IsSkipped context step := by
    intro step member
    rcases List.mem_cons.mp member with here | there
    · exact here ▸ skipped
    · exact skips step there
  cases scanned with
  | found steps skips replays => exact .found (entry :: steps) (all skips) replays
  | exhausted _ skips => exact .exhausted (entry :: later) (all skips)
  | tooMany steps skips some =>
      exact .tooMany (entry :: steps) (all skips) (List.cons_ne_nil _ _)

theorem scan_scanned (context : Context) (maxSkips skipped : Nat) (entries : List TraceEntry) :
    Scanned context entries (scan context maxSkips skipped entries).1
      (scan context maxSkips skipped entries).2 := by
  induction entries generalizing skipped with
  | nil => exact .exhausted [] (by simp)
  | cons entry later ih =>
      cases replayed : replay context entry later with
      | some action =>
          simp only [scan, replayed]
          exact .found [] (by simp) replayed
      | none =>
          simp only [scan, replayed]
          by_cases many : maxSkips < skipped + 1
          · rw [if_pos many]
            exact .tooMany [entry] (by simpa using ⟨later, replayed⟩) (by simp)
          · rw [if_neg many]
            exact (ih (skipped + 1)).cons ⟨later, replayed⟩

/-- What a search for the next action does to the traces and answers. -/
inductive Sought (context : Context) (before after : List PlaybackTrace) :
    Except StrategyError Action → Prop where
  /-- A step is replayed after some were skipped. -/
  | replayed (skipped rest : List TraceEntry) {later : List TraceEntry} {entry : TraceEntry}
      {action : Action}
      (pending : pendingOf before = skipped ++ entry :: rest)
      (skips : ∀ step ∈ skipped, IsSkipped context step)
      (replays : replay context entry later = some action)
      (marked : stepsOf after =
        (stepsOf before).modify (passedIn before + skipped.length) TraceEntry.replayed)
      (reached : passedIn after = passedIn before + skipped.length + 1) :
      Sought context before after (.ok action)
  /-- All pending steps were skipped. -/
  | finished
      (skips : ∀ step ∈ pendingOf before, IsSkipped context step)
      (same : stepsOf after = stepsOf before)
      (complete : ∀ trace ∈ after, trace.isComplete = true) :
      Sought context before after (.ok .terminate)
  /-- Too many steps were skipped. -/
  | tooMany (skipped rest : List TraceEntry) {count : Nat}
      (pending : pendingOf before = skipped ++ rest)
      (skips : ∀ step ∈ skipped, IsSkipped context step) (some : skipped ≠ [])
      (same : stepsOf after = stepsOf before)
      (reached : passedIn after = passedIn before + skipped.length) :
      Sought context before after (.error (.skipLimitExceeded count))

/-- A search that goes on after a trace whose pending steps were all skipped. -/
theorem Sought.cons
    {context : Context} {before after : List PlaybackTrace} {trace : PlaybackTrace}
    {result : Except StrategyError Action}
    (sought : Sought context before after result) (within : trace.cursor ≤ trace.entries.length)
    (skipped : ∀ step ∈ trace.pending, IsSkipped context step) :
    Sought context (trace :: before) (trace.advance trace.pending.length :: after) result := by
  have all {steps : List TraceEntry} (skips : ∀ step ∈ steps, IsSkipped context step) :
      ∀ step ∈ trace.pending ++ steps, IsSkipped context step := by
    intro step member
    rcases List.mem_append.mp member with here | there
    · exact skipped step here
    · exact skips step there
  have length : trace.cursor + trace.pending.length = trace.entries.length := by
    rw [PlaybackTrace.pending, List.length_drop]
    omega
  cases sought with
  | @replayed steps rest later entry action pending skips replays marked reached =>
      refine .replayed (trace.pending ++ steps) rest ?_ (all skips) replays ?_ ?_
      · rw [pendingOf_cons, pending, List.append_assoc]
      · have position : passedIn (trace :: before) + (trace.pending ++ steps).length =
            trace.entries.length + (passedIn before + steps.length) := by
          rw [passedIn_cons, List.length_append]
          omega
        rw [stepsOf_cons, stepsOf_cons, position, modify_append_right, marked]
        rfl
      · rw [passedIn_cons, passedIn_cons, List.length_append, PlaybackTrace.advance]
        dsimp only
        omega
  | finished skips same complete =>
      refine .finished ?_ ?_ ?_
      · exact all skips
      · rw [stepsOf_cons, stepsOf_cons, same]
        rfl
      · intro other member
        rcases List.mem_cons.mp member with here | there
        · rw [here]
          exact decide_eq_true (Nat.le_of_eq length.symm)
        · exact complete other there
  | @tooMany steps rest count pending skips some same reached =>
      refine .tooMany (trace.pending ++ steps) rest ?_ (all skips)
        (List.append_ne_nil_of_right_ne_nil _ some) ?_ ?_
      · rw [pendingOf_cons, pending, List.append_assoc]
      · rw [stepsOf_cons, stepsOf_cons, same]
        rfl
      · rw [passedIn_cons, passedIn_cons, List.length_append, PlaybackTrace.advance]
        dsimp only
        omega

/-- A search that ends in the first trace, at a step that is replayed. -/
theorem Sought.of_found
    {context : Context} {trace : PlaybackTrace} {rest : List PlaybackTrace}
    {skipped later : List TraceEntry} {entry : TraceEntry} {action : Action}
    (inOrder : InOrder (trace :: rest)) (pending : trace.pending = skipped ++ entry :: later)
    (skips : ∀ step ∈ skipped, IsSkipped context step)
    (replays : replay context entry later = some action) :
    Sought context (trace :: rest) ((trace.advance (skipped.length + 1)).explore :: rest)
      (.ok action) ∧
      InOrder ((trace.advance (skipped.length + 1)).explore :: rest) := by
  have within : trace.cursor + skipped.length < trace.entries.length := by
    have length := congrArg List.length pending
    rw [PlaybackTrace.pending, List.length_drop, List.length_append, List.length_cons] at length
    omega
  have unbegun := inOrder.unbegun (Nat.lt_of_le_of_lt (Nat.le_add_right _ _) within)
  have none : passedIn rest = 0 := InOrder.passedIn_unbegun unbegun
  have before : passedIn (trace :: rest) = trace.cursor := by
    rw [passedIn_cons, none, Nat.add_zero]
  refine ⟨.replayed skipped (later ++ pendingOf rest) ?_ skips replays ?_ ?_,
    inOrder.tail.cons ?_ (.inr unbegun)⟩
  · rw [pendingOf_cons, pending, List.append_assoc, List.cons_append]
  · rw [before, PlaybackTrace.explore_advance_succ, stepsOf_cons, stepsOf_cons,
      modify_append_left within]
  · rw [before, PlaybackTrace.explore_advance_succ, passedIn_cons, none, Nat.add_zero]
  · rw [PlaybackTrace.explore_advance_succ, List.length_modify]
    exact within

/-- A search in traces that are passed in order keeps them so, moves cursors only
forward, and passes steps up to the one that it replays. -/
theorem seek_sought
    (context : Context) (maxSkips skipped : Nat) {traces : List PlaybackTrace}
    (inOrder : InOrder traces) :
    Sought context traces (seek context maxSkips skipped traces).2
        (seek context maxSkips skipped traces).1 ∧
      InOrder (seek context maxSkips skipped traces).2 ∧
      List.Forall₂ PlaybackTrace.Advances traces (seek context maxSkips skipped traces).2 := by
  have same (rest : List PlaybackTrace) : List.Forall₂ PlaybackTrace.Advances rest rest :=
    List.forall₂_same.mpr fun trace _ => PlaybackTrace.Advances.refl trace
  induction traces generalizing skipped with
  | nil => exact ⟨.finished (by simp [pendingOf]) rfl (by simp [seek]), inOrder, .nil⟩
  | cons trace rest ih =>
      have scanned := scan_scanned context maxSkips skipped trace.pending
      rcases result : scan context maxSkips skipped trace.pending with ⟨passed, ending⟩
      rw [result] at scanned
      generalize pending : trace.pending = steps at scanned
      cases scanned with
      | @found skips later entry action skipping replays =>
          simp only [seek, result]
          obtain ⟨sought, kept⟩ := Sought.of_found inOrder pending skipping replays
          exact ⟨sought, kept, .cons (trace.advances_explore _) (same rest)⟩
      | @exhausted _ count skipping =>
          simp only [seek, result]
          obtain ⟨sought, kept, advances⟩ := ih count inOrder.tail
          have length : trace.cursor + trace.pending.length = trace.entries.length := by
            have within := inOrder.head
            rw [PlaybackTrace.pending, List.length_drop]
            omega
          rw [← pending] at skipping ⊢
          exact ⟨sought.cons inOrder.head skipping,
            kept.cons (Nat.le_of_eq length) (.inl (decide_eq_true (Nat.le_of_eq length.symm))),
            .cons (trace.advances_advance _) advances⟩
      | @tooMany skips later count skipping some =>
          simp only [seek, result]
          have within : trace.cursor + skips.length ≤ trace.entries.length := by
            have length := congrArg List.length pending
            have bounded := inOrder.head
            rw [PlaybackTrace.pending, List.length_drop, List.length_append] at length
            omega
          refine ⟨.tooMany skips (later ++ pendingOf rest) ?_ skipping some rfl ?_,
            inOrder.tail.cons within ?_, .cons (trace.advances_advance _) (same rest)⟩
          · rw [pendingOf_cons, pending, List.append_assoc]
          · rw [passedIn_cons, passedIn_cons, PlaybackTrace.advance]
            dsimp only
            omega
          · have positive : 0 < skips.length := List.length_pos_iff.mpr some
            exact .inr (inOrder.unbegun (by omega))

end Playback

end GuiExplorer
