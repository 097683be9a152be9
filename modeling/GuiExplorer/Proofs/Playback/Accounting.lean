import GuiExplorer.Proofs.Playback.Passage
import GuiExplorer.Proofs.Screen.Matching
import Mathlib.Logic.ExistsUnique

/-!
# What a playback replays

A playback is asked for one action after another, each time on another live
screen.  Whatever the screens are, it accounts for its steps: a step is marked
as replayed if and only if one of the answers replays it, and answers replay the
steps in the order in which they were recorded.
-/

namespace GuiExplorer

/-- The action replays a recorded one on the live screen: it is the same, but for
a live widget that is structurally equal to the recorded one at whatever position. -/
inductive Action.Replays (screen : Screen) : (recorded action : Action) → Prop where
  | plain {action : Action} (noWidget : action.widget? = none) : Replays screen action action
  | onWidget {recorded live : Widget} {gesture : Gesture} (shown : live ∈ screen.widgets)
      (same : live.matchesAnywhere recorded = true) :
      Replays screen (.onWidget recorded gesture) (.onWidget live gesture)

namespace Playback

theorem mem_of_findExact
    {context : Context} {recorded live : Widget} (found : context.findExact recorded = some live) :
    live ∈ context.screen.widgets ∧ live.matchesExactly recorded = true := by
  unfold Context.findExact Screen.findExact at found
  have same := List.find?_some found
  exact ⟨List.mem_of_find?_eq_some found, same⟩

theorem mem_of_findAnywhere
    {context : Context} {recorded live : Widget}
    (found : context.findAnywhere recorded = some live) :
    live ∈ context.screen.widgets ∧ live.matchesAnywhere recorded = true := by
  unfold Context.findAnywhere Screen.findAnywhere at found
  split at found
  · contradiction
  · have same := List.find?_some found
    exact ⟨List.mem_of_find?_eq_some found, same⟩

theorem replays_of_replay
    {context : Context} {entry : TraceEntry} {later : List TraceEntry} {action : Action}
    (replayed : replay context entry later = some action) :
    Action.Replays context.screen entry.action action := by
  unfold replay at replayed
  split at replayed
  case h_1 widget gesture recorded =>
    rw [recorded]
    rw [Option.map_eq_some_iff] at replayed
    obtain ⟨live, found, same⟩ := replayed
    rw [← same]
    rcases Option.or_eq_some_iff.mp found with exact | ⟨-, anywhere⟩
    · obtain ⟨shown, equal⟩ := mem_of_findExact exact
      exact .onWidget shown (Widget.matchesAnywhere_of_matchesExactly equal)
    · obtain ⟨shown, equal⟩ := mem_of_findAnywhere anywhere
      exact .onWidget shown equal
  case h_2 recorded =>
    have same : action = .pressBack := by
      split at replayed
      · contradiction
      · split at replayed
        · cases replayed
          rfl
        · dsimp only at replayed
          split at replayed
          · contradiction
          · cases replayed
            rfl
    rw [recorded, same]
    exact .plain rfl
  case h_3 onWidget pressBack =>
    cases replayed
    apply Action.Replays.plain
    cases recorded : entry.action with
    | onWidget widget gesture => exact (onWidget widget gesture recorded).elim
    | _ => rfl

theorem not_terminate_of_isSkipped
    {context : Context} {entry : TraceEntry} (skipped : IsSkipped context entry) :
    entry.action ≠ .terminate := by
  obtain ⟨later, skipped⟩ := skipped
  intro recorded
  simp [replay, recorded] at skipped

/-- One request for an action. -/
structure Call where
  before : Playback
  context : Context
  result : Except StrategyError Action
  after : Playback

/-- The answer replays the step at the position: it is the last of the steps that
the call passed. -/
structure Call.Emits (call : Call) (position : Nat) : Prop where
  pending : passedIn call.before.traces ≤ position
  last : passedIn call.after.traces = position + 1
  replays : ∃ entry action, (stepsOf call.before.traces)[position]? = some entry ∧
    call.result = .ok action ∧ Action.Replays call.context.screen entry.action action

/-- The request for an action on the live screen of a context. -/
def call (playback : Playback) (context : Context) : Call :=
  ⟨playback, context, (playback.next context).1, (playback.next context).2⟩

/-- Requests in one context after another. -/
def calls : Playback → List Context → List Call
  | _, [] => []
  | playback, context :: later =>
      playback.call context :: calls (playback.next context).2 later

/-- The playback after requests in one context after another. -/
def afterCalls (playback : Playback) (contexts : List Context) : Playback :=
  contexts.foldl (fun playback context => (playback.next context).2) playback

/-- The traces are passed in order, and what is pending was not replayed. -/
structure Kept (traces : List PlaybackTrace) : Prop where
  inOrder : InOrder traces
  unexplored : ∀ entry ∈ pendingOf traces, entry.explored = false

theorem kept_of_isFresh
    {traces : List PlaybackTrace} (fresh : ∀ trace ∈ traces, trace.IsFresh) : Kept traces where
  inOrder :=
    { bounded := fun trace member => by rw [(fresh trace member).cursor]; exact Nat.zero_le _
      ordered := List.pairwise_of_forall_mem_list fun _ _ later member begun => by
        rw [(fresh later member).cursor] at begun
        contradiction }
  unexplored := by
    intro entry member
    obtain ⟨trace, traceMember, pending⟩ := List.mem_flatMap.mp member
    exact (fresh trace traceMember).unexplored entry (List.mem_of_mem_drop pending)

/-! ## One request -/

theorem next_sought
    {playback : Playback} (context : Context) (inOrder : InOrder playback.traces) :
    Sought context playback.traces (playback.next context).2.traces (playback.next context).1 ∧
      InOrder (playback.next context).2.traces ∧
      List.Forall₂ PlaybackTrace.Advances playback.traces (playback.next context).2.traces :=
  seek_sought context playback.maxSkips 0 inOrder

/-- A recording that was replayed to its end terminates and does not change. -/
theorem seek_of_complete
    (context : Context) (maxSkips skipped : Nat) {traces : List PlaybackTrace}
    (complete : ∀ trace ∈ traces, trace.isComplete = true) :
    seek context maxSkips skipped traces = (.ok .terminate, traces) := by
  induction traces with
  | nil => rfl
  | cons trace rest ih =>
      have finished : trace.entries.length ≤ trace.cursor :=
        of_decide_eq_true (complete trace List.mem_cons_self)
      have none : trace.pending = [] := List.drop_eq_nil_of_le finished
      simp only [seek, none, scan, PlaybackTrace.advance, Nat.add_zero]
      rw [ih fun other member => complete other (List.mem_cons_of_mem _ member)]

theorem InOrder.passedIn_of_complete
    {traces : List PlaybackTrace} (inOrder : InOrder traces)
    (complete : ∀ trace ∈ traces, trace.isComplete = true) :
    passedIn traces = (stepsOf traces).length := by
  induction traces with
  | nil => rfl
  | cons trace rest ih =>
      have finished : trace.entries.length ≤ trace.cursor :=
        of_decide_eq_true (complete trace List.mem_cons_self)
      rw [passedIn_cons, stepsOf_cons, List.length_append,
        ih inOrder.tail fun other member => complete other (List.mem_cons_of_mem _ member),
        Nat.le_antisymm inOrder.head finished]

theorem Sought.passes
    {context : Context} {before after : List PlaybackTrace} {result : Except StrategyError Action}
    (sought : Sought context before after result) (former : InOrder before)
    (latter : InOrder after) (some : pendingOf before ≠ []) :
    passedIn before < passedIn after := by
  cases sought with
  | @replayed skipped rest later entry action pending skips replays marked reached => omega
  | finished skips same complete =>
      rw [latter.passedIn_of_complete complete, same]
      rw [former.pendingOf_eq_drop] at some
      by_cases border : passedIn before < (stepsOf before).length
      · exact border
      · exact (some (List.drop_eq_nil_of_le (Nat.le_of_not_lt border))).elim
  | @tooMany skipped rest count pending skips nonempty same reached =>
      have positive : 0 < skipped.length := List.length_pos_iff.mpr nonempty
      omega

/-- The step at the position was replayed. -/
def IsExplored (traces : List PlaybackTrace) (position : Nat) : Prop :=
  ∃ entry, (stepsOf traces)[position]? = some entry ∧ entry.explored = true

theorem getElem?_of_pendingOf
    {traces : List PlaybackTrace} (skipped : List TraceEntry) {rest : List TraceEntry}
    {entry : TraceEntry} (inOrder : InOrder traces)
    (pending : pendingOf traces = skipped ++ entry :: rest) :
    (stepsOf traces)[passedIn traces + skipped.length]? = some entry := by
  rw [← List.getElem?_drop, ← inOrder.pendingOf_eq_drop, pending]
  simp

/-- A request marks the step that it replays, and no other. -/
theorem isExplored_next_iff
    {playback : Playback} (context : Context) (kept : Kept playback.traces) (position : Nat) :
    IsExplored (playback.next context).2.traces position ↔
      IsExplored playback.traces position ∨ (playback.call context).Emits position := by
  obtain ⟨sought, inOrder, -⟩ := next_sought context kept.inOrder
  have emits : (playback.call context).Emits position →
      ∃ entry action, (stepsOf playback.traces)[position]? = some entry ∧
        (playback.next context).1 = .ok action ∧
        Action.Replays context.screen entry.action action := fun emits => emits.replays
  generalize result : (playback.next context).1 = answer at sought emits
  cases sought with
  | @replayed skipped rest later entry action pending skips replays marked reached =>
      have found := getElem?_of_pendingOf skipped kept.inOrder pending
      have here : (playback.call context).Emits position ↔
          position = passedIn playback.traces + skipped.length := by
        constructor
        · intro emitted
          have last : passedIn (playback.next context).2.traces = position + 1 := emitted.last
          omega
        · intro same
          exact ⟨by rw [same]; exact Nat.le_add_right _ _, by rw [same]; exact reached,
            entry, action, by rw [same]; exact found, result, replays_of_replay replays⟩
      rw [here, IsExplored, IsExplored, marked, List.getElem?_modify]
      by_cases same : position = passedIn playback.traces + skipped.length
      · rw [same, found]
        simp [TraceEntry.replayed]
      · simp [same, Ne.symm same]
  | finished skips same complete =>
      have silent : ¬ (playback.call context).Emits position := by
        intro emitted
        obtain ⟨entry, action, found, answered, replays⟩ := emits emitted
        cases answered
        have pending : entry ∈ pendingOf playback.traces := by
          rw [kept.inOrder.pendingOf_eq_drop]
          have within : passedIn playback.traces ≤ position := emitted.pending
          apply List.mem_of_getElem? (i := position - passedIn playback.traces)
          rw [List.getElem?_drop, Nat.add_sub_cancel' within]
          exact found
        have recorded := not_terminate_of_isSkipped (skips entry pending)
        generalize entry.action = action at replays recorded
        cases replays
        contradiction
      simp [IsExplored, same, silent]
  | @tooMany skipped rest count pending skips some same reached =>
      have silent : ¬ (playback.call context).Emits position := by
        intro emitted
        obtain ⟨entry, action, found, answered, replays⟩ := emits emitted
        cases answered
      simp [IsExplored, same, silent]

theorem Kept.next
    {playback : Playback} (context : Context) (kept : Kept playback.traces) :
    Kept (playback.next context).2.traces := by
  obtain ⟨sought, inOrder, -⟩ := next_sought context kept.inOrder
  refine ⟨inOrder, ?_⟩
  have former := kept.unexplored
  rw [kept.inOrder.pendingOf_eq_drop] at former
  rw [inOrder.pendingOf_eq_drop]
  intro entry member
  apply former entry
  generalize (playback.next context).1 = answer at sought
  cases sought with
  | @replayed skipped rest later recorded action pending skips replays marked reached =>
      rw [marked, reached, List.drop_modify_of_lt _ _ _ _ (Nat.lt_succ_self _)] at member
      rw [← Nat.add_succ, ← List.drop_drop] at member
      exact List.mem_of_mem_drop member
  | finished skips same complete =>
      rw [same, ← same, inOrder.passedIn_of_complete complete, List.drop_length] at member
      contradiction
  | @tooMany skipped rest count pending skips some same reached =>
      rw [same, reached, ← List.drop_drop] at member
      exact List.mem_of_mem_drop member

/-- The action that answers a request replays a step, or the recording is complete. -/
theorem next_ok
    {playback : Playback} {context : Context} {action : Action} (kept : Kept playback.traces)
    (answered : (playback.next context).1 = .ok action) :
    (∃ position, (playback.call context).Emits position) ∨
      action = .terminate ∧ (playback.next context).2.isComplete = true := by
  obtain ⟨sought, -, -⟩ := next_sought context kept.inOrder
  rw [answered] at sought
  cases sought with
  | @replayed skipped rest later entry _ pending skips replays marked reached =>
      exact .inl ⟨_, Nat.le_add_right _ _, reached, entry, action,
        getElem?_of_pendingOf skipped kept.inOrder pending, answered, replays_of_replay replays⟩
  | finished skips same complete => exact .inr ⟨rfl, List.all_eq_true.mpr complete⟩

/-- A request finds every trace complete and changes nothing, or passes a step. -/
theorem next_idle_or_passes
    {playback : Playback} (context : Context) (kept : Kept playback.traces) :
    (playback.isComplete = true ∧ (playback.next context).2 = playback ∧
        (playback.next context).1 = .ok .terminate) ∨
      passedIn playback.traces < passedIn (playback.next context).2.traces := by
  by_cases complete : playback.isComplete = true
  · have finished := seek_of_complete context playback.maxSkips 0 (List.all_eq_true.mp complete)
    exact .inl ⟨complete, by rw [next, finished], by rw [next, finished]⟩
  · obtain ⟨sought, inOrder, -⟩ := next_sought context kept.inOrder
    refine .inr (sought.passes kept.inOrder inOrder ?_)
    intro none
    apply complete
    refine List.all_eq_true.mpr fun trace member => decide_eq_true ?_
    exact List.drop_eq_nil_iff.mp (List.flatMap_eq_nil_iff.mp none trace member)

theorem passedIn_next_le
    {playback : Playback} (context : Context) (kept : Kept playback.traces) :
    passedIn playback.traces ≤ passedIn (playback.next context).2.traces := by
  rcases next_idle_or_passes context kept with ⟨-, same, -⟩ | passes
  · exact Nat.le_of_eq (by rw [same])
  · exact Nat.le_of_lt passes

/-! ## All requests -/

theorem Kept.afterCalls
    {playback : Playback} (contexts : List Context) (kept : Kept playback.traces) :
    Kept (playback.afterCalls contexts).traces := by
  induction contexts generalizing playback with
  | nil => exact kept
  | cons context later ih => exact ih (kept.next context)

theorem exists_of_mem_calls
    {playback : Playback} {contexts : List Context} {request : Call}
    (kept : Kept playback.traces) (member : request ∈ playback.calls contexts) :
    ∃ (before : Playback) (context : Context), Kept before.traces ∧ request = before.call context ∧
      passedIn playback.traces ≤ passedIn before.traces := by
  induction contexts generalizing playback with
  | nil => contradiction
  | cons context later ih =>
      rcases List.mem_cons.mp member with here | there
      · exact ⟨playback, context, kept, here, Nat.le_refl _⟩
      · obtain ⟨before, other, keptBefore, same, passed⟩ := ih (kept.next context) there
        exact ⟨before, other, keptBefore, same,
          Nat.le_trans (passedIn_next_le context kept) passed⟩

/-- Later requests begin past the steps that earlier ones have passed. -/
theorem calls_pairwise
    {playback : Playback} (contexts : List Context) (kept : Kept playback.traces) :
    (playback.calls contexts).Pairwise fun earlier later =>
      passedIn earlier.after.traces ≤ passedIn later.before.traces := by
  induction contexts generalizing playback with
  | nil => exact .nil
  | cons context later ih =>
      refine List.pairwise_cons.mpr ⟨?_, ih (kept.next context)⟩
      intro request member
      obtain ⟨before, other, -, same, passed⟩ := exists_of_mem_calls (kept.next context) member
      rw [same]
      exact passed

/-- The steps that were replayed after some requests are those that one of them
replayed. -/
theorem isExplored_afterCalls_iff
    {playback : Playback} (contexts : List Context) (kept : Kept playback.traces)
    (position : Nat) :
    IsExplored (playback.afterCalls contexts).traces position ↔
      IsExplored playback.traces position ∨
        ∃ request ∈ playback.calls contexts, request.Emits position := by
  induction contexts generalizing playback with
  | nil => simp [afterCalls, calls]
  | cons context later ih =>
      have here := isExplored_next_iff context kept position
      have there := ih (kept.next context)
      rw [afterCalls, List.foldl_cons, ← afterCalls, there, here, calls]
      simp [or_assoc]

/-- How the requests account for the steps of a playback. -/
structure Accounts (playback : Playback) (contexts : List Context) : Prop where
  bounded : ∀ trace ∈ (playback.afterCalls contexts).traces,
    trace.cursor ≤ trace.entries.length
  ordered : (playback.afterCalls contexts).traces.Pairwise fun earlier later =>
    0 < later.cursor → earlier.isComplete = true
  /-- Cursors only move forward. -/
  advances : ∀ request ∈ playback.calls contexts,
    List.Forall₂ PlaybackTrace.Advances request.before.traces request.after.traces
  /-- A step is marked as replayed if and only if exactly one request replayed it. -/
  explored : ∀ (position : Nat) (entry : TraceEntry),
    (stepsOf (playback.afterCalls contexts).traces)[position]? = some entry →
      (entry.explored = true ↔ ∃! index : Nat, ∃ request : Call,
        (playback.calls contexts)[index]? = some request ∧ request.Emits position)
  unexplored : ∀ trace ∈ (playback.afterCalls contexts).traces, ∀ entry ∈ trace.pending,
    entry.explored = false
  /-- Every action replays a step, or ends a recording that is complete. -/
  emits : ∀ request ∈ playback.calls contexts, ∀ action, request.result = .ok action →
    (∃ position, request.Emits position) ∨
      action = .terminate ∧ request.after.isComplete = true
  /-- Steps are replayed in the order in which they were recorded. -/
  inOrder : (playback.calls contexts).Pairwise fun earlier later =>
    ∀ position next, earlier.Emits position → later.Emits next → position < next
  /-- A request finds that nothing is left to do, or passes a pending step. -/
  passes : ∀ request ∈ playback.calls contexts,
    (request.before.isComplete = true ∧ request.after = request.before ∧
        request.result = .ok .terminate) ∨
      passedIn request.before.traces < passedIn request.after.traces

theorem index_unique
    {requests : List Call} {left right position : Nat} {former latter : Call}
    (ordered : requests.Pairwise fun earlier later =>
      ∀ position next, earlier.Emits position → later.Emits next → position < next)
    (atLeft : requests[left]? = some former) (leftEmits : former.Emits position)
    (atRight : requests[right]? = some latter) (rightEmits : latter.Emits position) :
    left = right := by
  obtain ⟨leftWithin, leftIs⟩ := List.getElem?_eq_some_iff.mp atLeft
  obtain ⟨rightWithin, rightIs⟩ := List.getElem?_eq_some_iff.mp atRight
  have sorted := List.pairwise_iff_getElem.mp ordered
  rcases Nat.lt_trichotomy left right with less | same | greater
  · have distinct := sorted left right leftWithin rightWithin less position position
    rw [leftIs, rightIs] at distinct
    exact absurd (distinct leftEmits rightEmits) (Nat.lt_irrefl _)
  · exact same
  · have distinct := sorted right left rightWithin leftWithin greater position position
    rw [leftIs, rightIs] at distinct
    exact absurd (distinct rightEmits leftEmits) (Nat.lt_irrefl _)

theorem calls_inOrder
    {playback : Playback} (contexts : List Context) (kept : Kept playback.traces) :
    (playback.calls contexts).Pairwise fun earlier later =>
      ∀ position next, earlier.Emits position → later.Emits next → position < next := by
  refine (calls_pairwise contexts kept).imp ?_
  intro earlier later passed position next former latter
  have last := former.last
  have pending := latter.pending
  omega

/-- Whatever the live screens are, requests account for the recorded steps. -/
theorem calls_account
    {playback : Playback} (contexts : List Context)
    (fresh : ∀ trace ∈ playback.traces, trace.IsFresh) :
    Accounts playback contexts := by
  have kept := kept_of_isFresh fresh
  have keptAfter := kept.afterCalls contexts
  have sorted := calls_inOrder contexts kept
  constructor
  case bounded => exact keptAfter.inOrder.bounded
  case ordered => exact keptAfter.inOrder.ordered
  case advances =>
    intro request member
    obtain ⟨before, context, keptBefore, same, -⟩ := exists_of_mem_calls kept member
    rw [same]
    exact (next_sought context keptBefore.inOrder).2.2
  case explored =>
    intro position entry found
    have marked := isExplored_afterCalls_iff contexts kept position
    have untouched : ¬ IsExplored playback.traces position := by
      rintro ⟨other, member, explored⟩
      obtain ⟨trace, traceMember, entryMember⟩ := List.mem_flatMap.mp (List.mem_of_getElem? member)
      rw [(fresh trace traceMember).unexplored other entryMember] at explored
      contradiction
    have flag : entry.explored = true ↔
        IsExplored (playback.afterCalls contexts).traces position := by
      simp [IsExplored, found]
    rw [flag, marked, or_iff_right untouched]
    constructor
    · rintro ⟨request, member, emitted⟩
      obtain ⟨index, here⟩ := List.mem_iff_getElem?.mp member
      refine ⟨index, ⟨request, here, emitted⟩, ?_⟩
      rintro other ⟨another, atOther, otherEmitted⟩
      exact index_unique sorted atOther otherEmitted here emitted
    · rintro ⟨index, ⟨request, here, emitted⟩, -⟩
      exact ⟨request, List.mem_of_getElem? here, emitted⟩
  case unexplored =>
    intro trace traceMember entry member
    exact keptAfter.unexplored entry (List.mem_flatMap.mpr ⟨trace, traceMember, member⟩)
  case emits =>
    intro request member action answered
    obtain ⟨before, context, keptBefore, same, -⟩ := exists_of_mem_calls kept member
    rw [same] at answered ⊢
    exact next_ok keptBefore answered
  case inOrder => exact sorted
  case passes =>
    intro request member
    obtain ⟨before, context, keptBefore, same, -⟩ := exists_of_mem_calls kept member
    rw [same]
    exact next_idle_or_passes context keptBefore

/-- A recorded restart and back are replayed, and then the recording ends. -/
theorem calls_account_for_back :
    ∃ playback contexts,
      playback = ofRecords "com.example.app" [(.reset, default), (.pressBack, default)] ∧
      contexts = List.replicate 3 (Context.ofScreen default "com.example.app") ∧
      (∀ trace ∈ playback.traces, trace.IsFresh) ∧
      (playback.calls contexts).map Call.result =
        [.ok .reset, .ok .pressBack, .ok .terminate] ∧
      Accounts playback contexts :=
  ⟨_, _, rfl, rfl, isFresh_of_mem_ofRecords _ _, rfl,
    calls_account _ (isFresh_of_mem_ofRecords _ _)⟩

end Playback

end GuiExplorer
