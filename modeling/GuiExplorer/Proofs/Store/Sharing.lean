import GuiExplorer.Proofs.Store.Contents

/-!
# Clients that share a store

Each client makes its calls in its own order; the calls of different clients are interleaved, one
whole call at a time.  What the store holds in the end does not depend on the interleaving, except
for the order of the log, and no count is given to two callers.
-/

namespace GuiExplorer.Store

/-- A schedule of the calls that clients have left: in each step some client makes its next call. -/
inductive Interleaves : List (List Call) → List (Nat × Call) → Prop where
  | done {programs : List (List Call)} (finished : ∀ program ∈ programs, program = []) :
      Interleaves programs []
  | step {programs : List (List Call)} {client : Nat} {call : Call} {remaining : List Call}
      {schedule : List (Nat × Call)}
      (next : programs[client]? = some (call :: remaining))
      (rest : Interleaves (programs.set client remaining) schedule) :
      Interleaves programs ((client, call) :: schedule)

/-- A call as it happened: who made it and what the answer was. -/
structure Event where
  client : Nat
  call : Call
  answer : Answer

/-- What happens when a schedule is followed. -/
def trace (store : Store) : List (Nat × Call) → List Event
  | [] => []
  | (client, call) :: rest => ⟨client, call, store.answer call⟩ :: (store.perform call).trace rest

def callsOf (schedule : List (Nat × Call)) : List Call :=
  schedule.map Prod.snd

/-! ## Interleavings -/

theorem flatten_perm_of_next
    {programs : List (List Call)} {client : Nat} {call : Call} {remaining : List Call}
    (next : programs[client]? = some (call :: remaining)) :
    programs.flatten.Perm (call :: (programs.set client remaining).flatten) := by
  induction programs generalizing client with
  | nil => simp at next
  | cons program rest ih =>
      cases client with
      | zero =>
          cases Option.some.inj next
          exact List.Perm.refl _
      | succ client =>
          rw [List.set_cons_succ, List.flatten_cons, List.flatten_cons]
          exact ((ih next).append_left program).trans List.perm_middle

theorem Interleaves.perm
    {programs : List (List Call)} {schedule : List (Nat × Call)}
    (interleaves : Interleaves programs schedule) :
    (callsOf schedule).Perm programs.flatten := by
  induction interleaves with
  | done finished =>
      rw [List.flatten_eq_nil_iff.mpr finished]
      exact List.Perm.refl _
  | step next rest ih => exact (ih.cons _).trans (flatten_perm_of_next next).symm

/-- Each client makes its own calls in their order. -/
theorem Interleaves.own
    {programs : List (List Call)} {schedule : List (Nat × Call)}
    (interleaves : Interleaves programs schedule) (client : Nat) :
    callsOf (schedule.filter (·.1 = client)) = programs[client]?.getD [] := by
  induction interleaves with
  | @done programs finished =>
      cases found : programs[client]? with
      | none => rfl
      | some program => exact (finished program (List.mem_of_getElem? found)).symm
  | @step programs other call remaining schedule next rest ih =>
      by_cases same : other = client
      · subst same
        have within : other < programs.length := (List.getElem?_eq_some_iff.mp next).1
        rw [List.getElem?_set_self within] at ih
        simpa [callsOf, next] using ih
      · rw [List.getElem?_set_ne same] at ih
        simpa [callsOf, same] using ih

/-! ## What becomes of the store -/

/-- The counters are exactly those that the calls add up to. -/
theorem Holds.mem_counters_iff
    {store : Store} {calls : List Call} (holds : store.Holds calls) {counter : ActedCount} :
    counter ∈ store.counters ↔
      0 < timesCounted calls counter.screen counter.widget ∧
        counter.count = UInt32.ofNat (timesCounted calls counter.screen counter.widget) := by
  constructor
  · intro member
    refine ⟨(holds.keys _ _).mp (List.mem_map_of_mem member), ?_⟩
    rw [← holds.counts, actedCount, Counters.get_of_mem holds.sorted member]
  · rintro ⟨positive, count⟩
    obtain ⟨known, member, key⟩ := List.mem_map.mp ((holds.keys _ _).mpr positive)
    have knownCount := Counters.get_of_mem holds.sorted member
    obtain ⟨screen, widget, value⟩ := known
    obtain ⟨rfl, rfl⟩ := Prod.mk.inj key
    have same : counter.count = value := by rw [count, ← holds.counts, actedCount, knownCount]
    rw [← same] at member
    exact member

theorem counters_eq_of_perm {left right : List Call} (perm : left.Perm right) :
    (empty.after left).counters = (empty.after right).counters := by
  have leftHolds := holds_after left
  have rightHolds := holds_after right
  have irrefl {counters : List ActedCount} (sorted : Counters.Sorted counters) :
      counters.Nodup := by
    refine sorted.imp ?_
    intro earlier later less same
    rw [same, Counters.precedes_irrefl] at less
    cases less
  have same : (empty.after left).counters.Perm (empty.after right).counters := by
    refine (List.perm_ext_iff_of_nodup (irrefl leftHolds.sorted) (irrefl rightHolds.sorted)).mpr
      fun counter => ?_
    rw [leftHolds.mem_counters_iff, rightHolds.mem_counters_iff, timesCounted, perm.count_eq]
    rfl
  refine same.eq_of_pairwise ?_ leftHolds.sorted rightHolds.sorted
  intro former latter _ _ less more
  have self := Counters.precedes_trans less more
  rw [Counters.precedes_irrefl] at self
  cases self

/-- The parts of a store that do not depend on the order of the calls. -/
structure Agrees (left right : Store) : Prop where
  counters : left.snapshot.acted = right.snapshot.acted
  /-- The same screens were seen, as told apart by their ids, -/
  screens : (left.snapshot.screens.map Screen.uid).Perm (right.snapshot.screens.map Screen.uid)
  screenCount : left.screenCount = right.screenCount
  /-- and the same observations were logged, in whatever order. -/
  observations : left.observations.Perm right.observations

theorem agrees_of_perm {left right : List Call} (perm : left.Perm right) :
    (empty.after left).Agrees (empty.after right) := by
  have leftHolds := holds_after left
  have rightHolds := holds_after right
  have observations : (recorded left).Perm (recorded right) := perm.filterMap Call.screen?
  have screens : ((empty.after left).snapshot.screens.map Screen.uid).Perm
      ((empty.after right).snapshot.screens.map Screen.uid) := by
    refine (List.perm_ext_iff_of_nodup leftHolds.nodup_screens rightHolds.nodup_screens).mpr
      fun id => ?_
    rw [leftHolds.mem_uids_screens_iff, rightHolds.mem_uids_screens_iff,
      (observations.map Screen.uid).mem_iff]
  constructor
  case counters => exact counters_eq_of_perm perm
  case screens => exact screens
  case screenCount =>
    rw [leftHolds.screenCount_eq, rightHolds.screenCount_eq]
    simpa using screens.length_eq
  case observations => rwa [leftHolds.observations, rightHolds.observations]

/-! ## What clients are answered -/

theorem answer_of_trace
    {store : Store} {schedule : List (Nat × Call)} {index : Nat} {event : Event}
    (happened : (store.trace schedule)[index]? = some event) :
    schedule[index]? = some (event.client, event.call) ∧
      event.answer = (store.after (callsOf (schedule.take index))).answer event.call := by
  induction schedule generalizing store index with
  | nil => simp [trace] at happened
  | cons first rest ih =>
      obtain ⟨client, call⟩ := first
      cases index with
      | zero =>
          cases Option.some.inj happened
          exact ⟨rfl, rfl⟩
      | succ index => exact ih happened

theorem trace_eq (store : Store) (schedule : List (Nat × Call)) :
    (store.trace schedule).map (fun event => (event.client, event.call)) = schedule := by
  induction schedule generalizing store with
  | nil => rfl
  | cons first rest ih =>
      rw [trace, List.map_cons, ih]

/-- What the answer tells about a counter. -/
def Event.count? (screen widget : Uuid) (event : Event) : Option UInt32 :=
  match event.call, event.answer with
  | .increment otherScreen otherWidget, .count value =>
      if (otherScreen, otherWidget) = (screen, widget) then some value else none
  | .actedCount otherScreen otherWidget, .count value =>
      if (otherScreen, otherWidget) = (screen, widget) then some value else none
  | .snapshot, .model snapshot => some (Counters.get snapshot.acted screen widget)
  | _, _ => none

theorem eq_actedCount_of_count?
    {store : Store} {event : Event} {screen widget : Uuid} {value : UInt32}
    (answered : event.answer = store.answer event.call)
    (told : event.count? screen widget = some value) :
    value = (store.perform event.call).actedCount screen widget := by
  rw [Event.count?, answered] at told
  cases called : event.call with
  | record =>
      rw [called] at told
      cases told
  | increment otherScreen otherWidget | actedCount otherScreen otherWidget =>
      simp only [called, answer, Option.ite_none_right_eq_some, Prod.mk.injEq,
        Option.some.injEq] at told
      obtain ⟨⟨rfl, rfl⟩, rfl⟩ := told
      rfl
  | snapshot =>
      rw [called] at told
      cases told
      rfl

/-- The new count that an increment of the counter was answered. -/
def Event.newCount? (screen widget : Uuid) (event : Event) : Option UInt32 :=
  if event.call = .increment screen widget then event.count? screen widget else none

theorem newCount?_increment (client : Nat) (store : Store) (screen widget : Uuid) :
    Event.newCount? screen widget
        ⟨client, .increment screen widget, store.answer (.increment screen widget)⟩ =
      some ((store.increment screen widget).actedCount screen widget) := by
  simp [Event.newCount?, Event.count?, answer]

/-- Increments of one counter are answered by one number after the other. -/
theorem toNat_newCounts
    {store : Store} {calls : List Call} (holds : store.Holds calls)
    {schedule : List (Nat × Call)} {screen widget : Uuid}
    (bounded : timesCounted (calls ++ callsOf schedule) screen widget < UInt32.size) :
    ((store.trace schedule).filterMap (Event.newCount? screen widget)).map UInt32.toNat =
      List.range' (timesCounted calls screen widget + 1)
        (timesCounted (callsOf schedule) screen widget) := by
  induction schedule generalizing store calls with
  | nil => rfl
  | cons first rest ih =>
      obtain ⟨client, call⟩ := first
      have split : calls ++ callsOf ((client, call) :: rest) =
          (calls ++ [call]) ++ callsOf rest := by
        simp [callsOf]
      rw [split] at bounded
      have later := ih (holds.perform call) bounded
      have counted := timesCounted_concat calls call screen widget
      have total : timesCounted (callsOf ((client, call) :: rest)) screen widget =
          timesCounted (callsOf rest) screen widget +
            if call = .increment screen widget then 1 else 0 :=
        timesCounted_cons call (callsOf rest) screen widget
      rw [trace]
      by_cases same : call = .increment screen widget
      · subst same
        rw [if_pos rfl] at counted total
        have now : timesCounted (calls ++ [.increment screen widget]) screen widget <
            UInt32.size := by
          rw [timesCounted_append] at bounded
          omega
        rw [List.filterMap_cons_some (newCount?_increment client store screen widget),
          List.map_cons, total, List.range'_succ, ← counted, ← later]
        exact congrArg (· :: _) ((holds.increment screen widget).toNat_actedCount now)
      · rw [if_neg same, Nat.add_zero] at counted total
        have silent : Event.newCount? screen widget ⟨client, call, store.answer call⟩ = none :=
          if_neg same
        rw [List.filterMap_cons_none silent, total, later, counted]

/-! ## One store for all clients -/

theorem after_concat (store : Store) (calls : List Call) (call : Call) :
    store.after (calls ++ [call]) = (store.after calls).perform call := by
  simp [after]

/-- The part of a schedule that has happened by an index is followed by the rest up to a later
one. -/
theorem callsOf_take_append
    (schedule : List (Nat × Call)) {earlier later : Nat} (atMost : earlier ≤ later) :
    ∃ more, callsOf (schedule.take later) = callsOf (schedule.take earlier) ++ more := by
  obtain ⟨more, same⟩ := List.take_prefix_take_left (l := schedule) atMost
  exact ⟨callsOf more, by rw [← same, callsOf, List.map_append]; rfl⟩

theorem eq_actedCount_of_trace
    {schedule : List (Nat × Call)} {index : Nat} {event : Event} {screen widget : Uuid}
    {value : UInt32} (happened : (empty.trace schedule)[index]? = some event)
    (told : event.count? screen widget = some value) :
    value = (empty.after (callsOf (schedule.take (index + 1)))).actedCount screen widget := by
  obtain ⟨scheduled, answered⟩ := answer_of_trace happened
  have done : callsOf (schedule.take (index + 1)) =
      callsOf (schedule.take index) ++ [event.call] := by
    simp [callsOf, List.take_add_one, scheduled]
  rw [done, after_concat]
  exact eq_actedCount_of_count? answered told

theorem count_le_of_trace
    {schedule : List (Nat × Call)} {screen widget : Uuid}
    (bounded : timesCounted (callsOf schedule) screen widget < UInt32.size) :
    (empty.trace schedule).Pairwise fun earlier later => ∀ former latter,
      earlier.count? screen widget = some former → later.count? screen widget = some latter →
      former ≤ latter := by
  refine List.pairwise_iff_getElem.mpr ?_
  intro first second firstWithin secondWithin less former latter formerTold latterTold
  rw [eq_actedCount_of_trace (List.getElem?_eq_getElem firstWithin) formerTold,
    eq_actedCount_of_trace (List.getElem?_eq_getElem secondWithin) latterTold]
  obtain ⟨more, same⟩ := callsOf_take_append schedule (Nat.succ_le_succ (Nat.le_of_lt less))
  have atMost : timesCounted (callsOf (schedule.take (second + 1))) screen widget ≤
      timesCounted (callsOf schedule) screen widget :=
    ((List.take_sublist _ _).map Prod.snd).count_le _
  rw [same] at atMost ⊢
  exact actedCount_le_of_append _ more (Nat.lt_of_le_of_lt atMost bounded)

theorem snapshot_of_trace
    {schedule : List (Nat × Call)} {index : Nat} {event : Event} {model : StoreSnapshot}
    (happened : (empty.trace schedule)[index]? = some event) (told : event.answer = .model model) :
    model = (empty.after (callsOf (schedule.take index))).snapshot := by
  obtain ⟨-, answered⟩ := answer_of_trace happened
  rw [answered] at told
  cases called : event.call with
  | snapshot =>
      rw [called] at told
      cases told
      rfl
  | record | increment | actedCount =>
      rw [called] at told
      cases told

theorem log_isPrefix_of_trace (schedule : List (Nat × Call)) :
    (empty.trace schedule).Pairwise fun earlier later => ∀ former latter,
      earlier.answer = .model former → later.answer = .model latter →
      former.observations <+: latter.observations ∧ former.screens <+: latter.screens := by
  refine List.pairwise_iff_getElem.mpr ?_
  intro first second firstWithin secondWithin less former latter formerTold latterTold
  rw [snapshot_of_trace (List.getElem?_eq_getElem firstWithin) formerTold,
    snapshot_of_trace (List.getElem?_eq_getElem secondWithin) latterTold]
  obtain ⟨more, same⟩ := callsOf_take_append schedule (Nat.le_of_lt less)
  rw [same]
  exact ⟨observations_isPrefix _ more, screens_isPrefix _ more⟩

/-- What clients that share a new store can rely on when a schedule of their calls is followed. -/
structure Reliable (programs : List (List Call)) (schedule : List (Nat × Call)) : Prop where
  /-- Each client is answered its own calls, in its order. -/
  own : ∀ client, ((empty.trace schedule).filter (·.client = client)).map Event.call =
    programs[client]?.getD []
  /-- What is left in the store does not depend on the schedule. -/
  agrees : ∀ other, Interleaves programs other →
    (empty.after (callsOf schedule)).Agrees (empty.after (callsOf other))
  /-- The increments of a counter are answered by one, two and so on: each number once. -/
  newCounts : ∀ screen widget, timesCounted programs.flatten screen widget < UInt32.size →
    ((empty.trace schedule).filterMap (Event.newCount? screen widget)).map UInt32.toNat =
      List.range' 1 (timesCounted programs.flatten screen widget)
  /-- A snapshot shows the store as the calls before it have left it. -/
  snapshots : ∀ (index : Nat) (event : Event), (empty.trace schedule)[index]? = some event →
    event.call = .snapshot →
    event.answer = .model (empty.after (callsOf (schedule.take index))).snapshot
  /-- Nobody sees a counter shrink, -/
  counts : ∀ screen widget, timesCounted programs.flatten screen widget < UInt32.size →
    (empty.trace schedule).Pairwise fun earlier later => ∀ former latter,
      earlier.count? screen widget = some former → later.count? screen widget = some latter →
      former ≤ latter
  /-- or the log. -/
  logs : (empty.trace schedule).Pairwise fun earlier later => ∀ former latter,
    earlier.answer = .model former → later.answer = .model latter →
    former.observations <+: latter.observations ∧ former.screens <+: latter.screens

/-- However the calls of clients are interleaved, no count is lost and none is given twice; what
the clients see only grows, and what they leave behind is the same. -/
theorem interleaved_calls_reliable
    {programs : List (List Call)} {schedule : List (Nat × Call)}
    (interleaves : Interleaves programs schedule) :
    Reliable programs schedule := by
  have total (screen widget : Uuid) :
      timesCounted (callsOf schedule) screen widget =
        timesCounted programs.flatten screen widget :=
    interleaves.perm.count_eq _
  constructor
  case own =>
    intro client
    have same := congrArg (fun calls => callsOf (calls.filter (·.1 = client)))
      (trace_eq empty schedule)
    simp only [callsOf, List.filter_map, List.map_map] at same
    exact same.trans (interleaves.own client)
  case agrees =>
    intro other otherInterleaves
    exact agrees_of_perm (interleaves.perm.trans otherInterleaves.perm.symm)
  case newCounts =>
    intro screen widget bounded
    rw [← total] at bounded ⊢
    exact toNat_newCounts holds_empty bounded
  case snapshots =>
    intro index event happened called
    rw [(answer_of_trace happened).2, called]
    rfl
  case counts =>
    intro screen widget bounded
    exact count_le_of_trace (total screen widget ▸ bounded)
  case logs => exact log_isPrefix_of_trace schedule

/-- Two clients count the same widget, and one of them looks at the store in between. -/
theorem interleaved_calls_reliable_two_clients :
    let count : Call := .increment .nil .nil
    let programs : List (List Call) := [[.record ⟨.nil, []⟩, count, .snapshot], [count]]
    let schedule := [(0, .record ⟨.nil, []⟩), (1, count), (0, count), (0, .snapshot)]
    Interleaves programs schedule ∧ Reliable programs schedule ∧
      (empty.trace schedule).filterMap (Event.newCount? .nil .nil) = [1, 2] := by
  intro count programs schedule
  have interleaves : Interleaves programs schedule :=
    .step rfl (.step rfl (.step rfl (.step rfl (.done (by simp [programs])))))
  exact ⟨interleaves, interleaved_calls_reliable interleaves, rfl⟩

end GuiExplorer.Store
