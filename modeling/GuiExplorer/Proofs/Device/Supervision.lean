import GuiExplorer.Device.Worker
import Mathlib.Data.List.Induction

/-!
# The supervision of a worker

A worker ends at any moment or never, while whoever holds its handle asks it to stop, asks whether
it is alive and waits for it, with and without a limit.  In whichever order all this happens, the
ending of the worker is told exactly once: by the first join that does not time out.
-/

namespace GuiExplorer

namespace WorkerHandle

@[simp]
theorem joinable_requestStop (handle : WorkerHandle) :
    handle.requestStop.joinable = handle.joinable :=
  rfl

@[simp]
theorem joinable_drop (handle : WorkerHandle) (ending : Option WorkerEnd) :
    (handle.drop ending).joinable = handle.joinable := by
  unfold drop
  split <;> rfl

@[simp]
theorem stopRequested_drop (handle : WorkerHandle) (ending : Option WorkerEnd) :
    (handle.drop ending).stopRequested = (handle.stopRequested || handle.isAlive ending) := by
  unfold drop
  cases handle.isAlive ending <;> simp [requestStop]

@[simp]
theorem stopRequested_join (handle : WorkerHandle) (waited : Waited) :
    (handle.join waited).2.stopRequested = handle.stopRequested := by
  unfold join
  split
  · cases waited <;> rfl
  · rfl

theorem join_of_joinable {handle : WorkerHandle} (joinable : handle.joinable = true)
    (waited : Waited) :
    handle.join waited =
      match waited with
      | .ended ending => (ending.result, { handle with joinable := false })
      | .expired limit => (.error (.join (.stillRunning limit)), handle) :=
  if_pos joinable

theorem join_of_joined {handle : WorkerHandle} (joined : handle.joinable = false)
    (waited : Waited) : handle.join waited = (.ok (), handle) :=
  if_neg (Bool.eq_false_iff.mp joined)

end WorkerHandle

/-- What whoever started a worker does with its handle. -/
inductive Holder where
  | idle
  /-- It waits in a join, up to the limit if there is one. -/
  | joining (limit : Option Duration)
  /-- It has given the handle up. -/
  | gone

/-- A worker that is supervised through a handle. -/
structure Supervision where
  handle : WorkerHandle
  /-- How the worker has ended, if it has. -/
  ending : Option WorkerEnd
  holder : Holder

namespace Supervision

/-- What can happen to a worker and to its handle. -/
inductive Event where
  | ends (ending : WorkerEnd)
  | stop
  | asked (alive : Bool)
  | joins (limit : Option Duration)
  | joined (limit : Option Duration) (result : Except DaemonError Unit)
  /-- The holder gives the handle up, while the worker is alive or not. -/
  | dropped (alive : Bool)

/-- What a wait for a worker can come to.  Where the worker ends as the limit passes, either may
be noticed first. -/
inductive Waits : Option WorkerEnd → Option Duration → Waited → Prop where
  | ended (ending : WorkerEnd) (limit : Option Duration) :
      Waits (some ending) limit (.ended ending)
  | expired (ending : Option WorkerEnd) (limit : Duration) :
      Waits ending (some limit) (.expired limit)

/-- The worker may end at any moment, also during a join; the holder makes one call after the
other. -/
inductive Step : Supervision → Event → Supervision → Prop where
  | ends {handle : WorkerHandle} {holder : Holder} (ending : WorkerEnd) :
      Step ⟨handle, none, holder⟩ (.ends ending) ⟨handle, some ending, holder⟩
  | stop {handle : WorkerHandle} {ending : Option WorkerEnd} :
      Step ⟨handle, ending, .idle⟩ .stop ⟨handle.requestStop, ending, .idle⟩
  | asked {handle : WorkerHandle} {ending : Option WorkerEnd} :
      Step ⟨handle, ending, .idle⟩ (.asked (handle.isAlive ending)) ⟨handle, ending, .idle⟩
  | joins {handle : WorkerHandle} {ending : Option WorkerEnd} (limit : Option Duration) :
      Step ⟨handle, ending, .idle⟩ (.joins limit) ⟨handle, ending, .joining limit⟩
  | joined {handle : WorkerHandle} {ending : Option WorkerEnd} {limit : Option Duration}
      {waited : Waited} (waits : Waits ending limit waited) :
      Step ⟨handle, ending, .joining limit⟩ (.joined limit (handle.join waited).1)
        ⟨(handle.join waited).2, ending, .idle⟩
  | dropped {handle : WorkerHandle} {ending : Option WorkerEnd} :
      Step ⟨handle, ending, .idle⟩ (.dropped (handle.isAlive ending))
        ⟨handle.drop ending, ending, .gone⟩

/-- What has happened since the worker was started, and how things are then. -/
inductive Run : List Event → Supervision → Prop where
  | start : Run [] ⟨.spawned, none, .idle⟩
  | step {events : List Event} {event : Event} {state next : Supervision} (run : Run events state)
      (step : Step state event next) : Run (events ++ [event]) next

/-- The result says that a join timed out. -/
def isTimeout : Except DaemonError Unit → Bool
  | .error (.join (.stillRunning _)) => true
  | _ => false

/-- The result of a join that did not time out. -/
def Event.completion? : Event → Option (Except DaemonError Unit)
  | .joined _ result => if isTimeout result then none else some result
  | _ => none

/-- The results of the joins that did not time out, in order. -/
def completions (events : List Event) : List (Except DaemonError Unit) :=
  events.filterMap Event.completion?

@[simp]
theorem isTimeout_result (ending : WorkerEnd) : isTimeout ending.result = false := by
  cases ending <;> rfl

@[simp]
theorem completions_append (events later : List Event) :
    completions (events ++ later) = completions events ++ completions later :=
  List.filterMap_append

section

variable {events : List Event} {event : Event} {state next : Supervision}

/-! ## The worker and the stop flag -/

theorem Run.ending_iff (run : Run events state) (ending : WorkerEnd) :
    state.ending = some ending ↔ .ends ending ∈ events := by
  induction run with
  | start => simp
  | step _ step ih =>
      cases step with
      | ends ended => simp [← ih, eq_comm]
      | _ => simpa using ih

/-- The stop flag is raised by a request, and when the handle of a worker that is alive is given
up; nothing takes it back. -/
theorem Run.stopRequested_iff (run : Run events state) :
    state.handle.stopRequested = true ↔ .stop ∈ events ∨ .dropped true ∈ events := by
  induction run with
  | start => simp [WorkerHandle.spawned]
  | step _ step ih =>
      cases step with
      | stop => simp [WorkerHandle.requestStop]
      | dropped => simp [ih, or_assoc, eq_comm (a := true)]
      | _ => simpa using ih

/-! ## What joins tell -/

/-- What joins have told so far: nothing, while the worker can still be joined, or its ending
first and then that there is nothing to wait for. -/
inductive Told (state : Supervision) : List (Except DaemonError Unit) → Prop where
  | nothing (joinable : state.handle.joinable = true) : Told state []
  | outcome {ending : WorkerEnd} (count : Nat) (joined : state.handle.joinable = false)
      (ended : state.ending = some ending) :
      Told state (ending.result :: List.replicate count (.ok ()))

/-- Nothing is told by what leaves the handle as joinable as it is. -/
theorem Told.of_same {told : List (Except DaemonError Unit)} (before : Told state told)
    (joinable : next.handle.joinable = state.handle.joinable)
    (ending : ∀ ending, state.ending = some ending → next.ending = some ending) :
    Told next told := by
  cases before with
  | nothing isJoinable => exact .nothing (joinable.trans isJoinable)
  | outcome count joined ended => exact .outcome count (joinable.trans joined) (ending _ ended)

theorem Told.step {told : List (Except DaemonError Unit)} (before : Told state told)
    (step : Step state event next) : Told next (told ++ event.completion?.toList) := by
  cases step with
  | @joined handle ending limit waited waits =>
      cases before with
      | nothing joinable =>
          rw [WorkerHandle.join_of_joinable joinable]
          cases waits with
          | ended ending =>
              simp only [Event.completion?, isTimeout_result]
              exact .outcome 0 rfl rfl
          | expired _ limit => exact .nothing joinable
      | outcome count joined ended =>
          rw [WorkerHandle.join_of_joined joined, List.cons_append]
          have again : List.replicate count (.ok ()) ++
              (Event.joined limit (.ok ())).completion?.toList =
              List.replicate (count + 1) (.ok ()) := List.replicate_succ'.symm
          rw [again]
          exact .outcome (count + 1) joined ended
  | ends ended =>
      change Told _ (told ++ [])
      rw [List.append_nil]
      exact before.of_same rfl nofun
  | _ =>
      change Told _ (told ++ [])
      rw [List.append_nil]
      exact before.of_same (by simp) fun _ => id

theorem Run.told (run : Run events state) : Told state (completions events) := by
  induction run with
  | start => exact .nothing rfl
  | @step events event _ _ _ step ih =>
      have last : completions [event] = event.completion?.toList := by
        cases found : event.completion? <;> simp [completions, found]
      rw [completions_append, last]
      exact ih.step step

/-- The worker can be joined until it was: a join that times out leaves it joinable. -/
theorem Run.completions_eq_nil_iff (run : Run events state) :
    completions events = [] ↔ state.handle.joinable = true := by
  have told := run.told
  generalize completions events = outcomes at told ⊢
  cases told with
  | nothing joinable => simp [joinable]
  | outcome count joined => simp [joined]

theorem Run.completions_cases (run : Run events state) :
    completions events = [] ∨ ∃ ending count, .ends ending ∈ events ∧
      completions events = ending.result :: List.replicate count (.ok ()) := by
  have told := run.told
  generalize completions events = outcomes at told ⊢
  cases told with
  | nothing joinable => exact .inl rfl
  | outcome count joined ended => exact .inr ⟨_, count, (run.ending_iff _).mp ended, rfl⟩

/-- A worker is alive as long as it has not ended, since its ending is not told before. -/
theorem Run.isAlive_iff (run : Run events state) :
    state.handle.isAlive state.ending = true ↔ ∀ ending, .ends ending ∉ events := by
  have unended : (∀ ending, .ends ending ∉ events) ↔ state.ending = none := by
    simp only [← run.ending_iff, Option.eq_none_iff_forall_ne_some, ne_eq]
  rw [unended, WorkerHandle.isAlive, Bool.and_eq_true, Option.isNone_iff_eq_none]
  refine and_iff_right_of_imp fun running => run.completions_eq_nil_iff.mp ?_
  refine run.completions_cases.resolve_right ?_
  rintro ⟨ending, count, ended, -⟩
  cases running.symm.trans ((run.ending_iff ending).mpr ended)

/-! ## What happened before -/

theorem Run.of_concat (run : Run (events ++ [event]) state) :
    ∃ former, Run events former ∧ Step former event state := by
  generalize all : events ++ [event] = happened at run
  cases run with
  | start => simp at all
  | step run step =>
      obtain ⟨rfl, last⟩ := List.append_inj' all rfl
      cases last
      exact ⟨_, run, step⟩

theorem Run.at {before after : List Event} (run : Run (before ++ event :: after) state) :
    ∃ former later, Run before former ∧ Step former event later ∧
      Run (before ++ [event]) later := by
  induction after using List.reverseRecOn generalizing state with
  | nil =>
      obtain ⟨former, earlier, step⟩ := run.of_concat
      exact ⟨former, state, earlier, step, run⟩
  | append_singleton after last ih =>
      rw [← List.cons_append, ← List.append_assoc] at run
      obtain ⟨former, earlier, -⟩ := run.of_concat
      exact ih earlier

theorem Run.asked_iff {before after : List Event} {alive : Bool}
    (run : Run (before ++ .asked alive :: after) state) :
    alive = true ↔ ∀ ending, .ends ending ∉ before := by
  obtain ⟨former, later, earlier, step, -⟩ := run.at
  cases step
  exact earlier.isAlive_iff

/-- A join answers that it timed out only up to its limit and while the worker can be joined, which
it can still be then; it answers anything else only when the worker has ended. -/
theorem Step.joined_cases {limit : Option Duration} {result : Except DaemonError Unit}
    (run : Run events state) (step : Step state (.joined limit result) next) :
    if isTimeout result then
      state.handle.joinable = true ∧ next.handle.joinable = true ∧
        ∃ passed, limit = some passed ∧ result = .error (.join (.stillRunning passed))
    else ∃ ending, state.ending = some ending := by
  have told := run.told
  generalize completions events = told at told
  cases step with
  | @joined handle ending _ waited waits =>
      cases told with
      | nothing joinable =>
          rw [WorkerHandle.join_of_joinable joinable]
          cases waits with
          | ended ending => simp
          | expired _ passed => exact ⟨joinable, joinable, passed, rfl, rfl⟩
      | outcome count joined ended =>
          rw [WorkerHandle.join_of_joined joined]
          exact ⟨_, ended⟩

/-- How a run tells the ending of the worker. -/
structure DeliversOnce (events : List Event) (state : Supervision) : Prop where
  /-- The joins that did not time out: the first one has the worker's own outcome, and every later
  one succeeds. -/
  once : completions events = [] ∨ ∃ ending count, .ends ending ∈ events ∧
    completions events = ending.result :: List.replicate count (.ok ())
  /-- A join that times out is an error, and the worker can still be joined. -/
  timeout : ∀ before limit result after, events = before ++ .joined limit result :: after →
    isTimeout result = true →
      completions before = [] ∧
      (∃ passed, limit = some passed ∧ result = .error (.join (.stillRunning passed))) ∧
      ∃ later, Run (before ++ [.joined limit result]) later ∧ later.handle.joinable = true
  /-- A join answers anything else only after the worker has ended. -/
  completion : ∀ before limit result after, events = before ++ .joined limit result :: after →
    isTimeout result = false → ∃ ending, .ends ending ∈ before
  /-- The worker is alive exactly until it ends. -/
  alive : ∀ before alive after, events = before ++ .asked alive :: after →
    (alive = true ↔ ∀ ending, .ends ending ∉ before)
  neverRevives : ∀ before middle after,
    events ≠ before ++ .asked false :: (middle ++ .asked true :: after)
  deadWhenJoined : ∀ before alive after, events = before ++ .asked alive :: after →
    completions before ≠ [] → alive = false
  stop : state.handle.stopRequested = true ↔ .stop ∈ events ∨ .dropped true ∈ events
  /-- A stop flag that was up at any time is up. -/
  stopStays : ∀ before after former, events = before ++ after → Run before former →
    former.handle.stopRequested = true → state.handle.stopRequested = true
  /-- A join is answered once the worker has ended. -/
  answers : ∀ limit ending, state.holder = .joining limit → state.ending = some ending →
    ∃ result next, Step state (.joined limit result) next ∧ isTimeout result = false

/-- Whenever the worker ends and whichever calls are made, its outcome is delivered exactly once: by
the first join that does not time out. -/
theorem outcome_delivered_once (run : Run events state) : DeliversOnce events state := by
  constructor
  case once => exact run.completions_cases
  case timeout =>
    rintro before limit result after rfl timeout
    obtain ⟨former, later, earlier, step, through⟩ := run.at
    have answers := step.joined_cases earlier
    rw [if_pos timeout] at answers
    obtain ⟨joinable, still, expired⟩ := answers
    exact ⟨earlier.completions_eq_nil_iff.mpr joinable, expired, later, through, still⟩
  case completion =>
    rintro before limit result after rfl completes
    obtain ⟨former, later, earlier, step, -⟩ := run.at
    have answers := step.joined_cases earlier
    rw [if_neg (by simp [completes])] at answers
    exact answers.imp fun ending ended => (earlier.ending_iff ending).mp ended
  case alive =>
    rintro before alive after rfl
    exact run.asked_iff
  case neverRevives =>
    rintro before middle after rfl
    -- Between the answers the worker has not come back: an ending is not taken back.
    refine Bool.false_ne_true (run.asked_iff.mpr fun ending member => ?_)
    rw [← List.cons_append, ← List.append_assoc] at run
    exact run.asked_iff.mp rfl ending (List.mem_append_left _ member)
  case deadWhenJoined =>
    rintro before alive after rfl joined
    obtain ⟨former, later, earlier, -⟩ := run.at
    obtain ⟨ending, count, ended, -⟩ := earlier.completions_cases.resolve_left joined
    exact Bool.eq_false_iff.mpr fun alive => run.asked_iff.mp alive ending ended
  case stop => exact run.stopRequested_iff
  case stopStays =>
    rintro before after former rfl earlier raised
    rw [run.stopRequested_iff, List.mem_append, List.mem_append]
    exact (earlier.stopRequested_iff.mp raised).imp .inl .inl
  case answers =>
    intro limit ending joining ended
    obtain ⟨handle, _, _⟩ := state
    cases joining
    cases ended
    refine ⟨_, _, .joined (.ended ending limit), ?_⟩
    cases joinable : handle.joinable with
    | true => rw [WorkerHandle.join_of_joinable joinable, isTimeout_result]
    | false => rw [WorkerHandle.join_of_joined joinable]; rfl

end

/-- A join times out, the worker fails while the next one waits for it and tells so, and a last one
succeeds. -/
theorem outcome_delivered_once_of_failure :
    let limit : Duration := ⟨15000000⟩
    let failure : BridgeError := .daemonExited "exit status: 1"
    let timeout : Except DaemonError Unit := .error (.join (.stillRunning limit))
    let events : List Event :=
      [.joins (some limit), .joined (some limit) timeout, .asked true, .stop, .joins none,
        .ends (.failed failure), .joined none (.error (.bridge failure)), .joins (some limit),
        .joined (some limit) (.ok ()), .asked false]
    let state : Supervision := ⟨⟨false, true⟩, some (.failed failure), .idle⟩
    Run events state ∧ completions events = [.error (.bridge failure), .ok ()] ∧
      DeliversOnce events state := by
  intro limit failure timeout events state
  have waits := Run.start.step (.joins (some limit)) |>.step (.joined (.expired none limit))
  have stops := waits.step .asked |>.step .stop |>.step (.joins none)
  have fails := stops.step (.ends (.failed failure)) |>.step (.joined (.ended _ none))
  have run : Run events state :=
    fails.step (.joins (some limit)) |>.step (.joined (.ended _ _)) |>.step .asked
  exact ⟨run, rfl, outcome_delivered_once run⟩

end Supervision

end GuiExplorer
