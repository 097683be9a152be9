import GuiExplorer.Proofs.Playback.Passage

/-!
# The search for the next action

The pending steps of all traces make one list, and a request for an action goes through it: steps
that can be skipped are passed up to the first that cannot, which is replayed, unless more of them
would be skipped than allowed.  How many steps are passed, which of them is marked as replayed and
what the answer is all follow from the number of leading steps that can be skipped.
-/

namespace GuiExplorer

namespace Playback

/-- A step that is still to be replayed. -/
structure PendingStep where
  /-- The number of its trace. -/
  trace : Nat
  /-- Its position in the trace. -/
  position : Nat
  entry : TraceEntry
  /-- The steps after it in the same trace. -/
  later : List TraceEntry

namespace PendingStep

/-- The steps of a trace from a position on. -/
def ofEntries (trace position : Nat) : List TraceEntry → List PendingStep
  | [] => []
  | entry :: later => ⟨trace, position, entry, later⟩ :: ofEntries trace (position + 1) later

/-- The pending steps of traces, of which the first has the number `first`. -/
def ofTraces (first : Nat) : List PlaybackTrace → List PendingStep
  | [] => []
  | trace :: rest => ofEntries first trace.cursor trace.pending ++ ofTraces (first + 1) rest

/-- The widget of the first step after this one that acts on a widget. -/
def nextWidget? (step : PendingStep) : Option Widget :=
  step.later.findSome? (·.action.widget?)

/-- Whether the step is skipped on the live screen: an action on a widget that is not found there,
or a back on the home screen, or a back from a screen that is not fully similar to the recorded
one while the next recorded widget is found already. -/
def isSkippable (context : Context) (step : PendingStep) : Bool :=
  match step.entry.action with
  | .onWidget widget _ =>
      (context.findExact widget).isNone && (context.findAnywhere widget).isNone
  | .pressBack =>
      context.screen.isHome ||
        (!(context.screen.similarity step.entry.screen).isFull &&
          step.nextWidget?.any fun widget => (context.findAnywhere widget).isSome)
  | _ => false

end PendingStep

/-- How many steps are skipped before the first that cannot be. -/
def leadingSkips (context : Context) (steps : List PendingStep) : Nat :=
  (steps.takeWhile (·.isSkippable context)).length

/-- A recorded action on the live screen: the widget is replaced by the first live one that is
structurally equal at the same location, else by the first that is equal at any location. -/
def retargeted (context : Context) : Action → Action
  | .onWidget widget gesture =>
      let live := (context.findExact widget).or (context.findAnywhere widget)
      .onWidget (live.getD widget) gesture
  | action => action

/-- The pending steps of all traces, in order. -/
def pendingSteps (playback : Playback) : List PendingStep :=
  PendingStep.ofTraces 0 playback.traces

/-- Move the cursor of each trace past those of the steps that are its own; the first trace has
the number `first`. -/
def passFrom (first : Nat) (steps : List PendingStep) : List PlaybackTrace → List PlaybackTrace
  | [] => []
  | trace :: rest =>
      trace.advance (steps.countP (·.trace = first)) :: passFrom (first + 1) steps rest

/-- The playback after steps were passed. -/
def pass (playback : Playback) (steps : List PendingStep) : Playback :=
  { playback with traces := passFrom 0 steps playback.traces }

/-- Mark a step as replayed in traces of which the first has the number `first`. -/
def markFrom (first : Nat) (step : PendingStep) (traces : List PlaybackTrace) :
    List PlaybackTrace :=
  traces.modify (step.trace - first) fun trace =>
    { trace with entries := trace.entries.modify step.position TraceEntry.replayed }

/-- The playback after a step was marked as replayed. -/
def mark (playback : Playback) (step : PendingStep) : Playback :=
  { playback with traces := markFrom 0 step playback.traces }

/-! ## Single steps -/

theorem bind_firstWidgetEntry (entries : List TraceEntry) :
    (PlaybackTrace.firstWidgetEntry entries).bind (·.action.widget?) =
      entries.findSome? (·.action.widget?) := by
  induction entries with
  | nil => rfl
  | cons entry rest ih =>
      rw [PlaybackTrace.firstWidgetEntry] at ih ⊢
      cases widget : entry.action.widget? with
      | none => simp [widget, ih]
      | some target => simp [widget]

theorem replay_eq (context : Context) (step : PendingStep) :
    replay context step.entry step.later =
      if step.isSkippable context then none else some (retargeted context step.entry.action) := by
  unfold replay PendingStep.isSkippable PendingStep.nextWidget?
  cases recorded : step.entry.action with
  | onWidget widget gesture =>
      cases exact : context.findExact widget with
      | some live => simp [exact, retargeted]
      | none =>
          cases anywhere : context.findAnywhere widget <;> simp [exact, anywhere, retargeted]
  | pressBack =>
      dsimp only
      rw [bind_firstWidgetEntry]
      by_cases home : context.screen.isHome = true
      · simp [home]
      · by_cases similar : (context.screen.similarity step.entry.screen).isFull = true
        · simp [home, similar, retargeted]
        · cases next : step.later.findSome? (·.action.widget?) with
          | none => simp [home, similar, retargeted]
          | some widget =>
              cases found : context.findAnywhere widget <;>
                simp [home, similar, found, retargeted]
  | reset | terminate | observe => rfl

theorem replay_eq_none_iff (context : Context) (step : PendingStep) :
    replay context step.entry step.later = none ↔ step.isSkippable context = true := by
  rw [replay_eq]
  cases step.isSkippable context <;> simp

theorem retargeted_of_replay
    {context : Context} {entry : TraceEntry} {later : List TraceEntry} {action : Action}
    (replays : replay context entry later = some action) :
    action = retargeted context entry.action := by
  have all := replay_eq context ⟨0, 0, entry, later⟩
  rw [replays] at all
  split at all
  · cases all
  · exact Option.some.inj all

/-! ## All pending steps in one list -/

/-- What a request does: how many pending steps it passes, which of them it replays, and what it
answers. -/
structure Sweep where
  passed : Nat
  replayed : Option PendingStep
  answer : Except StrategyError Action

/-- The same, after one more step. -/
def Sweep.succ (sweep : Sweep) : Sweep :=
  { sweep with passed := sweep.passed + 1 }

/-- Go through pending steps when `skipped` have been skipped before. -/
def sweep (context : Context) (maxSkips skipped : Nat) : List PendingStep → Sweep
  | [] => ⟨0, none, .ok .terminate⟩
  | step :: rest =>
      if step.isSkippable context then
        if maxSkips < skipped + 1 then ⟨1, none, .error (.skipLimitExceeded (skipped + 1))⟩
        else (sweep context maxSkips (skipped + 1) rest).succ
      else ⟨1, some step, .ok (retargeted context step.entry.action)⟩

/-- The traces after a request, if these are all their pending steps and the first trace has the
number `first`. -/
def Sweep.settle (sweep : Sweep) (first : Nat) (steps : List PendingStep)
    (traces : List PlaybackTrace) : List PlaybackTrace :=
  let passed := passFrom first (steps.take sweep.passed) traces
  match sweep.replayed with
  | some step => markFrom first step passed
  | none => passed

section

variable {context : Context} {maxSkips skipped first : Nat}

theorem mem_of_replayed
    {steps : List PendingStep} {step : PendingStep}
    (replayed : (sweep context maxSkips skipped steps).replayed = some step) : step ∈ steps := by
  induction steps generalizing skipped with
  | nil => cases replayed
  | cons other rest ih =>
      rw [sweep] at replayed
      split at replayed
      · split at replayed
        · cases replayed
        · exact List.mem_cons_of_mem _ (ih replayed)
      · cases replayed
        exact List.mem_cons_self

/-- How the scan of one trace agrees with the search in the list that its steps begin. -/
inductive Agrees (context : Context) (maxSkips trace position : Nat) (entries : List TraceEntry)
    (rest : List PendingStep) : Nat × ScanEnd → Sweep → Prop where
  | found (before : List TraceEntry) {later : List TraceEntry} {entry : TraceEntry}
      {action : Action} (split : entries = before ++ entry :: later) :
      Agrees context maxSkips trace position entries rest (before.length + 1, .found action)
        ⟨before.length + 1, some ⟨trace, position + before.length, entry, later⟩, .ok action⟩
  | tooMany {passed count : Nat} (within : passed ≤ entries.length) :
      Agrees context maxSkips trace position entries rest (passed, .tooMany count)
        ⟨passed, none, .error (.skipLimitExceeded count)⟩
  | exhausted (count : Nat) :
      Agrees context maxSkips trace position entries rest (entries.length, .exhausted count)
        { sweep context maxSkips count rest with
          passed := entries.length + (sweep context maxSkips count rest).passed }

theorem Agrees.cons
    {trace position : Nat} {entries : List TraceEntry} {rest : List PendingStep}
    {scanned : Nat × ScanEnd} {swept : Sweep} (entry : TraceEntry)
    (agrees : Agrees context maxSkips trace (position + 1) entries rest scanned swept) :
    Agrees context maxSkips trace position (entry :: entries) rest
      (scanned.1 + 1, scanned.2) swept.succ := by
  cases agrees with
  | @found before later found action split =>
      have place : position + 1 + before.length = position + (entry :: before).length := by
        rw [List.length_cons]
        omega
      rw [place]
      exact .found (entry :: before) (by rw [split, List.cons_append])
  | tooMany within => exact .tooMany (Nat.succ_le_succ within)
  | exhausted count =>
      have passed : entries.length + (sweep context maxSkips count rest).passed + 1 =
          (entry :: entries).length + (sweep context maxSkips count rest).passed := by
        rw [List.length_cons]
        omega
      rw [Sweep.succ, passed]
      exact .exhausted count

theorem scan_agrees (context : Context) (maxSkips skipped trace position : Nat)
    (entries : List TraceEntry) (rest : List PendingStep) :
    Agrees context maxSkips trace position entries rest (scan context maxSkips skipped entries)
      (sweep context maxSkips skipped (PendingStep.ofEntries trace position entries ++ rest)) := by
  induction entries generalizing position skipped with
  | nil =>
      have agrees : Agrees context maxSkips trace position [] rest _ _ := .exhausted skipped
      simpa [scan, PendingStep.ofEntries] using agrees
  | cons entry later ih =>
      have here := replay_eq context ⟨trace, position, entry, later⟩
      rw [PendingStep.ofEntries, List.cons_append, scan, sweep]
      dsimp only at here
      rw [here]
      by_cases skips : PendingStep.isSkippable context ⟨trace, position, entry, later⟩ = true
      · by_cases many : maxSkips < skipped + 1
        · simp only [skips, many, if_true]
          exact .tooMany (by simp)
        · simp only [skips, many, if_true, if_false]
          exact (ih _ (position + 1)).cons entry
      · simp only [skips]
        exact .found [] rfl

/-! ## What is passed and what is marked -/

theorem trace_of_mem_ofEntries
    {trace position : Nat} {entries : List TraceEntry} {step : PendingStep}
    (member : step ∈ PendingStep.ofEntries trace position entries) : step.trace = trace := by
  induction entries generalizing position with
  | nil => cases member
  | cons entry later ih =>
      rcases List.mem_cons.mp member with rfl | there
      · rfl
      · exact ih there

theorem le_trace_of_mem_ofTraces
    {traces : List PlaybackTrace} {step : PendingStep}
    (member : step ∈ PendingStep.ofTraces first traces) : first ≤ step.trace := by
  induction traces generalizing first with
  | nil => cases member
  | cons trace rest ih =>
      rcases List.mem_append.mp member with here | there
      · exact Nat.le_of_eq (trace_of_mem_ofEntries here).symm
      · exact Nat.le_of_succ_le (ih there)

@[simp]
theorem length_ofEntries (trace position : Nat) (entries : List TraceEntry) :
    (PendingStep.ofEntries trace position entries).length = entries.length := by
  induction entries generalizing position with
  | nil => rfl
  | cons entry later ih => rw [PendingStep.ofEntries, List.length_cons, ih, List.length_cons]

/-- Steps of earlier traces move no cursor. -/
theorem passFrom_append_of_lt
    {earlier : List PendingStep} (before : ∀ step ∈ earlier, step.trace < first)
    (steps : List PendingStep) (traces : List PlaybackTrace) :
    passFrom first (earlier ++ steps) traces = passFrom first steps traces := by
  induction traces generalizing first with
  | nil => rfl
  | cons trace rest ih =>
      have none : earlier.countP (·.trace = first) = 0 := by
        refine List.countP_eq_zero.mpr fun step member => ?_
        simpa using Nat.ne_of_lt (before step member)
      rw [passFrom, passFrom, List.countP_append, none, Nat.zero_add,
        ih fun step member => Nat.lt_succ_of_lt (before step member)]

theorem passFrom_nil (traces : List PlaybackTrace) : passFrom first [] traces = traces := by
  induction traces generalizing first with
  | nil => rfl
  | cons trace rest ih =>
      rw [passFrom, ih]
      rfl

/-- Steps of the first trace move its cursor, and steps of later traces move the others. -/
theorem passFrom_cons
    {own others : List PendingStep} (trace : PlaybackTrace) (rest : List PlaybackTrace)
    (here : ∀ step ∈ own, step.trace = first) (there : ∀ step ∈ others, first < step.trace) :
    passFrom first (own ++ others) (trace :: rest) =
      trace.advance own.length :: passFrom (first + 1) others rest := by
  have all : own.countP (·.trace = first) = own.length :=
    List.countP_eq_length.mpr fun step member => decide_eq_true (here step member)
  have none : others.countP (·.trace = first) = 0 := by
    refine List.countP_eq_zero.mpr fun step member => ?_
    simpa using Nat.ne_of_gt (there step member)
  rw [passFrom, List.countP_append, all, none, Nat.add_zero,
    passFrom_append_of_lt fun step member => by rw [here step member]; exact Nat.lt_succ_self _]

theorem passFrom_take
    {trace : PlaybackTrace} {count : Nat} (rest : List PlaybackTrace) (others : List PendingStep)
    (within : count ≤ trace.pending.length) :
    passFrom first ((PendingStep.ofEntries first trace.cursor trace.pending ++ others).take count)
        (trace :: rest) =
      trace.advance count :: rest := by
  have length := length_ofEntries first trace.cursor trace.pending
  generalize steps : PendingStep.ofEntries first trace.cursor trace.pending = own at length ⊢
  have here : ∀ step ∈ own.take count, step.trace = first := fun step member =>
    trace_of_mem_ofEntries (steps ▸ List.mem_of_mem_take member)
  rw [List.take_append_of_le_length (length ▸ within), ← List.append_nil (own.take count),
    passFrom_cons trace rest here (List.forall_mem_nil _), passFrom_nil, List.length_take, length,
    Nat.min_eq_left within]

theorem passFrom_take_add
    {others : List PendingStep} (trace : PlaybackTrace) (rest : List PlaybackTrace) (count : Nat)
    (there : ∀ step ∈ others, first < step.trace) :
    passFrom first ((PendingStep.ofEntries first trace.cursor trace.pending ++ others).take
        (trace.pending.length + count)) (trace :: rest) =
      trace.advance trace.pending.length :: passFrom (first + 1) (others.take count) rest := by
  have length := length_ofEntries first trace.cursor trace.pending
  generalize steps : PendingStep.ofEntries first trace.cursor trace.pending = own at length ⊢
  have here : ∀ step ∈ own, step.trace = first := fun step member =>
    trace_of_mem_ofEntries (steps ▸ member)
  rw [← length, List.take_length_add_append,
    passFrom_cons trace rest here fun step member => there step (List.mem_of_mem_take member)]

theorem markFrom_cons_of_lt
    {step : PendingStep} (trace : PlaybackTrace) (rest : List PlaybackTrace)
    (there : first < step.trace) :
    markFrom first step (trace :: rest) = trace :: markFrom (first + 1) step rest := by
  have index : step.trace - first = step.trace - (first + 1) + 1 := by omega
  rw [markFrom, markFrom, index, List.modify_succ_cons]

/-- A search in traces does what a search in the list of their pending steps says. -/
theorem seek_eq_sweep (first : Nat) (traces : List PlaybackTrace) :
    seek context maxSkips skipped traces =
      let steps := PendingStep.ofTraces first traces
      let swept := sweep context maxSkips skipped steps
      (swept.answer, swept.settle first steps traces) := by
  induction traces generalizing first skipped with
  | nil => rfl
  | cons trace rest ih =>
      have agrees := scan_agrees context maxSkips skipped first trace.cursor trace.pending
        (PendingStep.ofTraces (first + 1) rest)
      rcases scanned : scan context maxSkips skipped trace.pending with ⟨passed, ending⟩
      rw [scanned] at agrees
      simp only [seek, scanned, PendingStep.ofTraces]
      generalize sweep context maxSkips skipped (PendingStep.ofEntries first trace.cursor
        trace.pending ++ PendingStep.ofTraces (first + 1) rest) = swept at agrees ⊢
      cases agrees with
      | @found before later entry action split =>
          have within : before.length + 1 ≤ trace.pending.length := by simp [split]
          simp only [Sweep.settle, passFrom_take _ _ within, markFrom, Nat.sub_self,
            List.modify_zero_cons, PlaybackTrace.explore_advance_succ]
          rfl
      | tooMany within => simp only [Sweep.settle, passFrom_take _ _ within]
      | exhausted count =>
          have there : ∀ step ∈ PendingStep.ofTraces (first + 1) rest, first < step.trace :=
            fun step member => le_trace_of_mem_ofTraces member
          simp only [ih (first + 1), Sweep.settle, passFrom_take_add _ _ _ there]
          split
          case h_1 step replayed =>
            rw [markFrom_cons_of_lt _ _ (there step (mem_of_replayed replayed))]
          case h_2 => rfl

/-- The search in a list of pending steps follows from the number of leading steps that can be
skipped. -/
theorem sweep_eq (few : skipped ≤ maxSkips) (steps : List PendingStep) :
    sweep context maxSkips skipped steps =
      if maxSkips < skipped + leadingSkips context steps then
        ⟨maxSkips + 1 - skipped, none, .error (.skipLimitExceeded (maxSkips + 1))⟩
      else
        match steps[leadingSkips context steps]? with
        | some step =>
            ⟨leadingSkips context steps + 1, some step,
              .ok (retargeted context step.entry.action)⟩
        | none => ⟨leadingSkips context steps, none, .ok .terminate⟩ := by
  induction steps generalizing skipped with
  | nil => simp [sweep, leadingSkips, few]
  | cons step rest ih =>
      rw [sweep]
      by_cases skips : step.isSkippable context = true
      · have leading : leadingSkips context (step :: rest) = leadingSkips context rest + 1 := by
          simp [leadingSkips, skips]
        simp only [skips, if_true, leading, List.getElem?_cons_succ]
        by_cases last : maxSkips = skipped
        · rw [if_pos (by omega), if_pos (by omega), last, Nat.add_sub_cancel_left]
        · have same : skipped + 1 + leadingSkips context rest =
              skipped + (leadingSkips context rest + 1) := by omega
          rw [if_neg (by omega), ih (by omega), same]
          split
          case isTrue =>
            have passed : maxSkips + 1 - (skipped + 1) + 1 = maxSkips + 1 - skipped := by omega
            rw [Sweep.succ, passed]
          case isFalse => split <;> rfl
      · simp [leadingSkips, skips, few]

end

/-- A request for an action is a scan of the pending steps.  If more leading steps than allowed
can be skipped, they are passed up to one more than allowed and none is replayed; else the step
after them is replayed and is the last that is passed; and if there is no such step, all are passed
and the recording has ended. -/
theorem next_eq_scan (playback : Playback) (context : Context) :
    let pending := playback.pendingSteps
    let skips := leadingSkips context pending
    playback.next context =
      if playback.maxSkips < skips then
        (.error (.skipLimitExceeded (playback.maxSkips + 1)),
          playback.pass (pending.take (playback.maxSkips + 1)))
      else
        match pending[skips]? with
        | some step =>
            (.ok (retargeted context step.entry.action),
              (playback.pass (pending.take (skips + 1))).mark step)
        | none => (.ok .terminate, playback.pass pending) := by
  intro pending skips
  have swept := @sweep_eq context playback.maxSkips 0 (Nat.zero_le _) pending
  rw [Nat.zero_add, Nat.sub_zero] at swept
  rw [next, seek_eq_sweep 0]
  change ((sweep context playback.maxSkips 0 pending).answer, { playback with
    traces := (sweep context playback.maxSkips 0 pending).settle 0 pending playback.traces }) = _
  rw [swept]
  split
  case isTrue => rfl
  case isFalse =>
    cases found : pending[skips]? with
    | some step => rfl
    | none =>
        have all := List.take_of_length_le (List.getElem?_eq_none_iff.mp found)
        change (_, playback.pass (pending.take skips)) = _
        rw [all]

end Playback

end GuiExplorer
