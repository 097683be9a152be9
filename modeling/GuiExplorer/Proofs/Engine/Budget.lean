import GuiExplorer.Proofs.Engine.Arbitration

/-!
# What bounds the decisions of an engine

A strategy that ends the run after so many actions has the last word, whatever other
strategies there are.  Below it a recording has the word: of several the first one
replays, and each of its actions takes one of the steps that are left.
-/

namespace GuiExplorer

/-! ## Steps left to replay -/

namespace Playback

theorem InOrder.passedIn_le {traces : List PlaybackTrace} (inOrder : InOrder traces) :
    passedIn traces ≤ (stepsOf traces).length := by
  induction traces with
  | nil => exact Nat.le_refl 0
  | cons trace rest ih =>
      rw [passedIn_cons, stepsOf_cons, List.length_append]
      exact Nat.add_le_add inOrder.head (ih inOrder.tail)

theorem length_stepsOf_next
    {playback : Playback} (context : Context) (inOrder : InOrder playback.traces) :
    (stepsOf (playback.next context).2.traces).length = (stepsOf playback.traces).length := by
  obtain ⟨sought, -, -⟩ := next_sought context inOrder
  generalize (playback.next context).1 = answer at sought
  cases sought with
  | replayed skipped rest pending skips replays marked reached => rw [marked, List.length_modify]
  | finished skips same complete => rw [same]
  | tooMany skipped rest pending skips some same reached => rw [same]

def stepsLeft (playback : Playback) : Nat :=
  (pendingOf playback.traces).length

theorem stepsLeft_of_isFresh
    {playback : Playback} (fresh : ∀ trace ∈ playback.traces, trace.IsFresh) :
    playback.stepsLeft = (stepsOf playback.traces).length := by
  have unbegun : passedIn playback.traces = 0 :=
    InOrder.passedIn_unbegun fun trace member => (fresh trace member).cursor
  rw [stepsLeft, (kept_of_isFresh fresh).inOrder.pendingOf_eq_drop, unbegun, List.drop_zero]

/-- A request takes a step, or it terminates since none is left. -/
theorem next_takes
    {playback : Playback} (context : Context) (kept : Kept playback.traces) :
    (playback.isComplete = true ∧ (playback.next context).2 = playback ∧
        (playback.next context).1 = .ok .terminate) ∨
      (playback.next context).2.stepsLeft < playback.stepsLeft := by
  rcases next_idle_or_passes context kept with idle | passes
  · exact .inl idle
  · have inOrder := (kept.next context).inOrder
    have within := inOrder.passedIn_le
    have length := length_stepsOf_next context kept.inOrder
    refine .inr ?_
    rw [stepsLeft, stepsLeft, inOrder.pendingOf_eq_drop, kept.inOrder.pendingOf_eq_drop,
      List.length_drop, List.length_drop]
    omega

end Playback

/-! ## Who decides -/

namespace Strategy

def recording? : Strategy → Option Playback
  | .playback recorded => some recorded
  | _ => none

theorem eq_playback_of_recording? {strategy : Strategy} {recorded : Playback}
    (replays : strategy.recording? = some recorded) :
    strategy = .playback recorded := by
  cases strategy <;> cases replays
  rfl

/-- Only recordings and strategies that end the run have the priority of a recording. -/
theorem replays_or_terminates
    {strategy : Strategy} {context : Context}
    (high : Priority.playback.rank ≤ (strategy.fitness context).rank) :
    (∃ recorded, strategy = .playback recorded) ∨ ∃ criterion, strategy = .terminate criterion := by
  cases strategy with
  | playback recorded => exact .inl ⟨recorded, rfl⟩
  | terminate criterion => exact .inr ⟨criterion, rfl⟩
  | explore | back | reset | allowPermission =>
      simp only [fitness] at high
      split at high <;> simp [Priority.rank] at high

theorem eq_terminate_of_fitness
    {strategy : Strategy} {context : Context}
    (high : Priority.terminate.rank ≤ (strategy.fitness context).rank) :
    ∃ criterion, strategy = .terminate criterion := by
  have atLeast : Priority.playback.rank ≤ Priority.terminate.rank := by decide
  rcases replays_or_terminates (Nat.le_trans atLeast high) with ⟨recorded, rfl⟩ | terminates
  · simp [fitness, Priority.rank] at high
  · exact terminates

end Strategy

namespace Engine

/-- The recording that the first of the strategies with one replays. -/
def firstRecording? (strategies : List Strategy) : Option Playback :=
  strategies.findSome? Strategy.recording?

namespace Chooses

variable {context : Context} {strategies after : List Strategy}
  {result : Except EngineError Action}

theorem terminates
    {strategy : Strategy} (chooses : Chooses context strategies result after)
    (member : strategy ∈ strategies) (wants : strategy.fitness context = .terminate) :
    result = .ok .terminate := by
  cases chooses with
  | nobody error unwilling => cases wants.symm.trans (unwilling strategy member)
  | first split earlier fits willing =>
      have high : (strategy.fitness context).rank ≤ (highest context strategies).rank :=
        rank_fitness_le_highest member
      rw [wants, ← fits] at high
      obtain ⟨criterion, rfl⟩ := Strategy.eq_terminate_of_fitness high
      rfl

theorem keeps
    {strategy : Strategy} (chooses : Chooses context strategies result after)
    (member : strategy ∈ strategies) (steady : strategy.IsSteady) :
    strategy ∈ after := by
  cases chooses with
  | nobody => exact member
  | first split earlier fits willing =>
      rw [split] at member
      rcases List.mem_append.mp member with before | here
      · exact List.mem_append_left _ before
      · refine List.mem_append_right _ ?_
        rcases List.mem_cons.mp here with rfl | later
        · rw [steady context]
          exact List.mem_cons_self
        · exact List.mem_cons_of_mem _ later

/-- If there is a recording, either the run is ended above it, or the first recording is asked
for the action and may change. -/
theorem replays
    {recorded : Playback} (chooses : Chooses context strategies result after)
    (first : firstRecording? strategies = some recorded) :
    (result = .ok .terminate ∧ firstRecording? after = some recorded) ∨
      (∃ wrap, result = (recorded.next context).1.mapError wrap) ∧
        firstRecording? after = some (recorded.next context).2 := by
  obtain ⟨replaying, member, replays⟩ := List.exists_of_findSome?_eq_some first
  obtain rfl := Strategy.eq_playback_of_recording? replays
  have high : Priority.playback.rank ≤ (highest context strategies).rank :=
    rank_fitness_le_highest member
  cases chooses with
  | nobody error unwilling => cases unwilling _ member
  | @first before later decider split earlier fits willing =>
      rw [← fits] at high
      rcases Strategy.replays_or_terminates high with ⟨other, rfl⟩ | ⟨criterion, rfl⟩
      · -- No strategy before the decider has the priority of a recording.
        have none : before.findSome? Strategy.recording? = none := by
          refine List.findSome?_eq_none_iff.mpr fun strategy inBefore => ?_
          cases strategy with
          | playback found => exact (earlier (.playback found) inBefore fits).elim
          | explore | back | reset | allowPermission | terminate => rfl
        have same : other = recorded := by
          simpa [firstRecording?, split, List.findSome?_append, none, List.findSome?_cons,
            Strategy.recording?] using first
        subst same
        refine .inr ⟨⟨_, rfl⟩, ?_⟩
        simp [firstRecording?, List.findSome?_append, none, List.findSome?_cons,
          Strategy.recording?, Strategy.decide]
      · exact .inl ⟨rfl, split ▸ first⟩

end Chooses

end Engine

/-! ## One decision after another -/

/-- All that an engine is given for a decision. -/
structure Occasion where
  store : Store
  screen : Screen
  elapsed : Duration
  package : String

namespace Decision

def succeeds (decision : Decision) : Bool :=
  decision.result.toOption.isSome

/-- Whether an action was decided that does not end the run. -/
def goesOn (decision : Decision) : Bool :=
  decision.result.toOption.any (!·.isTerminate)

theorem goesOn_iff {decision : Decision} :
    decision.goesOn = true ↔
      ∃ action, decision.result = .ok action ∧ action.isTerminate = false := by
  rcases result : decision.result with error | action <;>
    simp [goesOn, result, Except.toOption]

theorem not_goesOn_of_terminate
    {decision : Decision} (ends : decision.result = .ok .terminate) :
    decision.goesOn = false := by
  simp [goesOn, ends, Except.toOption, Action.isTerminate]

end Decision

namespace Engine

def decideOn (engine : Engine) (occasion : Occasion) : Decision :=
  engine.decide occasion.store occasion.screen occasion.elapsed occasion.package

/-- Decide on one occasion after another. -/
def decisions (engine : Engine) : List Occasion → List Decision
  | [] => []
  | occasion :: rest =>
      let decision := engine.decideOn occasion
      decision :: decision.engine.decisions rest

def afterAll (engine : Engine) (occasions : List Occasion) : Engine :=
  occasions.foldl (fun engine occasion => (engine.decideOn occasion).engine) engine

/-- The engine has the strategies and has not decided anything yet. -/
structure IsNew (engine : Engine) (pool : List Strategy) : Prop where
  strategies : engine.strategies = pool
  last : engine.last = none
  actionCount : engine.actionCount = 0
  running : engine.isTerminated = false

/-- An engine decides nothing at all, or its strategies come to a result. -/
theorem decideOn_cases (engine : Engine) (occasion : Occasion) :
    (∃ error, (engine.decideOn occasion).result = .error error ∧
      (engine.decideOn occasion).engine = engine ∧
      (engine.isTerminated = true ∨ engine.strategies = [])) ∨
    ∃ context, context.actionCount = engine.actionCount ∧
      Chooses context engine.strategies (engine.decideOn occasion).result
        (engine.decideOn occasion).engine.strategies := by
  obtain ⟨store, screen, elapsed, package⟩ := occasion
  rcases idle_or_running engine with idle | ⟨running, occupied⟩
  · obtain ⟨error, nothing⟩ := decide_idle store screen elapsed package idle
    exact .inl ⟨error, by rw [decideOn, nothing], by rw [decideOn, nothing], idle⟩
  · refine .inr ⟨engine.context (store.count engine.lastKey) screen elapsed package, rfl, ?_⟩
    rw [decideOn, decide_eq store screen elapsed package running occupied]
    exact decideIn_chooses engine _

theorem running_of_decideOn
    {engine : Engine} {occasion : Occasion} {action : Action}
    (decided : (engine.decideOn occasion).result = .ok action) :
    engine.isTerminated = false := by
  cases terminated : engine.isTerminated with
  | false => rfl
  | true =>
      obtain ⟨error, nothing⟩ := decide_idle occasion.store occasion.screen occasion.elapsed
        occasion.package (.inl terminated)
      rw [decideOn, nothing] at decided
      cases decided

theorem actionCount_decideOn (engine : Engine) (occasion : Occasion) :
    (engine.decideOn occasion).engine.actionCount =
      engine.actionCount + if (engine.decideOn occasion).succeeds then 1 else 0 := by
  cases result : (engine.decideOn occasion).result with
  | error error =>
      have failed : (engine.decideOn occasion).succeeds = false := by
        simp [Decision.succeeds, result, Except.toOption]
      rw [failed]
      exact (decide_error result).1
  | ok action =>
      have succeeds : (engine.decideOn occasion).succeeds = true := by
        simp [Decision.succeeds, result, Except.toOption]
      obtain ⟨-, -, count, -⟩ := decide_ok result
      rw [succeeds]
      exact count

theorem actionCount_afterAll (engine : Engine) (occasions : List Occasion) :
    (engine.afterAll occasions).actionCount =
      engine.actionCount + (engine.decisions occasions).countP (·.succeeds) := by
  induction occasions generalizing engine with
  | nil => rfl
  | cons occasion rest ih =>
      rw [afterAll, List.foldl_cons, ← afterAll, ih, actionCount_decideOn, decisions,
        List.countP_cons]
      omega

/-- What an engine has left of something is never more after a decision, and less after one
with which the run goes on. -/
def Spends (left : Nat → Engine → Prop) : Prop :=
  ∀ {amount : Nat} {engine : Engine} (occasion : Occasion), left amount engine →
    ∃ remaining, left remaining (engine.decideOn occasion).engine ∧
      remaining + (if (engine.decideOn occasion).goesOn then 1 else 0) ≤ amount

theorem Spends.afterAll
    {left : Nat → Engine → Prop} {amount : Nat} {engine : Engine} (spends : Spends left)
    (occasions : List Occasion) (start : left amount engine) :
    ∃ remaining, left remaining (engine.afterAll occasions) ∧
      remaining + (engine.decisions occasions).countP (·.goesOn) ≤ amount := by
  induction occasions generalizing amount engine with
  | nil => exact ⟨amount, start, Nat.le_refl _⟩
  | cons occasion rest ih =>
      obtain ⟨middle, reached, cost⟩ := spends occasion start
      obtain ⟨remaining, final, costs⟩ := ih reached
      refine ⟨remaining, final, ?_⟩
      rw [decisions, List.countP_cons]
      omega

/-! ## A budget of actions -/

/-- The engine keeps to a budget, of which so many actions are left. -/
def ActionsLeft (limit amount : Nat) (engine : Engine) : Prop :=
  .actionBudget limit ∈ engine.strategies ∧ limit - engine.actionCount = amount

theorem actionBudget_steady (limit : Nat) : (Strategy.actionBudget limit).IsSteady :=
  Strategy.isSteady_of_not_playback nofun

theorem terminates_of_spent
    {engine : Engine} {limit : Nat} (occasion : Occasion)
    (member : .actionBudget limit ∈ engine.strategies) (spent : limit ≤ engine.actionCount)
    (running : engine.isTerminated = false) :
    (engine.decideOn occasion).result = .ok .terminate := by
  rcases decideOn_cases engine occasion with
    ⟨error, -, -, terminated | empty⟩ | ⟨context, count, chooses⟩
  · simp [running] at terminated
  · simp [empty] at member
  · have met : (Strategy.actionBudget limit).fitness context = .terminate := by
      simp [Strategy.actionBudget, Strategy.fitness, Criterion.actionBudget, count, spent]
    exact chooses.terminates member met

theorem actionsLeft_spends (limit : Nat) : Spends (ActionsLeft limit) := by
  rintro amount engine occasion ⟨member, rfl⟩
  have count := actionCount_decideOn engine occasion
  refine ⟨_, ⟨?_, rfl⟩, ?_⟩
  · rcases decideOn_cases engine occasion with ⟨error, -, same, -⟩ | ⟨context, -, chooses⟩
    · rwa [same]
    · exact chooses.keeps member (actionBudget_steady limit)
  · split
    case isFalse => omega
    case isTrue goesOn =>
      obtain ⟨action, decided, other⟩ := Decision.goesOn_iff.mp goesOn
      have succeeds : (engine.decideOn occasion).succeeds = true := by
        simp [Decision.succeeds, decided, Except.toOption]
      have unspent : ¬ limit ≤ engine.actionCount := by
        intro spent
        have ends := terminates_of_spent occasion member spent (running_of_decideOn decided)
        rw [Decision.not_goesOn_of_terminate ends] at goesOn
        cases goesOn
      rw [succeeds, if_pos rfl] at count
      omega

/-! ## A recording -/

/-- The first recording has come this far, and so many of its steps are left. -/
def StepsLeft (recorded : Playback) (amount : Nat) (engine : Engine) : Prop :=
  ∃ contexts, firstRecording? engine.strategies = some (recorded.afterCalls contexts) ∧
    (recorded.afterCalls contexts).stepsLeft = amount

theorem terminates_of_complete
    {engine : Engine} {replaying : Playback} (occasion : Occasion)
    (first : firstRecording? engine.strategies = some replaying)
    (complete : replaying.isComplete = true) (running : engine.isTerminated = false) :
    (engine.decideOn occasion).result = .ok .terminate := by
  rcases decideOn_cases engine occasion with
    ⟨error, -, -, terminated | empty⟩ | ⟨context, -, chooses⟩
  · simp [running] at terminated
  · simp [empty, firstRecording?] at first
  · rcases chooses.replays first with ⟨ends, -⟩ | ⟨⟨wrap, asked⟩, -⟩
    · exact ends
    · have finished := Playback.seek_of_complete context replaying.maxSkips 0
        (List.all_eq_true.mp complete)
      rw [asked, Playback.next, finished]
      rfl

theorem stepsLeft_spends
    {recorded : Playback} (kept : Playback.Kept recorded.traces) :
    Spends (StepsLeft recorded) := by
  rintro amount engine occasion ⟨contexts, first, rfl⟩
  rcases decideOn_cases engine occasion with ⟨error, failed, same, -⟩ | ⟨context, -, chooses⟩
  · refine ⟨_, ⟨contexts, by rw [same, first], rfl⟩, ?_⟩
    simp [Decision.goesOn, failed, Except.toOption]
  · rcases chooses.replays first with ⟨ends, same⟩ | ⟨⟨wrap, asked⟩, next⟩
    · refine ⟨_, ⟨contexts, same, rfl⟩, ?_⟩
      simp [Decision.not_goesOn_of_terminate ends]
    · have calls : recorded.afterCalls (contexts ++ [context]) =
          ((recorded.afterCalls contexts).next context).2 := by
        simp [Playback.afterCalls]
      refine ⟨_, ⟨contexts ++ [context], calls ▸ next, rfl⟩, ?_⟩
      rw [calls]
      rcases Playback.next_takes context (kept.afterCalls contexts) with
        ⟨-, same, terminates⟩ | takes
      · rw [same, Decision.not_goesOn_of_terminate (asked.trans (by rw [terminates]; rfl))]
        exact Nat.le_refl _
      · split <;> omega

end Engine

end GuiExplorer
