import GuiExplorer.Proofs.Device.Answering
import GuiExplorer.Proofs.Engine.Budget
import GuiExplorer.Proofs.Exploration.Progress

/-!
# Runs end

A run with a budget of actions or with a recording ends, whatever the device shows: each
round but the last spends an action of the budget and takes a step of the recording.
-/

namespace GuiExplorer

namespace Explorer

variable {σ : Type} {world : World σ} {explorer : Explorer σ}

/-- The action of a round is a decision of the engine. -/
theorem decision_of_round
    {next : Explorer σ} {action : Action} (turned : explorer.round world = (.ok action, next)) :
    ∃ occasion, (explorer.engine.decideOn occasion).result = .ok action ∧
      next.engine = (explorer.engine.decideOn occasion).engine := by
  by_cases ready : explorer.client.phase = .ready
  case neg => simp [round, observe, query, Client.query, Client.expect, ready] at turned
  case pos =>
    rcases round_cases world ready with ⟨turn, after, taken, took⟩ | ⟨error, after, -, halted⟩
    · obtain ⟨same, rfl⟩ := Prod.mk.inj (took.symm.trans turned)
      cases same
      obtain ⟨elapsed, decided, engine, -⟩ := taken.decided
      exact ⟨⟨explorer.store.record turn.screen, turn.screen, elapsed, explorer.appPackage⟩,
        decided, engine⟩
    · cases halted.symm.trans turned

/-- Rounds end when what the engine spends is used up. -/
theorem rounds_end
    {left : Nat → Engine → Prop} {amount limit : Nat} (spends : Engine.Spends left)
    (start : left amount explorer.engine) (within : amount < limit) :
    (explorer.rounds world limit).isSome = true := by
  induction limit generalizing amount explorer with
  | zero => contradiction
  | succ limit ih =>
      rw [rounds]
      rcases turned : explorer.round world with ⟨outcome, next⟩
      cases outcome with
      | error error => rfl
      | ok action =>
          cases stops : action.isTerminate with
          | true => simp [stops]
          | false =>
              obtain ⟨occasion, decided, engine⟩ := decision_of_round turned
              obtain ⟨remaining, reached, cost⟩ := spends occasion start
              have goesOn : (explorer.engine.decideOn occasion).goesOn = true :=
                Decision.goesOn_iff.mpr ⟨action, decided, stops⟩
              rw [goesOn, if_pos rfl] at cost
              rw [← engine] at reached
              simpa [stops] using ih reached (by omega)

theorem run_ends
    {left : Nat → Engine → Prop} {amount limit : Nat} (spends : Engine.Spends left)
    (start : left amount explorer.engine) (within : amount < limit) :
    (explorer.run world limit).isSome = true := by
  rw [run, Option.isSome_map]
  exact rounds_end spends start within

end Explorer

namespace Engine

/-- The first recording of the pool, of which nothing was replayed yet. -/
structure Replays (pool : List Strategy) (recorded : Playback) : Prop where
  first : firstRecording? pool = some recorded
  fresh : ∀ trace ∈ recorded.traces, trace.IsFresh

/-- On these occasions no more actions were decided than a budget allows, and when it is spent
the next decision is to terminate. -/
structure KeepsBudget (engine : Engine) (limit : Nat) (occasions : List Occasion) : Prop where
  bounded : (engine.decisions occasions).countP (·.goesOn) ≤ limit
  ends : (engine.afterAll occasions).isTerminated = false →
    limit ≤ (engine.decisions occasions).countP (·.succeeds) →
    ∀ occasion, ((engine.afterAll occasions).decideOn occasion).result = .ok .terminate

/-- On these occasions no more actions were decided than a recording has steps, and when it is
complete the next decision is to terminate. -/
structure KeepsToRecording (engine : Engine) (recorded : Playback) (occasions : List Occasion) :
    Prop where
  bounded : (engine.decisions occasions).countP (·.goesOn) ≤
    (Playback.stepsOf recorded.traces).length
  ends : ∃ contexts,
    firstRecording? (engine.afterAll occasions).strategies =
      some (recorded.afterCalls contexts) ∧
    ((engine.afterAll occasions).isTerminated = false →
      (recorded.afterCalls contexts).isComplete = true →
      ∀ occasion, ((engine.afterAll occasions).decideOn occasion).result = .ok .terminate)

namespace IsNew

variable {engine : Engine} {pool : List Strategy}

theorem actionsLeft
    {limit : Nat} (new : engine.IsNew pool) (member : .actionBudget limit ∈ pool) :
    ActionsLeft limit limit engine :=
  ⟨new.strategies ▸ member, by rw [new.actionCount, Nat.sub_zero]⟩

theorem stepsLeft
    {recorded : Playback} (new : engine.IsNew pool) (replays : Replays pool recorded) :
    StepsLeft recorded (Playback.stepsOf recorded.traces).length engine :=
  ⟨[], new.strategies ▸ replays.first, Playback.stepsLeft_of_isFresh replays.fresh⟩

theorem keepsBudget
    {limit : Nat} (new : engine.IsNew pool) (member : .actionBudget limit ∈ pool)
    (occasions : List Occasion) :
    engine.KeepsBudget limit occasions := by
  obtain ⟨remaining, ⟨kept, -⟩, cost⟩ :=
    Spends.afterAll (actionsLeft_spends limit) occasions (new.actionsLeft member)
  refine ⟨by omega, ?_⟩
  intro running spent occasion
  refine terminates_of_spent occasion kept ?_ running
  rw [actionCount_afterAll, new.actionCount]
  omega

theorem keepsToRecording
    {recorded : Playback} (new : engine.IsNew pool) (replays : Replays pool recorded)
    (occasions : List Occasion) :
    engine.KeepsToRecording recorded occasions := by
  have kept := Playback.kept_of_isFresh replays.fresh
  obtain ⟨remaining, ⟨contexts, first, -⟩, cost⟩ :=
    Spends.afterAll (stepsLeft_spends kept) occasions (new.stepsLeft replays)
  refine ⟨by omega, contexts, first, ?_⟩
  intro running complete occasion
  exact terminates_of_complete occasion first complete running

/-- Whatever other strategies there are and whatever they are given, an engine keeps to a budget
and to the first recording of its pool.  So a run ends, in one more round than the lesser of
both allows. -/
theorem ends_within_budgets (new : engine.IsNew pool) :
    (∀ limit, .actionBudget limit ∈ pool → ∀ occasions, engine.KeepsBudget limit occasions) ∧
    (∀ recorded, Replays pool recorded →
      ∀ occasions, engine.KeepsToRecording recorded occasions) ∧
    ∀ {σ : Type} (world : World σ) (explorer : Explorer σ), explorer.engine = engine →
      (∀ limit, .actionBudget limit ∈ pool →
        ∀ rounds, limit < rounds → (explorer.run world rounds).isSome = true) ∧
      (∀ recorded, Replays pool recorded →
        ∀ rounds, (Playback.stepsOf recorded.traces).length < rounds →
          (explorer.run world rounds).isSome = true) ∧
      ∀ limit recorded, .actionBudget limit ∈ pool → Replays pool recorded →
        ∀ rounds, min limit (Playback.stepsOf recorded.traces).length < rounds →
          (explorer.run world rounds).isSome = true := by
  refine ⟨fun limit member => new.keepsBudget member,
    fun recorded replays => new.keepsToRecording replays, ?_⟩
  rintro σ world explorer rfl
  have budgeted {limit rounds : Nat} (member : .actionBudget limit ∈ pool)
      (within : limit < rounds) : (explorer.run world rounds).isSome = true :=
    Explorer.run_ends (actionsLeft_spends limit) (new.actionsLeft member) within
  have replaying {recorded : Playback} {rounds : Nat} (replays : Replays pool recorded)
      (within : (Playback.stepsOf recorded.traces).length < rounds) :
      (explorer.run world rounds).isSome = true :=
    Explorer.run_ends (stepsLeft_spends (Playback.kept_of_isFresh replays.fresh))
      (new.stepsLeft replays) within
  refine ⟨fun limit member rounds => budgeted member,
    fun recorded replays rounds => replaying replays, ?_⟩
  intro limit recorded member replays rounds within
  have either : limit < rounds ∨ (Playback.stepsOf recorded.traces).length < rounds := by omega
  rcases either with sooner | later
  · exact budgeted member sooner
  · exact replaying replays later

/-- A budget of one action and a recording of one reset: that is all that is decided. -/
theorem ends_after_one_reset :
    let recorded := Playback.ofRecords "com.example.app" [(.reset, default)]
    let pool : List Strategy := [.explore, .actionBudget 1, .playback recorded]
    let engine := ofStrategies 1 pool
    let occasion : Occasion := ⟨.empty, default, ⟨0⟩, "com.example.app"⟩
    (engine.decideOn occasion).result = .ok .reset ∧
      (∀ occasions, (engine.decisions (occasion :: occasions)).countP (·.goesOn) ≤ 1) ∧
      (∀ other, ((engine.afterAll [occasion]).decideOn other).result = .ok .terminate) ∧
      ((Explorer.ofPool pool ()).run (steady .oneButton) 2).isSome = true := by
  intro recorded pool engine occasion
  have new : engine.IsNew pool := ⟨rfl, rfl, rfl, rfl⟩
  have budget : .actionBudget 1 ∈ pool := by simp [pool]
  have replays : Replays pool recorded := ⟨rfl, Playback.isFresh_of_mem_ofRecords _ _⟩
  obtain ⟨budgeted, replayed, ends⟩ := new.ends_within_budgets
  refine ⟨rfl, fun occasions => (budgeted 1 budget (occasion :: occasions)).bounded, ?_, ?_⟩
  · obtain ⟨-, contexts, first, completed⟩ := replayed recorded replays [occasion]
    have finished : (firstRecording? (engine.afterAll [occasion]).strategies).map
        Playback.isComplete = some true := rfl
    rw [first] at finished
    exact completed rfl (Option.some.inj finished)
  · exact (ends (steady .oneButton) (Explorer.ofPool pool ()) rfl).2.2 1 recorded budget replays 2
      (by decide)

end IsNew

end Engine

end GuiExplorer
