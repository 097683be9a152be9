import GuiExplorer.Proofs.Exploration.Turns

/-!
# The progress of a run

What a run has come to after a number of rounds, whether it has ended or not, is
a sequence of accepted turns and what followed them.
-/

namespace GuiExplorer

namespace Explorer

variable {σ : Type}

/-- What the rounds of a run have come to after at most so many of them: the
outcome, if there is one yet, and the explorer. -/
def progress (world : World σ) :
    (limit : Nat) → Explorer σ → Option (Except ExplorationError Unit) × Explorer σ
  | 0, explorer => (none, explorer)
  | limit + 1, explorer =>
      match explorer.round world with
      | (.error error, explorer) => (some (.error error), explorer)
      | (.ok action, explorer) =>
          if action.isTerminate then (some (.ok ()), explorer) else progress world limit explorer

theorem rounds_eq_progress (world : World σ) (limit : Nat) (explorer : Explorer σ) :
    explorer.rounds world limit =
      (explorer.progress world limit).1.map fun outcome =>
        (outcome, (explorer.progress world limit).2) := by
  induction limit generalizing explorer with
  | zero => rfl
  | succ limit ih =>
      rw [rounds, progress]
      rcases explorer.round world with ⟨outcome, next⟩
      cases outcome with
      | error error => rfl
      | ok action =>
          cases stops : action.isTerminate with
          | true => simp [stops]
          | false => simpa [stops] using ih next

/-- A run that is over has made its progress and then saved what there is. -/
theorem run_eq_some_iff
    {world : World σ} {limit : Nat} {explorer final : Explorer σ}
    {result : Except ExplorationError Summary} :
    explorer.run world limit = some (result, final) ↔
      ∃ outcome, (explorer.progress world limit).1 = some outcome ∧
        (explorer.progress world limit).2.finish world outcome = (result, final) := by
  rw [run, rounds_eq_progress]
  cases (explorer.progress world limit).1 <;> simp

/-- Turns taken one after another. -/
inductive TakesTurns (world : World σ) : Explorer σ → List Turn → Explorer σ → Prop where
  | done (explorer : Explorer σ) : TakesTurns world explorer [] explorer
  | next {explorer middle final : Explorer σ} {turn : Turn} {rest : List Turn}
      (taken : explorer.TakesTurn world turn middle) (later : TakesTurns world middle rest final) :
      TakesTurns world explorer (turn :: rest) final

namespace TakesTurns

variable {world : World σ} {explorer middle final : Explorer σ} {turns : List Turn}

theorem concat {turn : Turn}
    (taken : TakesTurns world explorer turns middle) (last : middle.TakesTurn world turn final) :
    TakesTurns world explorer (turns ++ [turn]) final := by
  induction taken with
  | done => exact .next last (.done _)
  | next first later ih => exact .next first (ih last)

theorem package_eq (taken : TakesTurns world explorer turns final) :
    final.appPackage = explorer.appPackage := by
  induction taken with
  | done => rfl
  | next first later ih => exact ih.trans first.appPackage

theorem outputFolder_eq (taken : TakesTurns world explorer turns final) :
    final.outputFolder = explorer.outputFolder := by
  induction taken with
  | done => rfl
  | next first later ih => exact ih.trans first.outputFolder

theorem proper (taken : TakesTurns world explorer turns final) :
    ∀ turn ∈ turns, turn.IsProper world.decode explorer.appPackage := by
  induction taken with
  | done => simp
  | next first later ih =>
      intro turn member
      rcases List.mem_cons.mp member with here | there
      · exact here ▸ first.proper
      · exact first.appPackage ▸ ih turn there

theorem accepted (taken : TakesTurns world explorer turns final) :
    ∀ turn ∈ turns, turn.act.isAccepted = true := by
  induction taken with
  | done => simp
  | next first later ih =>
      intro turn member
      rcases List.mem_cons.mp member with here | there
      · exact here ▸ first.accepted
      · exact ih turn there

theorem exchanged (taken : TakesTurns world explorer turns final) :
    explorer.client.Exchanged final.client (turns.flatMap Turn.exchanges) := by
  induction taken with
  | done => exact .refl _
  | next first later ih => exact first.exchanged.trans ih

theorem recorded (taken : TakesTurns world explorer turns final) :
    final.recording.records.map ActionRecord.step =
      explorer.recording.records.map ActionRecord.step ++ turns.map Turn.step := by
  induction taken with
  | done => simp
  | next first later ih => rw [ih, first.recorded_step, List.append_assoc]; rfl

/-- The steps of the turns are what the engine decided. -/
theorem decides (taken : TakesTurns world explorer turns final) :
    Engine.Decides explorer.appPackage explorer.engine explorer.store (turns.map Turn.step)
      final.engine final.store := by
  induction taken with
  | done => exact .done _ _
  | next first later ih =>
      obtain ⟨elapsed, decided, engine, store⟩ := first.decided
      rw [first.appPackage, engine, store] at ih
      exact .next elapsed decided ih

theorem running (taken : TakesTurns world explorer turns final)
    (before : explorer.engine.isTerminated = false)
    (goesOn : ∀ turn ∈ turns, turn.action.isTerminate = false) :
    final.engine.isTerminated = false := by
  induction taken with
  | done => exact before
  | next first later ih =>
      obtain ⟨elapsed, decided, engine, -⟩ := first.decided
      obtain ⟨-, -, -, terminated, -⟩ := Engine.decide_ok decided
      apply ih
      · rw [engine]
        exact terminated.trans (goesOn _ List.mem_cons_self)
      · exact fun turn member => goesOn turn (List.mem_cons_of_mem _ member)

theorem occupied (taken : TakesTurns world explorer turns final) (some : turns ≠ []) :
    final.engine.strategies ≠ [] := by
  induction taken with
  | done => contradiction
  | @next explorer middle final turn rest first later ih =>
      cases rest with
      | nil =>
          cases later
          obtain ⟨elapsed, decided, engine, -⟩ := first.decided
          obtain ⟨-, -, -, -, strategies, -⟩ := Engine.decide_ok decided
          rw [engine]
          exact strategies
      | cons => exact ih (List.cons_ne_nil _ _)

end TakesTurns

/-- How the rounds of a run stand after its accepted turns: still going on, ended
by one more turn that terminates, or halted. -/
def Ending (world : World σ) (middle : Explorer σ) :
    Option (Except ExplorationError Unit) → Explorer σ → Prop
  | none, final => final = middle
  | some (.ok _), final => ∃ turn, middle.TakesTurn world turn final ∧ turn.action = .terminate
  | some (.error error), final => Halts world middle error final

private theorem eq_terminate_of_isTerminate {action : Action} (stops : action.isTerminate = true) :
    action = .terminate := by
  cases action <;> simp_all [Action.isTerminate]

/-- The progress of a ready explorer is a sequence of accepted turns that do not
terminate, and its ending. -/
theorem progress_turns
    (world : World σ) (limit : Nat) {explorer : Explorer σ}
    (ready : explorer.client.phase = .ready) :
    ∃ turns middle, explorer.progress world turns.length = (none, middle) ∧
      TakesTurns world explorer turns middle ∧
      (∀ turn ∈ turns, turn.action.isTerminate = false) ∧
      Ending world middle (explorer.progress world limit).1
        (explorer.progress world limit).2 ∧
      ((explorer.progress world limit).1.isSome = true → turns.length < limit) := by
  induction limit generalizing explorer with
  | zero => exact ⟨[], explorer, rfl, .done _, by simp, rfl, by simp [progress]⟩
  | succ limit ih =>
      rcases round_cases world ready with ⟨turn, next, taken, turned⟩ | ⟨error, next, halts, halted⟩
      · cases stops : turn.action.isTerminate with
        | true =>
            refine ⟨[], explorer, rfl, .done _, by simp, ?_, by simp⟩
            simp only [progress, turned, stops, if_true]
            exact ⟨turn, taken, eq_terminate_of_isTerminate stops⟩
        | false =>
            obtain ⟨turns, middle, reached, later, goesOn, ending, within⟩ :=
              ih (taken.exchanged.phase.trans ready)
            refine ⟨turn :: turns, middle, ?_, .next taken later, ?_, ?_, ?_⟩
            · simpa [progress, turned, stops] using reached
            · intro other member
              rcases List.mem_cons.mp member with here | there
              · exact here ▸ stops
              · exact goesOn other there
            · simpa [progress, turned, stops] using ending
            · simpa [progress, turned, stops] using within
      · refine ⟨[], explorer, rfl, .done _, by simp, ?_, by simp⟩
        simp only [progress, halted]
        exact halts

/-- A client that is not ready cannot even ask for a snapshot. -/
theorem progress_unready
    (world : World σ) (limit : Nat) {explorer : Explorer σ}
    (unready : explorer.client.phase ≠ .ready) :
    explorer.progress world limit = (none, explorer) ∨
      ∃ error, explorer.progress world limit = (some (.error error), explorer) := by
  cases limit with
  | zero => exact .inl rfl
  | succ limit =>
      refine .inr ⟨.device (.invalidState explorer.client.phase .ready), ?_⟩
      simp [progress, round, observe, query, Client.query, Client.expect, unready, mapError_error]

theorem ready_of_progress
    {world : World σ} {limit : Nat} {explorer : Explorer σ}
    (terminated : (explorer.progress world limit).1 = some (.ok ())) :
    explorer.client.phase = .ready := by
  by_cases ready : explorer.client.phase = .ready
  · exact ready
  · rcases progress_unready world limit ready with goesOn | ⟨error, halted⟩
    · rw [goesOn] at terminated
      cases terminated
    · rw [halted] at terminated
      cases terminated

/-- What holds of the exchanges of a round, and is kept when those of all later rounds are put
after them, holds of the exchanges of all rounds. -/
theorem progress_exchanges
    (Holds : Explorer σ → List Exchange → Prop) {world : World σ}
    (empty : ∀ explorer, Holds explorer [])
    (round : ∀ explorer : Explorer σ, explorer.client.phase = .ready →
      ∃ exchanges, explorer.client.Exchanged (explorer.round world).2.client exchanges ∧
        Holds explorer exchanges)
    (append : ∀ {explorer next : Explorer σ} {action : Action} {first rest : List Exchange},
      explorer.round world = (.ok action, next) → action.isTerminate = false →
      explorer.client.Exchanged next.client first → Holds explorer first → Holds next rest →
      Holds explorer (first ++ rest))
    (limit : Nat) (explorer : Explorer σ) :
    ∃ exchanges,
      explorer.client.Exchanged (explorer.progress world limit).2.client exchanges ∧
      Holds explorer exchanges := by
  by_cases ready : explorer.client.phase = .ready
  case neg =>
    have same : (explorer.progress world limit).2 = explorer := by
      rcases progress_unready world limit ready with goesOn | ⟨error, halted⟩
      · rw [goesOn]
      · rw [halted]
    rw [same]
    exact ⟨[], .refl _, empty explorer⟩
  case pos =>
    induction limit generalizing explorer with
    | zero => exact ⟨[], .refl _, empty explorer⟩
    | succ limit ih =>
        obtain ⟨first, exchanged, holds⟩ := round explorer ready
        rw [progress]
        rcases turned : explorer.round world with ⟨outcome, next⟩
        rw [turned] at exchanged
        cases outcome with
        | error error => exact ⟨first, exchanged, holds⟩
        | ok action =>
            cases stops : action.isTerminate with
            | true =>
                simp only [stops, if_true]
                exact ⟨first, exchanged, holds⟩
            | false =>
                simp only [stops, Bool.false_eq_true, if_false]
                obtain ⟨rest, later, holdsLater⟩ := ih next (exchanged.phase.trans ready)
                exact ⟨first ++ rest, exchanged.trans later,
                  append turned stops exchanged holds holdsLater⟩

/-! ## Saving -/

private theorem saveFile_frame
    (world : World σ) (explorer : Explorer σ) (folder name text : String) :
    ∃ outside, (explorer.saveFile world folder name text).2 = explorer.outsideTo outside := by
  unfold saveFile
  split <;> exact ⟨_, rfl⟩

private theorem persist_frame (world : World σ) (explorer : Explorer σ) :
    ∃ outside, (explorer.persist world).2 = explorer.outsideTo outside := by
  unfold persist
  cases explorer.outputFolder with
  | none => exact ⟨explorer.outside, rfl⟩
  | some folder =>
      obtain ⟨between, first⟩ :=
        saveFile_frame world explorer folder traceFile explorer.recording.save
      dsimp only
      rcases saved : explorer.saveFile world folder traceFile explorer.recording.save with
        ⟨outcome, next⟩
      rw [saved] at first
      cases first
      cases outcome with
      | error error => exact ⟨between, rfl⟩
      | ok _ =>
          obtain ⟨after, second⟩ := saveFile_frame world (explorer.outsideTo between) folder
            modelFile (explorer.outsideTo between).store.snapshot.save
          exact ⟨after, second⟩

/-- Saving changes nothing but the world, and an error of the rounds stays. -/
theorem finish_frame
    {world : World σ} {explorer final : Explorer σ} {outcome : Except ExplorationError Unit}
    {result : Except ExplorationError Summary}
    (finished : explorer.finish world outcome = (result, final)) :
    (∃ outside, final = explorer.outsideTo outside) ∧
      (∀ error, outcome = .error error → result = .error error) ∧
      ∀ summary, result = .ok summary → summary = final.summary world := by
  obtain ⟨outside, same⟩ := persist_frame world explorer
  unfold finish at finished
  rcases persisted : explorer.persist world with ⟨saved, next⟩
  rw [persisted] at finished same
  cases same
  cases outcome with
  | error error =>
      cases finished
      refine ⟨⟨outside, rfl⟩, ?_, by simp⟩
      intro other same
      cases same
      rfl
  | ok _ =>
      cases saved with
      | error error =>
          cases finished
          exact ⟨⟨outside, rfl⟩, by simp, by simp⟩
      | ok _ =>
          cases finished
          refine ⟨⟨outside, rfl⟩, by simp, ?_⟩
          intro summary same
          cases same
          rfl

/-- A run exchanges no more than its rounds did. -/
theorem exchanged_of_run
    {world : World σ} {limit : Nat} {explorer final : Explorer σ}
    {result : Except ExplorationError Summary} {exchanges : List Exchange}
    (exchanged : explorer.client.Exchanged (explorer.progress world limit).2.client exchanges)
    (ran : explorer.run world limit = some (result, final)) :
    explorer.client.Exchanged final.client exchanges := by
  obtain ⟨outcome, -, finished⟩ := run_eq_some_iff.mp ran
  obtain ⟨⟨outside, rfl⟩, -, -⟩ := finish_frame finished
  exact exchanged.outsideTo outside

end Explorer

end GuiExplorer
