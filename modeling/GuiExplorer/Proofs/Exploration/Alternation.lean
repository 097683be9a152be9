import GuiExplorer.Proofs.Exploration.Conduct

/-!
# Commands of a run and its recording

A run asks for a snapshot and sends the command of the action decided on it, in
turns, and never has two commands under way: the calls on the connection are those
by which these commands are exchanged, one after another.  It records exactly the
actions whose commands were accepted: all that were decided, or all but the last.
-/

namespace GuiExplorer

namespace Turn

/-- The turns whose commands were accepted. -/
def accepted (turns : List Turn) : List Turn :=
  turns.filter fun turn => turn.act.isAccepted

theorem accepted_eq_self
    {turns : List Turn} (all : ∀ turn ∈ turns, turn.act.isAccepted = true) :
    accepted turns = turns :=
  List.filter_eq_self.mpr all

theorem accepted_concat_refused
    {turns : List Turn} {last : Turn} (all : ∀ turn ∈ turns, turn.act.isAccepted = true)
    (refused : last.act.isAccepted = false) :
    accepted (turns ++ [last]) = turns := by
  rw [accepted, List.filter_append, List.filter_eq_self.mpr all]
  simp [refused]

end Turn

namespace Explorer

variable {σ : Type}

/-- All exchanges of some turns, and of a request for a snapshot after them. -/
def allExchanges (turns : List Turn) (unfinished : Option Exchange) : List Exchange :=
  turns.flatMap Turn.exchanges ++ unfinished.toList

/-- What lies between a fresh explorer and what has become of it: the turns it
took, and the request for a snapshot after them, if nothing was decided on that. -/
structure Transcript (world : World σ) (explorer after : Explorer σ) (turns : List Turn)
    (unfinished : Option Exchange) : Prop where
  /-- The journal tells the exchanges in turn, each of them over before the next. -/
  exchanged : explorer.client.Exchanged after.client (allExchanges turns unfinished)
  /-- Each turn is a request for a snapshot, which shows the screen, and the command
  for the action. -/
  proper : ∀ turn ∈ turns, turn.IsProper world.decode explorer.appPackage
  asked : ∀ fetch, unfinished = some fetch → fetch.command = .fetchGuiState
  /-- The actions are what the engine decides on the screens, and it decided no others. -/
  decided : ∃ engine store, Engine.Decides explorer.appPackage explorer.engine explorer.store
    (turns.map Turn.step) engine store
  counted : after.engine.actionCount = turns.length
  recorded : after.recording.records.map ActionRecord.step =
    (Turn.accepted turns).map Turn.step
  accepted : Turn.accepted turns = turns ∨
    Turn.accepted turns = turns.dropLast ∧ unfinished = none

private theorem not_failure_of_accepted
    {exchange : Exchange} (accepted : exchange.isAccepted = true) (message : String) :
    exchange.outcome ≠ .ok (.failure message) := by
  intro failed
  simp [Exchange.isAccepted, failed] at accepted

private theorem not_failure_of_shows
    {decode : Decoder} {fetch : Exchange} {screen : Screen} (shows : fetch.Shows decode screen)
    (message : String) :
    fetch.outcome ≠ .ok (.failure message) := by
  obtain ⟨-, snapshot, answered, -⟩ := shows
  simp [answered]

theorem TakesTurns.not_failure
    {world : World σ} {explorer final : Explorer σ} {turns : List Turn}
    (taken : TakesTurns world explorer turns final) :
    ∀ exchange ∈ turns.flatMap Turn.exchanges, ∀ message,
      exchange.outcome ≠ .ok (.failure message) := by
  intro exchange member message
  obtain ⟨turn, turnMember, exchangeMember⟩ := List.mem_flatMap.mp member
  simp only [Turn.exchanges, List.mem_cons, List.not_mem_nil, or_false] at exchangeMember
  rcases exchangeMember with fetch | act
  · exact fetch ▸ not_failure_of_shows (taken.proper turn turnMember).shows message
  · exact act ▸ not_failure_of_accepted (taken.accepted turn turnMember) message

section

variable {world : World σ} {explorer middle final : Explorer σ} {turns : List Turn}

private theorem fresh_recorded
    (fresh : explorer.IsFresh) (taken : TakesTurns world explorer turns middle) :
    middle.recording.records.map ActionRecord.step = turns.map Turn.step := by
  rw [taken.recorded, fresh.recording]
  rfl

private theorem fresh_counted
    (fresh : explorer.IsFresh) (taken : TakesTurns world explorer turns middle) :
    middle.engine.actionCount = turns.length := by
  rw [taken.decides.actionCount_eq, fresh.actionCount]
  simp

theorem TakesTurns.transcript
    (taken : TakesTurns world explorer turns final) (fresh : explorer.IsFresh) :
    Transcript world explorer final turns none where
  exchanged := by simpa [allExchanges] using taken.exchanged
  proper := taken.proper
  asked := by simp
  decided := ⟨_, _, taken.decides⟩
  counted := fresh_counted fresh taken
  recorded := by rw [Turn.accepted_eq_self taken.accepted, fresh_recorded fresh taken]
  accepted := .inl (Turn.accepted_eq_self taken.accepted)

/-- Accepted turns and a request for a snapshot on which nothing was decided. -/
theorem TakesTurns.transcript_unfinished
    {fetch : Exchange}
    (taken : TakesTurns world explorer turns middle) (fresh : explorer.IsFresh)
    (asked : fetch.command = .fetchGuiState)
    (exchanged : middle.client.Exchanged final.client [fetch])
    (counted : final.engine.actionCount = middle.engine.actionCount)
    (recorded : final.recording = middle.recording) :
    Transcript world explorer final turns (some fetch) where
  exchanged := taken.exchanged.trans exchanged
  proper := taken.proper
  asked := by
    intro other same
    cases same
    exact asked
  decided := ⟨_, _, taken.decides⟩
  counted := counted.trans (fresh_counted fresh taken)
  recorded := by
    rw [Turn.accepted_eq_self taken.accepted, recorded]
    exact fresh_recorded fresh taken
  accepted := .inl (Turn.accepted_eq_self taken.accepted)

/-- Accepted turns and a turn whose command was not accepted. -/
theorem TakesTurns.transcript_refused
    {last : Turn} {elapsed : Duration}
    (taken : TakesTurns world explorer turns middle) (fresh : explorer.IsFresh)
    (proper : last.IsProper world.decode middle.appPackage)
    (exchanged : middle.client.Exchanged final.client last.exchanges)
    (decided : (middle.decisionOn last.screen elapsed).result = .ok last.action)
    (refused : last.act.isAccepted = false)
    (engine : final.engine = (middle.decisionOn last.screen elapsed).engine)
    (recorded : final.recording = middle.recording) :
    Transcript world explorer final (turns ++ [last]) none where
  exchanged := by simpa [allExchanges] using taken.exchanged.trans exchanged
  proper := by
    intro turn member
    rcases List.mem_append.mp member with before | here
    · exact taken.proper turn before
    · rw [List.mem_singleton.mp here, ← taken.package_eq]
      exact proper
  asked := by simp
  decided := by
    rw [decisionOn, taken.package_eq] at decided
    rw [List.map_append]
    exact ⟨_, _, taken.decides.concat elapsed decided⟩
  counted := by
    obtain ⟨-, -, count, -⟩ := Engine.decide_ok decided
    rw [engine, List.length_append, ← fresh_counted fresh taken]
    exact count
  recorded := by
    rw [Turn.accepted_concat_refused taken.accepted refused, recorded]
    exact fresh_recorded fresh taken
  accepted := by
    rw [Turn.accepted_concat_refused taken.accepted refused]
    exact .inr ⟨by simp, rfl⟩

theorem Halts.transcript
    {error : ExplorationError} (halts : Halts world middle error final)
    (taken : TakesTurns world explorer turns middle) (fresh : explorer.IsFresh) :
    ∃ allTurns unfinished, Transcript world explorer final allTurns unfinished ∧
      ∀ exchange ∈ allExchanges allTurns unfinished, exchange.Blames error := by
  have sound : ∀ exchange ∈ turns.flatMap Turn.exchanges, exchange.Blames error :=
    fun exchange member message failed => (taken.not_failure exchange member message failed).elim
  cases halts with
  | @fetching fetch client _ failed asked exchanged blames =>
      refine ⟨turns, some fetch,
        taken.transcript_unfinished fresh asked exchanged rfl rfl, ?_⟩
      intro exchange member
      rcases List.mem_append.mp member with before | last
      · exact sound exchange before
      · cases Option.mem_toList.mp last
        exact blames
  | @deciding fetch client screen elapsed engineError shows exchanged failed =>
      refine ⟨turns, some fetch, taken.transcript_unfinished fresh shows.1 exchanged
        (Engine.decide_error failed).1 rfl, ?_⟩
      intro exchange member
      rcases List.mem_append.mp member with before | last
      · exact sound exchange before
      · cases Option.mem_toList.mp last
        exact fun message failure => (not_failure_of_shows shows message failure).elim
  | @acting last client elapsed _ proper exchanged decided refused blames =>
      refine ⟨turns ++ [last], none,
        taken.transcript_refused fresh proper exchanged decided refused rfl rfl, ?_⟩
      intro exchange member
      simp only [allExchanges, List.flatMap_append, Option.toList_none, List.append_nil,
        List.flatMap_cons, List.flatMap_nil, List.mem_append, Turn.exchanges, List.mem_cons,
        List.not_mem_nil, or_false] at member
      rcases member with before | fetch | act
      · exact sound exchange before
      · subst fetch
        exact fun message failure => (not_failure_of_shows proper.shows message failure).elim
      · exact act ▸ blames

/-- The progress of a run has a transcript, and a failure that the daemon reported
is what halted the run. -/
theorem progress_transcript
    (world : World σ) (limit : Nat) (fresh : explorer.IsFresh)
    (ready : explorer.client.phase = .ready) :
    ∃ allTurns unfinished,
      Transcript world explorer (explorer.progress world limit).2 allTurns unfinished ∧
      ∀ exchange ∈ allExchanges allTurns unfinished, ∀ message,
        exchange.outcome = .ok (.failure message) →
          (explorer.progress world limit).1 = some (.error (.device (.remote message))) := by
  obtain ⟨turns, middle, -, taken, -, ending, -⟩ := progress_turns world limit ready
  rcases progressed : explorer.progress world limit with ⟨outcome, after⟩
  rw [progressed] at ending
  match outcome, ending with
  | none, same =>
      cases same
      refine ⟨turns, none, taken.transcript fresh, ?_⟩
      intro exchange member message failed
      rw [allExchanges, Option.toList_none, List.append_nil] at member
      exact (taken.not_failure exchange member message failed).elim
  | some (.ok _), ⟨last, lastTaken, _⟩ =>
      have all := taken.concat lastTaken
      refine ⟨turns ++ [last], none, all.transcript fresh, ?_⟩
      intro exchange member message failed
      rw [allExchanges, Option.toList_none, List.append_nil] at member
      exact (all.not_failure exchange member message failed).elim
  | some (.error error), halts =>
      obtain ⟨allTurns, unfinished, transcript, blames⟩ := halts.transcript taken fresh
      refine ⟨allTurns, unfinished, transcript, ?_⟩
      intro exchange member message failed
      rw [blames exchange member message failed]

/-- The rounds of a run have terminated if and only if the last record is to
terminate. -/
theorem terminated_iff_last_record
    {limit : Nat} {outcome : Except ExplorationError Unit}
    (fresh : explorer.IsFresh) (ready : explorer.client.phase = .ready)
    (stopped : (explorer.progress world limit).1 = some outcome) :
    outcome = .ok () ↔
      ∃ entry, (explorer.progress world limit).2.recording.records.getLast? = some entry ∧
        entry.action = .terminate := by
  obtain ⟨turns, middle, -, taken, goesOn, ending, -⟩ := progress_turns world limit ready
  rcases progressed : explorer.progress world limit with ⟨result, after⟩
  rw [progressed] at ending stopped
  cases stopped
  match outcome, ending with
  | .ok _, ⟨last, lastTaken, stops⟩ =>
      have recorded := fresh_recorded fresh (taken.concat lastTaken)
      have lastStep : (after.recording.records.map ActionRecord.step).getLast? =
          some last.step := by
        rw [recorded]
        simp
      rw [List.getLast?_map, Option.map_eq_some_iff] at lastStep
      obtain ⟨entry, found, same⟩ := lastStep
      have action : entry.action = last.action := congrArg Prod.fst same
      exact ⟨fun _ => ⟨entry, found, action.trans stops⟩, fun _ => rfl⟩
  | .error error, halts =>
      have recorded := fresh_recorded fresh taken
      rw [← halts.recording_eq] at recorded
      refine ⟨fun impossible => (nomatch impossible), ?_⟩
      rintro ⟨entry, found, stops⟩
      have member : entry.step ∈ turns.map Turn.step :=
        recorded ▸ List.mem_map_of_mem (List.mem_of_getLast? found)
      obtain ⟨turn, turnMember, same⟩ := List.mem_map.mp member
      have goes := goesOn turn turnMember
      have action : turn.action = entry.action := congrArg Prod.fst same
      rw [action, stops] at goes
      cases goes

end

/-- Where nothing is saved, a run comes to what its rounds came to. -/
theorem finish_unsaved
    (world : World σ) {explorer : Explorer σ} (unsaved : explorer.outputFolder = none)
    (outcome : Except ExplorationError Unit) :
    explorer.finish world outcome = (outcome.map fun _ => explorer.summary world, explorer) := by
  cases outcome <;> simp [finish, persist, unsaved, Except.map]

theorem outputFolder_progress
    (world : World σ) (limit : Nat) {explorer : Explorer σ}
    (ready : explorer.client.phase = .ready) :
    (explorer.progress world limit).2.outputFolder = explorer.outputFolder := by
  obtain ⟨turns, middle, -, taken, -, ending, -⟩ := progress_turns world limit ready
  rcases progressed : explorer.progress world limit with ⟨outcome, after⟩
  rw [progressed] at ending
  match outcome, ending with
  | none, same => exact same ▸ taken.outputFolder_eq
  | some (.ok _), ⟨last, lastTaken, _⟩ => exact (taken.concat lastTaken).outputFolder_eq
  | some (.error error), halts => exact halts.outputFolder_eq.trans taken.outputFolder_eq

/-- Whatever the pool of strategies and the world do, a run asks for snapshots and
sends the commands of the decided actions in turn, each after the one before is
over, and records the accepted actions; where the calls on the connection are noted,
they are those by which these exchanges are made, in turn.  A failure that the daemon
reports ends the run with its message, and a run that ends succeeds if and only if the
last record is to terminate. -/
theorem run_alternates
    (world : World σ) (limit : Nat) {explorer : Explorer σ} (fresh : explorer.IsFresh)
    (ready : explorer.client.phase = .ready) (unsaved : explorer.outputFolder = none) :
    ∃ turns unfinished,
      Transcript world explorer (explorer.progress world limit).2 turns unfinished ∧
      (∀ calls, world.Notes calls →
        explorer.client.Sends calls (explorer.progress world limit).2.client
          (allExchanges turns unfinished)) ∧
      (∀ exchange ∈ allExchanges turns unfinished, ∀ message,
        exchange.outcome = .ok (.failure message) →
          explorer.run world limit =
            some (.error (.device (.remote message)), (explorer.progress world limit).2)) ∧
      ∀ result final, explorer.run world limit = some (result, final) →
        final = (explorer.progress world limit).2 ∧
        ((∃ summary, result = .ok summary) ↔
          ∃ entry, final.recording.records.getLast? = some entry ∧
            entry.action = .terminate) := by
  have saved := finish_unsaved world
    ((outputFolder_progress world limit ready).trans unsaved)
  obtain ⟨turns, unfinished, transcript, blamed⟩ := progress_transcript world limit fresh ready
  refine ⟨turns, unfinished, transcript, ?_, ?_, ?_⟩
  · exact fun calls notes => sends_of_progress notes transcript.exchanged
  · intro exchange member message failed
    refine run_eq_some_iff.mpr ⟨_, blamed exchange member message failed, ?_⟩
    rw [saved]
    rfl
  · intro result final ran
    obtain ⟨outcome, stopped, finished⟩ := run_eq_some_iff.mp ran
    rw [saved] at finished
    cases finished
    refine ⟨rfl, ?_⟩
    rw [← terminated_iff_last_record fresh ready stopped]
    cases outcome <;> simp [Except.map]

private def refusedLaunch : List Exchange :=
  [⟨.fetchGuiState, true, .ok (.guiState default)⟩,
    ⟨.launchApp "com.example.app", false, .ok (.failure "no such app")⟩]

private def refusedExplorer : Explorer (Stage × List SocketCall) :=
  ofPool [.reset] (.listening [.usual, .respond (.failure "no such app") none] [], [])

private theorem refused_launch_told :
    (refusedExplorer.progress Stage.world.noting 2).2.client.journal =
        refusedLaunch.flatMap Exchange.events ∧
      (refusedExplorer.progress Stage.world.noting 2).2.engine.actionCount = 1 := by
  decide +kernel

/-- The daemon shows a screen and then refuses to launch the app: the run takes one turn, for which
it hands over two frames, records nothing and ends with the refusal. -/
theorem run_alternates_until_refused :
    ∃ explorer turn final,
      explorer = ofPool [.reset]
        (.listening [.usual, .respond (.failure "no such app") none] [], []) ∧
      explorer.IsFresh ∧ explorer.client.phase = .ready ∧ explorer.outputFolder = none ∧
      explorer.run Stage.world.noting 2 =
        some (.error (.device (.remote "no such app")), final) ∧
      Transcript Stage.world.noting explorer final [turn] none ∧
      turn.action = .reset ∧ turn.act.isAccepted = false ∧ final.recording.records = [] ∧
      ([Command.fetchGuiState, .launchApp "com.example.app"].map fun command =>
          Wire.writeFrame (Wire.command.toBytes command)) =
        (final.outside.2.filterMap SocketCall.frame?).map .ok := by
  obtain ⟨journal, count⟩ := refused_launch_told
  have fresh : refusedExplorer.IsFresh := ofPool_fresh _ _
  obtain ⟨turns, unfinished, transcript, sends, blames, -⟩ :=
    run_alternates Stage.world.noting 2 fresh rfl rfl
  have told : allExchanges turns unfinished = refusedLaunch :=
    Exchange.eq_of_flatMap_events (transcript.exchanged.journal.symm.trans journal)
  obtain ⟨turn, rfl⟩ := List.length_eq_one_iff.mp (transcript.counted.symm.trans count)
  obtain ⟨-, acted, rfl⟩ : turn.fetch = refusedLaunch[0] ∧ turn.act = refusedLaunch[1] ∧
      unfinished = none := by
    simpa [allExchanges, Turn.exchanges, refusedLaunch] using told
  have failed : turn.act.outcome = .ok (.failure "no such app") := by rw [acted]; rfl
  have refused : turn.act.isAccepted = false := by rw [acted]; rfl
  have ran := blames turn.act (by simp [allExchanges, Turn.exchanges]) _ failed
  have launches := (transcript.proper turn List.mem_cons_self).acts
  rw [acted] at launches
  have unrecorded := transcript.recorded
  rw [Turn.accepted, List.filter_singleton, refused] at unrecorded
  obtain ⟨made, noted, makes⟩ := (sends Prod.snd Stage.world.noting_notes).made
  rw [told] at makes
  have frames := makes.frames_of_answered (by simp [refusedLaunch])
  rw [← List.nil_append made] at frames
  refine ⟨refusedExplorer, turn, _, rfl, fresh, rfl, rfl, ran, transcript, ?_, refused,
    List.map_eq_nil_iff.mp unrecorded, ?_⟩
  · generalize turn.action = action at launches
    cases action <;> cases launches
    rfl
  · rw [outside, noted]
    exact frames

end Explorer

end GuiExplorer
