import GuiExplorer.Proofs.Device.Answering
import GuiExplorer.Proofs.Exploration.Conduct
import GuiExplorer.Proofs.Playback.Fidelity

/-!
# Replay of a run

A run that succeeded can be repeated from its recording.  An explorer that only
replays the recording, on a daemon that shows the same snapshots again, goes
through the run in lockstep: in each round it has replayed the steps so far, its
model is that of the recorded run, and it sends the same commands.
-/

namespace GuiExplorer

/-- A daemon that has the answer of an exchange in hand answers the command again. -/
theorem Exchange.answerTo_command
    {exchange : Exchange} {response : Response} (answered : exchange.outcome = .ok response)
    (more : List Response) :
    ∃ again, answerTo exchange.command (exchange.fetched?.toList ++ more) = some (again, more) ∧
      (exchange.command = .fetchGuiState → again = response) ∧
      (exchange.isAccepted = true → again.confirm = .ok ()) := by
  by_cases fetches : exchange.command = .fetchGuiState
  · have fetched : exchange.fetched? = some response := by
      simp [fetched?, fetches, answered]
    refine ⟨response, ?_, fun _ => rfl, ?_⟩
    · rw [fetches, fetched]
      rfl
    · intro accepted
      cases response <;> simp [isAccepted, answered] at accepted <;> rfl
  · have fetched : exchange.fetched? = none := by
      unfold fetched?
      split
      case h_1 command _ => exact (fetches command).elim
      case h_2 => rfl
    refine ⟨.ack, ?_, fun fetching => (fetches fetching).elim, fun _ => rfl⟩
    rw [fetched]
    exact answerTo_action fetches more

/-- Whatever is saved in the world gets written. -/
structure World.Saves {σ : Type} (world : World σ) : Prop where
  makesFolder (folder : String) (state : σ) :
    ∃ next, world.makeFolder folder state = (.ok (), next)
  writes (folder name text : String) (state : σ) :
    ∃ next, world.write folder name text state = (.ok (), next)

namespace Explorer

section

variable {τ : Type} {world : World τ} {explorer : Explorer τ}
  {inHand : (connected : Bool) → List Response → τ → Prop} {responses rest : List Response}

theorem observe_answered
    {snapshot : GuiSnapshot} {screen : Screen}
    (answers : world.Answers explorer.client.config inHand)
    (attended : explorer.client.Attended inHand responses)
    (sent : ∃ frame, Wire.writeFrame (Wire.command.toBytes .fetchGuiState) = .ok frame)
    (answered : answerTo .fetchGuiState responses = some (.guiState snapshot, rest))
    (shown : snapshot.screen? world.decode = some screen) :
    ∃ client exchange, exchange.command = .fetchGuiState ∧
      explorer.observe world =
        (.ok screen, { explorer with client := client, store := explorer.store.record screen }) ∧
      client.Attended inHand rest ∧ explorer.client.Exchanged client [exchange] := by
  obtain ⟨client, queried, after⟩ := Client.query_answered answers attended sent answered
  obtain ⟨connects, exchanged⟩ :=
    Client.query_exchanged world.toDevice .fetchGuiState attended.ready
  rw [queried] at exchanged
  refine ⟨client, _, rfl, ?_, after, exchanged⟩
  simp [observe, query, queried, Response.snapshot?, shown]

theorem execute_answered
    {action : Action} {response : Response}
    (answers : world.Answers explorer.client.config inHand)
    (attended : explorer.client.Attended inHand responses)
    (sent : ∃ frame,
      Wire.writeFrame (Wire.command.toBytes (action.command explorer.appPackage)) = .ok frame)
    (answered : answerTo (action.command explorer.appPackage) responses = some (response, rest))
    (confirmed : response.confirm = .ok ()) :
    ∃ client exchange, exchange.command = action.command explorer.appPackage ∧
      explorer.execute world action = (.ok (), { explorer with client := client }) ∧
      client.Attended inHand rest ∧ explorer.client.Exchanged client [exchange] := by
  obtain ⟨client, queried, after⟩ := Client.query_answered answers attended sent answered
  obtain ⟨connects, exchanged⟩ :=
    Client.query_exchanged world.toDevice (action.command explorer.appPackage) attended.ready
  rw [queried] at exchanged
  refine ⟨client, _, rfl, ?_, after, exchanged⟩
  simp [execute, query, queried, confirmed]

theorem settle_attended
    {config : DaemonConfig} (answers : world.Answers config inHand)
    (attended : explorer.client.Attended inHand responses) (action : Action) (screen : Screen) :
    (explorer.settle world action screen).client.Attended inHand responses := by
  unfold settle
  cases explorer.coverage with
  | none => exact attended
  | some monitor =>
      refine ⟨attended.ready, ?_⟩
      rcases attended.held with ⟨closed, held⟩ | ⟨opened, held⟩
      · exact .inl ⟨closed, answers.executes held⟩
      · exact .inr ⟨opened, answers.executes held⟩

private theorem saveFile_saved
    (saves : world.Saves) (explorer : Explorer τ) (folder name text : String) :
    ∃ outside, explorer.saveFile world folder name text = (.ok (), explorer.outsideTo outside) := by
  obtain ⟨between, made⟩ := saves.makesFolder folder explorer.outside
  obtain ⟨outside, written⟩ := saves.writes folder name text between
  refine ⟨outside, ?_⟩
  simp only [saveFile, made, written]
  rfl

/-- Where everything is saved, a run that terminated succeeds. -/
theorem finish_saved
    (world : World τ) (explorer : Explorer τ)
    (saves : explorer.outputFolder = none ∨ world.Saves) :
    ∃ outside, explorer.finish world (.ok ()) =
      (.ok ((explorer.outsideTo outside).summary world), explorer.outsideTo outside) := by
  rcases kept : explorer.outputFolder with _ | folder
  · refine ⟨explorer.outside, ?_⟩
    simp only [finish, persist, kept]
    rfl
  · rcases saves with nothing | saves
    · rw [kept] at nothing
      contradiction
    · obtain ⟨between, trace⟩ :=
        saveFile_saved saves explorer folder traceFile explorer.recording.save
      obtain ⟨outside, model⟩ := saveFile_saved saves (explorer.outsideTo between) folder modelFile
        (explorer.outsideTo between).store.snapshot.save
      refine ⟨outside, ?_⟩
      simp only [finish, persist, kept, trace, model]
      rfl

end

/-- A replay that is as far as the recorded run: the steps before are replayed, the
rest is to come, and the answers for it are in hand. -/
structure Mirrors {σ τ : Type} (inHand : (connected : Bool) → List Response → τ → Prop)
    (responses : List Response) (before rest : List (Action × Screen)) (recorded : Explorer σ)
    (replay : Explorer τ) : Prop where
  attended : replay.client.Attended inHand responses
  replayed : ∃ playback, replay.engine.strategies = [.playback playback] ∧
    playback.HasReplayed before rest
  lastKey : replay.engine.lastKey = recorded.engine.lastKey
  store : replay.store = recorded.store
  actionCount : replay.engine.actionCount = recorded.engine.actionCount
  appPackage : replay.appPackage = recorded.appPackage

section

variable {σ τ : Type} {first : World σ} {world : World τ} {recorded next : Explorer σ}
  {replay : Explorer τ}
  {inHand : (connected : Bool) → List Response → τ → Prop} {responses : List Response}
  {before rest : List (Action × Screen)}

/-- On the screen of the next step, the engine decides what acts like the recorded
action, and the models stay the same. -/
theorem Mirrors.decides
    {action : Action} {screen : Screen} {elapsed : Duration}
    (mirrors : Mirrors inHand responses before ((action, screen) :: rest) recorded replay)
    (running : replay.engine.isTerminated = false) (captured : screen.IsCaptured)
    (decided : (recorded.decisionOn screen elapsed).result = .ok action)
    (away : action = .pressBack → screen.isHome = false) (present : Duration) :
    ∃ again, (replay.decisionOn screen present).result = .ok again ∧
      Action.ActsLike screen action again ∧
      (∃ playback, (replay.decisionOn screen present).engine.strategies = [.playback playback] ∧
        playback.HasReplayed (before ++ [(action, screen)]) rest) ∧
      (replay.decisionOn screen present).store = (recorded.decisionOn screen elapsed).store ∧
      (replay.decisionOn screen present).engine.lastKey =
        (recorded.decisionOn screen elapsed).engine.lastKey ∧
      (replay.decisionOn screen present).engine.actionCount =
        (recorded.decisionOn screen elapsed).engine.actionCount ∧
      (replay.decisionOn screen present).engine.isTerminated = again.isTerminate := by
  obtain ⟨playback, only, replayed⟩ := mirrors.replayed
  have shown := Engine.isShownOn_of_decide decided
  obtain ⟨again, answered, actsLike, further⟩ := replayed.next
    (replay.engine.context
      ((replay.store.record screen).count replay.engine.lastKey) screen present replay.appPackage)
    rfl captured shown away
  obtain ⟨result, strategies⟩ := Engine.decide_playback (replay.store.record screen) screen present
    replay.appPackage running only answered
  obtain ⟨store, -, count, -⟩ := Engine.decide_ok decided
  obtain ⟨replayStore, -, replayCount, terminated, -⟩ := Engine.decide_ok result
  refine ⟨again, result, actsLike, ⟨_, strategies, further⟩, ?_, ?_, ?_, terminated⟩
  · rw [decisionOn, decisionOn, replayStore, store, mirrors.store, mirrors.lastKey]
  · rw [decisionOn, decisionOn, Engine.lastKey_of_decide result, Engine.lastKey_of_decide decided,
      actsLike.key]
  · rw [decisionOn, decisionOn, replayCount, count, mirrors.actionCount]

private theorem fetched_exchanges (turn : Turn) (more : List Response) :
    turn.exchanges.filterMap Exchange.fetched? ++ more =
      turn.fetch.fetched?.toList ++ (turn.act.fetched?.toList ++ more) := by
  cases fetched : turn.fetch.fetched? <;> cases acted : turn.act.fetched? <;>
    simp [Turn.exchanges, fetched, acted]

private theorem answered_of_accepted
    {exchange : Exchange} (accepted : exchange.isAccepted = true) :
    ∃ response, exchange.outcome = .ok response := by
  cases answered : exchange.outcome with
  | error error => simp [Exchange.isAccepted, answered] at accepted
  | ok response => exact ⟨response, rfl⟩

/-- The replay repeats a turn: it sends the same commands and stays as far as the
recorded run. -/
theorem Mirrors.repeats
    {turn : Turn}
    (mirrors : Mirrors inHand (turn.exchanges.filterMap Exchange.fetched? ++ responses) before
      (turn.step :: rest) recorded replay)
    (answers : world.Answers replay.client.config inHand)
    (decodes : world.decode = first.decode) (running : replay.engine.isTerminated = false)
    (taken : recorded.TakesTurn first turn next)
    (away : turn.action = .pressBack → turn.screen.isHome = false) :
    ∃ again after exchanges, replay.round world = (.ok again, after) ∧
      again.isTerminate = turn.action.isTerminate ∧
      replay.client.Exchanged after.client exchanges ∧
      exchanges.map Exchange.command = turn.exchanges.map Exchange.command ∧
      after.engine.isTerminated = again.isTerminate ∧
      after.outputFolder = replay.outputFolder ∧
      Mirrors inHand responses (before ++ [turn.step]) rest next after := by
  obtain ⟨fetching, snapshot, fetched, shown⟩ := taken.proper.shows
  obtain ⟨elapsed, decided, nextEngine, nextStore⟩ := taken.decided
  obtain ⟨response, acted⟩ := answered_of_accepted taken.accepted
  have sent (exchange : Exchange) (member : exchange ∈ turn.exchanges) : exchange.IsSent :=
    taken.exchanged.sent exchange member
  have attended := mirrors.attended
  rw [fetched_exchanges] at attended
  -- The snapshot is the next answer in hand, so the screen is the recorded one.
  obtain ⟨_, fetchAnswered, sameSnapshot, -⟩ := turn.fetch.answerTo_command fetched
    (turn.act.fetched?.toList ++ responses)
  cases sameSnapshot fetching
  have fetchSent := sent turn.fetch (by simp [Turn.exchanges]) _ fetched
  rw [fetching] at fetchAnswered fetchSent
  obtain ⟨client, fetch, fetchCommand, observed, fetchAttended, fetchExchanged⟩ :=
    observe_answered answers attended fetchSent fetchAnswered (decodes ▸ shown)
  -- The decision acts like the recorded one.
  obtain ⟨again, result, actsLike, replayed, store, lastKey, count, terminated⟩ :=
    mirrors.decides running (Screen.isCaptured_of_screen? shown) decided away
      (world.elapsed client.outside)
  let decision := replay.decisionOn turn.screen (world.elapsed client.outside)
  let settled : Explorer τ :=
    { replay with client := client, engine := decision.engine, store := decision.store }
  -- Its command is the recorded one.
  have command : again.command settled.appPackage = turn.act.command := by
    rw [taken.proper.acts, actsLike.command]
    exact congrArg turn.action.command mirrors.appPackage
  obtain ⟨answer, actAnswered, -, confirmed⟩ := turn.act.answerTo_command acted responses
  have actSent := sent turn.act (by simp [Turn.exchanges]) _ acted
  rw [← command] at actAnswered actSent
  have settledAnswers : world.Answers settled.client.config inHand :=
    fetchExchanged.config ▸ answers
  obtain ⟨final, act, actCommand, executed, actAttended, actExchanged⟩ :=
    execute_answered settledAnswers fetchAttended actSent actAnswered (confirmed taken.accepted)
  obtain ⟨⟨outside, sameClient⟩, sameEngine, sameStore, -, samePackage, sameFolder⟩ :=
    settle_frame world { settled with client := final } again turn.screen
  refine ⟨again, _, [fetch, act], ?_, actsLike.isTerminate, ?_, ?_, ?_, sameFolder, ?_⟩
  · have decides : ({ replay with
          client := client, store := replay.store.record turn.screen } : Explorer τ).decide world
            turn.screen = (decision.result.mapError .engine, settled) := rfl
    have chosen : decision.result = .ok again := result
    simp only [round, observed]
    rw [decides, chosen]
    simp only [mapError_ok]
    rw [executed]
  · rw [sameClient]
    exact (fetchExchanged.trans actExchanged).outsideTo outside
  · simp [Turn.exchanges, fetchCommand, fetching, actCommand, command]
  · rw [sameEngine]
    exact terminated
  · refine ⟨settle_attended answers actAttended again turn.screen, ?_, ?_, ?_, ?_, ?_⟩
    · rw [sameEngine]
      exact replayed
    · rw [sameEngine, nextEngine]
      exact lastKey
    · rw [sameStore, nextStore]
      exact store
    · rw [sameEngine, nextEngine]
      exact count
    · rw [samePackage, taken.appPackage]
      exact mirrors.appPackage

theorem Mirrors.repeats_all
    {middle : Explorer σ} {turns : List Turn} (taken : TakesTurns first recorded turns middle)
    (mirrors : Mirrors inHand
      ((turns.flatMap Turn.exchanges).filterMap Exchange.fetched? ++ responses) before
      (turns.map Turn.step ++ rest) recorded replay)
    (answers : world.Answers replay.client.config inHand)
    (decodes : world.decode = first.decode) (running : replay.engine.isTerminated = false)
    (goesOn : ∀ turn ∈ turns, turn.action.isTerminate = false)
    (away : ∀ turn ∈ turns, turn.action = .pressBack → turn.screen.isHome = false) :
    ∃ after exchanges,
      (∀ limit, replay.progress world (turns.length + limit) = after.progress world limit) ∧
      replay.client.Exchanged after.client exchanges ∧
      exchanges.map Exchange.command = (turns.flatMap Turn.exchanges).map Exchange.command ∧
      after.engine.isTerminated = false ∧ after.outputFolder = replay.outputFolder ∧
      Mirrors inHand responses (before ++ turns.map Turn.step) rest middle after := by
  induction taken generalizing before replay with
  | done explorer =>
      exact ⟨replay, [], fun limit => by simp, .refl _, rfl, running, rfl, by simpa using mirrors⟩
  | @next explorer between middle turn later taken others ih =>
      rw [List.flatMap_cons, List.filterMap_append, List.append_assoc, List.map_cons,
        List.cons_append] at mirrors
      obtain ⟨again, after, exchanges, repeated, same, exchanged, commands, terminated, folder,
          further⟩ :=
        mirrors.repeats answers decodes running taken (away turn List.mem_cons_self)
      have continues : again.isTerminate = false := same.trans (goesOn turn List.mem_cons_self)
      obtain ⟨last, lastExchanges, progressed, lastExchanged, lastCommands, lastRunning,
          lastFolder, lastMirrors⟩ :=
        ih further (exchanged.config ▸ answers) (terminated.trans continues)
          (fun other member => goesOn other (List.mem_cons_of_mem _ member))
          (fun other member => away other (List.mem_cons_of_mem _ member))
      refine ⟨last, exchanges ++ lastExchanges, ?_, exchanged.trans lastExchanged, ?_, lastRunning,
        lastFolder.trans folder, ?_⟩
      · intro limit
        rw [List.length_cons, Nat.add_right_comm, progress, repeated]
        simp only [continues, Bool.false_eq_true, if_false]
        exact progressed limit
      · rw [List.map_append, commands, lastCommands, List.flatMap_cons, List.map_append]
      · rw [List.map_cons, List.append_cons]
        exact lastMirrors

/-- A fresh explorer that only replays the recording of a run mirrors the beginning of
that run. -/
theorem IsFresh.mirrors
    {recording : Recording} {maxSkips : Nat} (recordedFresh : recorded.IsFresh)
    (replayFresh : replay.IsFresh) (package : replay.appPackage = recorded.appPackage)
    (only : replay.engine.strategies =
      [.playback { Playback.ofRecording recording with maxSkips := maxSkips }])
    (attended : replay.client.Attended inHand responses) :
    Mirrors inHand responses [] (recording.records.map ActionRecord.step) recorded replay where
  attended := attended
  replayed := ⟨_, only, Playback.hasReplayed_ofRecords _ _ _⟩
  lastKey := by rw [Engine.lastKey, Engine.lastKey, replayFresh.last, recordedFresh.last]
  store := by rw [replayFresh.store, recordedFresh.store]
  actionCount := by rw [replayFresh.actionCount, recordedFresh.actionCount]
  appPackage := package

/-- The turns of a run that succeeded: the last one terminates, and they tell what was
recorded, counted and exchanged. -/
theorem turns_of_run_ok
    {world : World σ} {limit : Nat} {final : Explorer σ} {summary : Summary}
    (fresh : recorded.IsFresh) (ran : recorded.run world limit = some (.ok summary, final)) :
    ∃ turns last middle terminated, TakesTurns world recorded turns middle ∧
      middle.TakesTurn world last terminated ∧
      (∀ turn ∈ turns, turn.action.isTerminate = false) ∧ last.action.isTerminate = true ∧
      turns.length < limit ∧
      recorded.client.Exchanged final.client (turns.flatMap Turn.exchanges ++ last.exchanges) ∧
      final.recording.records.map ActionRecord.step = turns.map Turn.step ++ [last.step] ∧
      summary.actions = terminated.engine.actionCount ∧ final.store = terminated.store := by
  obtain ⟨outcome, stopped, finished⟩ := run_eq_some_iff.mp ran
  obtain ⟨⟨outside, same⟩, failed, told⟩ := finish_frame finished
  have ended : outcome = .ok () := by
    cases outcome with
    | ok _ => rfl
    | error error => cases failed error rfl
  rw [ended] at stopped
  obtain ⟨turns, middle, -, taken, goesOn, ending, within⟩ :=
    progress_turns world limit (ready_of_progress stopped)
  rw [stopped] at ending
  obtain ⟨last, lastTaken, stops⟩ := ending
  have all := taken.concat lastTaken
  refine ⟨turns, last, middle, _, taken, lastTaken, goesOn, by rw [stops]; rfl,
    within (by rw [stopped]; rfl), ?_, ?_, ?_, ?_⟩
  · have exchanged := all.exchanged.outsideTo outside
    rw [List.flatMap_append, List.flatMap_singleton] at exchanged
    rw [same]
    exact exchanged
  · have recordedAll := all.recorded
    rw [fresh.recording] at recordedAll
    rw [same]
    simpa [Recording.ofPackage, outsideTo] using recordedAll
  · rw [told summary rfl, same]
    rfl
  · rw [same]
    rfl

/-- A run that succeeded, without pressing back on a home screen, can be replayed from
its recording.  On a daemon that shows the same snapshots and acknowledges every action,
and with the same decoder of screen captures, the replay sends the same commands, by the
calls on the connection where these are noted, skips nothing, issues as many actions and
leaves the same model. -/
theorem run_replays
    {world : World σ} {again : World τ} {limit maxSkips : Nat} {final : Explorer σ}
    {summary : Summary} {exchanges : List Exchange}
    (recordedFresh : recorded.IsFresh)
    (ran : recorded.run world limit = some (.ok summary, final))
    (exchanged : recorded.client.Exchanged final.client exchanges)
    (away : ∀ entry ∈ final.recording.records, entry.action = .pressBack →
      entry.screen.isHome = false)
    (replayFresh : replay.IsFresh) (package : replay.appPackage = recorded.appPackage)
    (only : replay.engine.strategies =
      [.playback { Playback.ofRecording final.recording with maxSkips := maxSkips }])
    (answers : again.Answers replay.client.config inHand) (decodes : again.decode = world.decode)
    (attended : replay.client.Attended inHand (exchanges.filterMap Exchange.fetched?))
    (saves : replay.outputFolder = none ∨ again.Saves) :
    ∃ replaySummary after replayExchanges playback,
      replay.run again limit = some (.ok replaySummary, after) ∧
      replay.client.Exchanged after.client replayExchanges ∧
      replayExchanges.map Exchange.command = exchanges.map Exchange.command ∧
      (∀ calls, again.Notes calls → replay.client.Sends calls after.client replayExchanges) ∧
      replaySummary.actions = summary.actions ∧
      after.engine.strategies = [.playback playback] ∧
      (Playback.stepsOf playback.traces).map (fun entry => (entry.action, entry.screen)) =
        final.recording.records.map ActionRecord.step ∧
      (∀ trace ∈ playback.traces, trace.isComplete = true ∧
        ∀ entry ∈ trace.entries, entry.explored = true) ∧
      after.store.snapshot = final.store.snapshot := by
  obtain ⟨turns, last, middle, terminated, taken, lastTaken, goesOn, stops, within, told, steps,
      actions, store⟩ := turns_of_run_ok recordedFresh ran
  have allExchanges := exchanged.unique told
  have awayTurn (turn : Turn) (member : turn.step ∈ final.recording.records.map ActionRecord.step) :
      turn.action = .pressBack → turn.screen.isHome = false := by
    obtain ⟨entry, entryMember, same⟩ := List.mem_map.mp member
    have action : entry.action = turn.action := congrArg Prod.fst same
    have screen : entry.screen = turn.screen := congrArg Prod.snd same
    rw [← action, ← screen]
    exact away entry entryMember
  have mirrors := recordedFresh.mirrors replayFresh package only attended
  rw [allExchanges, List.filterMap_append, steps, ← List.append_nil (last.exchanges.filterMap _)]
    at mirrors
  obtain ⟨middleReplay, middleExchanges, progressed, middleExchanged, middleCommands, running,
      middleFolder, further⟩ :=
    mirrors.repeats_all taken answers decodes replayFresh.running goesOn fun turn member =>
      awayTurn turn (by simpa [steps] using .inl ⟨turn, member, rfl⟩)
  obtain ⟨lastAction, ended, lastExchanges, repeated, same, lastExchanged, lastCommands, -,
      lastFolder, whole⟩ :=
    further.repeats (middleExchanged.config ▸ answers) decodes running lastTaken
      (awayTurn last (by simp [steps]))
  have terminates : lastAction.isTerminate = true := same.trans stops
  obtain ⟨rest, enough⟩ : ∃ rest, limit = turns.length + (rest + 1) :=
    ⟨limit - turns.length - 1, by omega⟩
  have reached : replay.progress again limit = (some (.ok ()), ended) := by
    rw [enough, progressed, progress, repeated]
    simp only [terminates, if_true]
  obtain ⟨outside, finished⟩ := finish_saved again ended
    ((lastFolder.trans middleFolder).symm ▸ saves)
  have replayRan : replay.run again limit =
      some (.ok ((ended.outsideTo outside).summary again), ended.outsideTo outside) :=
    run_eq_some_iff.mpr ⟨.ok (), congrArg Prod.fst reached, by rw [reached]; exact finished⟩
  obtain ⟨playback, strategies, replayed⟩ := whole.replayed
  have replayExchanged := (middleExchanged.trans lastExchanged).outsideTo outside
  refine ⟨_, _, middleExchanges ++ lastExchanges, playback, replayRan, replayExchanged, ?_, ?_, ?_,
    strategies, ?_, replayed.complete, ?_⟩
  · rw [List.map_append, middleCommands, lastCommands, allExchanges, List.map_append]
  · intro calls notes
    exact sends_of_run notes replayExchanged replayRan
  · rw [actions]
    exact whole.actionCount
  · rw [replayed.recorded, steps]
    simp
  · rw [store, ← whole.store]
    rfl

end

private theorem delivers_oneButton :
    Delivers (frameOf (.guiState .oneButton)) (.guiState .oneButton) := by
  have decoded : (Wire.response.ofBytes (Wire.response.toBytes (.guiState .oneButton))).toOption =
      some (.guiState .oneButton, []) := by
    decide +kernel
  exact delivers_frameOf (by decide +kernel) decoded

private def clickOnce : List Exchange :=
  [⟨.fetchGuiState, true, .ok (.guiState .oneButton)⟩, ⟨.perform .click 0 0, false, .ok .ack⟩,
    ⟨.fetchGuiState, false, .ok (.guiState .oneButton)⟩, ⟨.terminate, false, .ok .ack⟩]

private theorem click_once_told :
    ((ofPool [.explore, .actionBudget 1] ()).run (steady .oneButton) 2).map (fun ran =>
        (ran.1.toOption.isSome, ran.2.client.journal,
          ran.2.recording.records.any (·.action = .pressBack))) =
      some (true, clickOnce.flatMap Exchange.events, false) := by
  decide +kernel

/-- A click on the only button is replayed. -/
theorem run_replays_a_click :
    ∃ summary final replay replaySummary after exchanges,
      (ofPool [.explore, .actionBudget 1] ()).run (steady .oneButton) 2 =
        some (.ok summary, final) ∧
      replay = ofPool [.playback { Playback.ofRecording final.recording with maxSkips := 0 }] () ∧
      replay.run (steady .oneButton) 2 = some (.ok replaySummary, after) ∧
      replay.client.Exchanged after.client exchanges ∧
      exchanges.map Exchange.command =
        [.fetchGuiState, .perform .click 0 0, .fetchGuiState, .terminate] ∧
      replaySummary.actions = summary.actions ∧
      after.store.snapshot = final.store.snapshot := by
  obtain ⟨⟨result, final⟩, ran, told⟩ := Option.map_eq_some_iff.mp click_once_told
  simp only [Prod.mk.injEq] at told
  obtain ⟨succeeded, journal, away⟩ := told
  cases result with
  | error error => cases succeeded
  | ok summary =>
      have nowhere : ∀ entry ∈ final.recording.records, ¬ entry.action = .pressBack := by
        simpa using away
      obtain ⟨turns, last, -, -, -, -, -, -, -, exchanged, -⟩ :=
        turns_of_run_ok (ofPool_fresh _ _) ran
      have same : turns.flatMap Turn.exchanges ++ last.exchanges = clickOnce :=
        Exchange.eq_of_flatMap_events (exchanged.journal.symm.trans journal)
      rw [same] at exchanged
      obtain ⟨replaySummary, after, exchanges, -, replayed, repeated, commands, -, actions, -, -, -,
          snapshot⟩ :=
        run_replays (ofPool_fresh _ _) ran exchanged
          (fun entry member back => (nowhere entry member back).elim)
          (ofPool_fresh [.playback { Playback.ofRecording final.recording with maxSkips := 0 }] ())
          rfl rfl (steady_answers _ delivers_oneButton) rfl
          ⟨rfl, .inl ⟨rfl, by simp [clickOnce, Exchange.fetched?]⟩⟩ (.inl rfl)
      exact ⟨summary, final, _, replaySummary, after, exchanges, ran, rfl, replayed, repeated,
        commands, actions, snapshot⟩

end Explorer

end GuiExplorer
