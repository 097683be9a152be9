import GuiExplorer.Exploration.Explorer
import GuiExplorer.Proofs.Device.Exchange
import GuiExplorer.Proofs.Engine.Decisions
import GuiExplorer.Rehearsal.Stage

/-!
# The turns of a run

A turn is a round that came to a decision: a screen was fetched, an action was
decided on it, and its command was exchanged.  A run of a ready explorer is a
sequence of turns whose commands were all accepted, after which the run goes on,
has terminated, or halts in one more round.  What the rounds of a run leave
behind is read off its turns.
-/

namespace GuiExplorer

@[simp]
theorem mapError_ok {α ε ε' : Type} (wrap : ε → ε') (value : α) :
    (Except.ok value : Except ε α).mapError wrap = .ok value :=
  rfl

@[simp]
theorem mapError_error {α ε ε' : Type} (wrap : ε → ε') (error : ε) :
    (Except.error error : Except ε α).mapError wrap = .error (wrap error) :=
  rfl

/-- The stage of a rehearsed daemon that listens. -/
def Stage.listening (replies : List Reply) (snapshots : List GuiSnapshot) : Stage :=
  ⟨.ok (), .ok (), [], 0, .ofName "", ⟨some Peer.defaultPort, snapshots, replies, [], false⟩, [],
    .empty⟩

/-- A snapshot of a screen with one button. -/
def GuiSnapshot.oneButton : GuiSnapshot :=
  ⟨[{ clickable := true, enabled := true, visible := true }], none, ""⟩

/-- The answer to a request for a snapshot shows the screen. -/
def Exchange.Shows (decode : Decoder) (fetch : Exchange) (screen : Screen) : Prop :=
  fetch.command = .fetchGuiState ∧
    ∃ snapshot, fetch.outcome = .ok (.guiState snapshot) ∧ snapshot.screen? decode = some screen

/-- A failure that the daemon reports halts the run with the message of the daemon. -/
def Exchange.Blames (exchange : Exchange) (error : ExplorationError) : Prop :=
  ∀ message, exchange.outcome = .ok (.failure message) → error = .device (.remote message)

/-- A round with a decision. -/
structure Turn where
  fetch : Exchange
  screen : Screen
  /-- What was decided on the screen. -/
  action : Action
  /-- The exchange of the command for the action. -/
  act : Exchange

namespace Turn

def exchanges (turn : Turn) : List Exchange :=
  [turn.fetch, turn.act]

def step (turn : Turn) : Action × Screen :=
  (turn.action, turn.screen)

/-- The daemon showed the screen, and was sent the command for the action. -/
structure IsProper (decode : Decoder) (package : String) (turn : Turn) : Prop where
  shows : turn.fetch.Shows decode turn.screen
  acts : turn.act.command = turn.action.command package

end Turn

/-- The action and the screen of a record. -/
def ActionRecord.step (entry : ActionRecord) : Action × Screen :=
  (entry.action, entry.screen)

namespace Explorer

variable {σ : Type}

/-- The decision on a screen that was just recorded. -/
def decisionOn (explorer : Explorer σ) (screen : Screen) (elapsed : Duration) : Decision :=
  explorer.engine.decide (explorer.store.record screen) screen elapsed explorer.appPackage

/-- Nothing was observed, decided or recorded yet. -/
structure IsFresh (explorer : Explorer σ) : Prop where
  store : explorer.store = .empty
  recording : explorer.recording = .ofPackage explorer.appPackage
  last : explorer.engine.last = none
  actionCount : explorer.engine.actionCount = 0
  running : explorer.engine.isTerminated = false

/-- An explorer that is about to run, unsaved, on a daemon that was started. -/
def ofPool (pool : List Strategy) (outside : σ) : Explorer σ :=
  let client := Client.ofConfig { port := Peer.defaultPort } outside
  new { client with phase := .ready, worker := some .spawned } (.ofStrategies 1 pool)
    "com.example.app" none

theorem ofPool_fresh (pool : List Strategy) (outside : σ) : (ofPool pool outside).IsFresh :=
  ⟨rfl, rfl, rfl, rfl, rfl⟩

/-- A turn whose command was accepted, and the explorer after it. -/
structure TakesTurn (world : World σ) (explorer : Explorer σ) (turn : Turn) (next : Explorer σ) :
    Prop where
  proper : turn.IsProper world.decode explorer.appPackage
  accepted : turn.act.isAccepted = true
  exchanged : explorer.client.Exchanged next.client turn.exchanges
  decided : ∃ elapsed, (explorer.decisionOn turn.screen elapsed).result = .ok turn.action ∧
    next.engine = (explorer.decisionOn turn.screen elapsed).engine ∧
    next.store = (explorer.decisionOn turn.screen elapsed).store
  recorded : ∃ timestamp,
    next.recording = explorer.recording.add turn.action turn.screen timestamp
  appPackage : next.appPackage = explorer.appPackage
  outputFolder : next.outputFolder = explorer.outputFolder

theorem TakesTurn.recorded_step
    {world : World σ} {explorer next : Explorer σ} {turn : Turn}
    (taken : explorer.TakesTurn world turn next) :
    next.recording.records.map ActionRecord.step =
      explorer.recording.records.map ActionRecord.step ++ [turn.step] := by
  obtain ⟨timestamp, recorded⟩ := taken.recorded
  rw [recorded, Recording.add, List.map_append]
  rfl

/-- A round that halts the run: while the screen is fetched, when nothing is
decided, or because the command is not accepted. -/
inductive Halts (world : World σ) (explorer : Explorer σ) :
    ExplorationError → Explorer σ → Prop where
  | fetching {fetch : Exchange} {client : Client σ} {error : ExplorationError}
      (failed : (explorer.observe world).1 = .error error)
      (asked : fetch.command = .fetchGuiState)
      (exchanged : explorer.client.Exchanged client [fetch])
      (blames : fetch.Blames error) :
      Halts world explorer error { explorer with client := client }
  | deciding {fetch : Exchange} {client : Client σ} {screen : Screen} {elapsed : Duration}
      {error : EngineError}
      (shows : fetch.Shows world.decode screen)
      (exchanged : explorer.client.Exchanged client [fetch])
      (failed : (explorer.decisionOn screen elapsed).result = .error error) :
      Halts world explorer (.engine error)
        { explorer with
          client := client
          engine := (explorer.decisionOn screen elapsed).engine
          store := (explorer.decisionOn screen elapsed).store }
  | acting {turn : Turn} {client : Client σ} {elapsed : Duration} {error : ExplorationError}
      (proper : turn.IsProper world.decode explorer.appPackage)
      (exchanged : explorer.client.Exchanged client turn.exchanges)
      (decided : (explorer.decisionOn turn.screen elapsed).result = .ok turn.action)
      (refused : turn.act.isAccepted = false)
      (blames : turn.act.Blames error) :
      Halts world explorer error
        { explorer with
          client := client
          engine := (explorer.decisionOn turn.screen elapsed).engine
          store := (explorer.decisionOn turn.screen elapsed).store }

theorem Halts.recording_eq
    {world : World σ} {explorer final : Explorer σ} {error : ExplorationError}
    (halts : Halts world explorer error final) :
    final.recording = explorer.recording := by
  cases halts <;> rfl

theorem Halts.outputFolder_eq
    {world : World σ} {explorer final : Explorer σ} {error : ExplorationError}
    (halts : Halts world explorer error final) :
    final.outputFolder = explorer.outputFolder := by
  cases halts <;> rfl

/-! ## What a round can do -/

theorem observe_cases
    (world : World σ) {explorer : Explorer σ} (ready : explorer.client.phase = .ready) :
    (∃ fetch client screen, fetch.Shows world.decode screen ∧
      explorer.client.Exchanged client [fetch] ∧
      explorer.observe world =
        (.ok screen,
          { explorer with client := client, store := explorer.store.record screen })) ∨
    (∃ fetch client error, fetch.command = .fetchGuiState ∧
      explorer.client.Exchanged client [fetch] ∧
      fetch.Blames error ∧
      explorer.observe world = (.error error, { explorer with client := client })) := by
  obtain ⟨connects, exchanged⟩ :=
    Client.query_exchanged world.toDevice .fetchGuiState ready
  unfold observe query
  rcases queried : explorer.client.query world.toDevice .fetchGuiState with ⟨outcome, client⟩
  rw [queried] at exchanged
  cases outcome with
  | error error =>
      refine .inr ⟨_, client, .device error, rfl, exchanged, ?_, rfl⟩
      intro message answered
      cases answered
  | ok response =>
      cases response with
      | guiState snapshot =>
          cases shown : snapshot.screen? world.decode with
          | none =>
              refine .inr ⟨_, client, .observation, rfl, exchanged, ?_, ?_⟩
              · intro message answered
                cases answered
              · simp [Response.snapshot?, shown]
          | some screen =>
              refine .inl ⟨_, client, screen, ⟨rfl, snapshot, rfl, shown⟩, exchanged, ?_⟩
              simp [Response.snapshot?, shown]
      | ack =>
          refine .inr ⟨_, client, .device (.unexpectedResponse "Ack"), rfl, exchanged, ?_, rfl⟩
          intro message answered
          cases answered
      | failure message =>
          refine .inr ⟨_, client, .device (.remote message), rfl, exchanged, ?_, rfl⟩
          intro other answered
          cases answered
          rfl

theorem execute_cases
    (world : World σ) {explorer : Explorer σ} (action : Action)
    (ready : explorer.client.phase = .ready) :
    ∃ act client, act.command = action.command explorer.appPackage ∧
      explorer.client.Exchanged client [act] ∧
      ((act.isAccepted = true ∧
          explorer.execute world action = (.ok (), { explorer with client := client })) ∨
        (act.isAccepted = false ∧ ∃ error, act.Blames error ∧
          explorer.execute world action = (.error error, { explorer with client := client }))) := by
  obtain ⟨connects, exchanged⟩ :=
    Client.query_exchanged world.toDevice (action.command explorer.appPackage) ready
  unfold execute query
  rcases queried : explorer.client.query world.toDevice (action.command explorer.appPackage) with
    ⟨outcome, client⟩
  rw [queried] at exchanged
  refine ⟨_, client, rfl, exchanged, ?_⟩
  cases outcome with
  | error error =>
      refine .inr ⟨rfl, .device error, ?_, rfl⟩
      intro message answered
      cases answered
  | ok response =>
      cases response with
      | guiState snapshot => exact .inl ⟨rfl, rfl⟩
      | ack => exact .inl ⟨rfl, rfl⟩
      | failure message =>
          refine .inr ⟨rfl, .device (.remote message), ?_, rfl⟩
          intro other answered
          cases answered
          rfl

/-- Settling an action records it and changes nothing else but the coverage and
the world. -/
theorem settle_frame (world : World σ) (explorer : Explorer σ) (action : Action) (screen : Screen) :
    (∃ outside, (explorer.settle world action screen).client =
      explorer.client.outsideTo outside) ∧
    (explorer.settle world action screen).engine = explorer.engine ∧
    (explorer.settle world action screen).store = explorer.store ∧
    (explorer.settle world action screen).recording =
      explorer.recording.add action screen (world.timestamp explorer.outside) ∧
    (explorer.settle world action screen).appPackage = explorer.appPackage ∧
    (explorer.settle world action screen).outputFolder = explorer.outputFolder := by
  unfold settle
  cases watched : explorer.coverage with
  | none =>
      exact ⟨⟨explorer.client.outside, rfl⟩, rfl, rfl, rfl, rfl, rfl⟩
  | some monitor =>
      exact ⟨⟨_, rfl⟩, rfl, rfl, rfl, rfl, rfl⟩

/-- A round of a ready explorer is a turn or halts the run. -/
theorem round_cases
    (world : World σ) {explorer : Explorer σ} (ready : explorer.client.phase = .ready) :
    (∃ turn next, explorer.TakesTurn world turn next ∧
      explorer.round world = (.ok turn.action, next)) ∨
    (∃ error next, Halts world explorer error next ∧
      explorer.round world = (.error error, next)) := by
  rcases observe_cases world ready with
    ⟨fetch, client, screen, shows, fetched, observed⟩ |
    ⟨fetch, client, error, asked, fetched, blames, observed⟩
  · let seen : Explorer σ :=
      { explorer with client := client, store := explorer.store.record screen }
    let decision := explorer.decisionOn screen (world.elapsed client.outside)
    let settled : Explorer σ := { seen with engine := decision.engine, store := decision.store }
    have decided : seen.decide world screen =
        (decision.result.mapError .engine, settled) := rfl
    cases result : decision.result with
    | error error =>
        refine .inr ⟨.engine error, settled, .deciding shows fetched result, ?_⟩
        simp only [round, observed]
        rw [decided, result]
        rfl
    | ok action =>
        have clientReady : settled.client.phase = .ready := fetched.phase.trans ready
        obtain ⟨act, final, acts, acted, outcome⟩ := execute_cases world action clientReady
        let turn : Turn := ⟨fetch, screen, action, act⟩
        have proper : turn.IsProper world.decode explorer.appPackage := ⟨shows, acts⟩
        have exchanged : explorer.client.Exchanged final turn.exchanges := fetched.trans acted
        rcases outcome with ⟨accepted, executed⟩ | ⟨refused, error, blames, executed⟩
        · obtain ⟨⟨outside, sameClient⟩, sameEngine, sameStore, recorded, package, folder⟩ :=
            settle_frame world { settled with client := final } action screen
          refine .inl ⟨turn, _, ⟨proper, accepted, ?_, ⟨_, result, sameEngine, sameStore⟩,
            ⟨_, recorded⟩, package, folder⟩, ?_⟩
          · rw [sameClient]
            exact exchanged.outsideTo outside
          · simp only [round, observed]
            rw [decided, result]
            simp only [mapError_ok]
            rw [executed]
        · refine .inr ⟨error, { settled with client := final },
            .acting proper exchanged result refused blames, ?_⟩
          simp only [round, observed]
          rw [decided, result]
          simp only [mapError_ok]
          rw [executed]
  · refine .inr ⟨error, { explorer with client := client },
      .fetching (by rw [observed]) asked fetched blames, ?_⟩
    simp only [round, observed]

end Explorer

end GuiExplorer
