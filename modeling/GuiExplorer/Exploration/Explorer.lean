import GuiExplorer.Action.Dispatch
import GuiExplorer.Coverage.Monitor
import GuiExplorer.Device.Client
import GuiExplorer.Exploration.Error
import GuiExplorer.Store.Recording
import GuiExplorer.Store.Snapshot

/-!
# Exploration

A run is a sequence of rounds.  In each round the screen of the device is
observed and recorded, the engine decides an action on it, and the daemon
carries the action out.  The run is over when the action was to terminate, or
halts at the first error; what was recorded until then is saved either way.
-/

namespace GuiExplorer

/-- What a finished run tells. -/
structure Summary where
  /-- Actions issued, the last one included. -/
  actions : Nat
  /-- Different screens observed. -/
  screens : Nat
  terminationReason : Option String
  /-- Statement coverage, if it was monitored. -/
  coverage : Option Share
  duration : Duration
deriving DecidableEq, Repr

/-- Everything that takes part in a run. -/
structure Explorer (σ : Type) where
  client : Client σ
  engine : Engine
  store : Store
  /-- The actions carried out so far. -/
  recording : Recording
  coverage : Option CoverageMonitor
  /-- Package of the app under exploration. -/
  appPackage : String
  /-- The folder for the recording and the model, if they are saved. -/
  outputFolder : Option String

/-- The screen of a snapshot.  A screen capture that cannot be decoded counts as
if there were none; there is no screen only if the decoder breaks down. -/
def GuiSnapshot.screen? (decode : Decoder) (snapshot : GuiSnapshot) : Option Screen :=
  match snapshot.screenshot.map decode with
  | some (.image image) => some (Screen.ofSnapshot snapshot.widgets (some image))
  | some .broken => none
  | _ => some (Screen.ofSnapshot snapshot.widgets none)

/-- The snapshot in the response to a request for one. -/
def Response.snapshot? : Response → Except DaemonError GuiSnapshot
  | .guiState snapshot => .ok snapshot
  | .failure message => .error (.remote message)
  | .ack => .error (.unexpectedResponse "Ack")

namespace Explorer

variable {σ : Type}

/-- Name of the saved recording. -/
def traceFile : String :=
  "trace.json"

/-- Name of the saved model. -/
def modelFile : String :=
  "model.json"

/-- An explorer that has not begun yet. -/
def new (client : Client σ) (engine : Engine) (appPackage : String)
    (outputFolder : Option String) : Explorer σ :=
  ⟨client, engine, .empty, .ofPackage appPackage, none, appPackage, outputFolder⟩

/-- The state of the world. -/
def outside (explorer : Explorer σ) : σ :=
  explorer.client.outside

/-- Go on with another state of the world. -/
def outsideTo (explorer : Explorer σ) (outside : σ) : Explorer σ :=
  { explorer with client := explorer.client.outsideTo outside }

/-- Send a command. -/
def query (world : World σ) (explorer : Explorer σ) (command : Command) :
    Except ExplorationError Response × Explorer σ :=
  let (result, client) := explorer.client.query world.toDevice command
  (result.mapError .device, { explorer with client := client })

/-- Fetch a snapshot of the device and record the screen. -/
def observe (world : World σ) (explorer : Explorer σ) :
    Except ExplorationError Screen × Explorer σ :=
  match explorer.query world .fetchGuiState with
  | (.error error, explorer) => (.error error, explorer)
  | (.ok response, explorer) =>
    match response.snapshot? with
    | .error error => (.error (.device error), explorer)
    | .ok snapshot =>
        match snapshot.screen? world.decode with
        | none => (.error .observation, explorer)
        | some screen => (.ok screen, { explorer with store := explorer.store.record screen })

/-- Decide the action on a screen. -/
def decide (world : World σ) (explorer : Explorer σ) (screen : Screen) :
    Except ExplorationError Action × Explorer σ :=
  let decision := explorer.engine.decide explorer.store screen
    (world.elapsed explorer.outside) explorer.appPackage
  (decision.result.mapError .engine,
    { explorer with engine := decision.engine, store := decision.store })

/-- Let the daemon carry out an action. -/
def execute (world : World σ) (explorer : Explorer σ) (action : Action) :
    Except ExplorationError Unit × Explorer σ :=
  match explorer.query world (action.command explorer.appPackage) with
  | (.error error, explorer) => (.error error, explorer)
  | (.ok response, explorer) => (response.confirm.mapError .device, explorer)

/-- Record an action that was carried out, and take in the statements that it
executed. -/
def settle (world : World σ) (explorer : Explorer σ) (action : Action) (screen : Screen) :
    Explorer σ :=
  let recording := explorer.recording.add action screen (world.timestamp explorer.outside)
  let explorer := { explorer with recording := recording }
  match explorer.coverage with
  | none => explorer
  | some monitor =>
      let (records, outside) := world.executed explorer.outside
      { explorer.outsideTo outside with coverage := some (monitor.update records) }

/-- One round: observe, decide and act.  The result is the action. -/
def round (world : World σ) (explorer : Explorer σ) :
    Except ExplorationError Action × Explorer σ :=
  match explorer.observe world with
  | (.error error, explorer) => (.error error, explorer)
  | (.ok screen, explorer) =>
    match explorer.decide world screen with
    | (.error error, explorer) => (.error error, explorer)
    | (.ok action, explorer) =>
      match explorer.execute world action with
      | (.error error, explorer) => (.error error, explorer)
      | (.ok _, explorer) => (.ok action, explorer.settle world action screen)

/-- Rounds until the run ends; no result if it has not ended after the given
number of rounds. -/
def rounds (world : World σ) :
    (limit : Nat) → Explorer σ → Option (Except ExplorationError Unit × Explorer σ)
  | 0, _ => none
  | limit + 1, explorer =>
      match explorer.round world with
      | (.error error, explorer) => some (.error error, explorer)
      | (.ok action, explorer) =>
          if action.isTerminate then some (.ok (), explorer) else rounds world limit explorer

/-- Save one file. -/
def saveFile (world : World σ) (explorer : Explorer σ) (folder name text : String) :
    Except StoreError Unit × Explorer σ :=
  match world.makeFolder folder explorer.outside with
  | (.error error, outside) => (.error (.io error), explorer.outsideTo outside)
  | (.ok _, outside) =>
      let (result, outside) := world.write folder name text outside
      (result.mapError .io, explorer.outsideTo outside)

/-- Save the recording and then the model, if they are to be saved. -/
def persist (world : World σ) (explorer : Explorer σ) : Except StoreError Unit × Explorer σ :=
  match explorer.outputFolder with
  | none => (.ok (), explorer)
  | some folder =>
    match explorer.saveFile world folder traceFile explorer.recording.save with
    | (.error error, explorer) => (.error error, explorer)
    | (.ok _, explorer) =>
        explorer.saveFile world folder modelFile explorer.store.snapshot.save

/-- What there is to tell now. -/
def summary (world : World σ) (explorer : Explorer σ) : Summary where
  actions := explorer.engine.actionCount
  screens := explorer.store.screenCount
  terminationReason := explorer.engine.terminationReason
  coverage := explorer.coverage.map CoverageMonitor.coverage
  duration := world.elapsed explorer.outside

/-- What a run comes to after its rounds: everything is saved, and an error of the
rounds counts more than one in saving. -/
def finish (world : World σ) (outcome : Except ExplorationError Unit) (explorer : Explorer σ) :
    Except ExplorationError Summary × Explorer σ :=
  let (saved, explorer) := explorer.persist world
  match outcome, saved with
  | .error error, _ => (.error error, explorer)
  | .ok _, .error error => (.error (.store error), explorer)
  | .ok _, .ok _ => (.ok (explorer.summary world), explorer)

/-- Run on a daemon that was started. -/
def run (world : World σ) (limit : Nat) (explorer : Explorer σ) :
    Option (Except ExplorationError Summary × Explorer σ) :=
  (explorer.rounds world limit).map fun (outcome, explorer) => explorer.finish world outcome

/-- Stop the daemon after a run.  An error of the run counts more than one in
stopping. -/
def close (world : World σ) (outcome : Except ExplorationError Summary) (explorer : Explorer σ) :
    Except ExplorationError Summary × Explorer σ :=
  let (closed, client) := explorer.client.close world.toDevice
  let explorer := { explorer with client := client }
  match outcome, closed with
  | .ok summary, .ok _ => (.ok summary, explorer)
  | .ok _, .error error => (.error (.device error), explorer)
  | .error error, _ => (.error error, explorer)

/-- Start the daemon, run, and stop the daemon. -/
def explore (world : World σ) (limit : Nat) (explorer : Explorer σ) :
    Option (Except ExplorationError Summary × Explorer σ) :=
  let (started, client) := explorer.client.start world.toDevice
  let explorer := { explorer with client := client }
  match started with
  | .error error => some (.error (.device error), explorer)
  | .ok _ => (explorer.run world limit).map fun (outcome, explorer) =>
      explorer.close world outcome

end Explorer

end GuiExplorer
