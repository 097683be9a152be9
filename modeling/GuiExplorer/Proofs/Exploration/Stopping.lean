import GuiExplorer.Proofs.Exploration.Footprint

/-!
# The daemon is stopped

An exploration that has started the daemon stops it, however its run ends: after all
other commands it sends the one to stop, once, and raises the stop flag of the worker.
An exploration that could not start the daemon sends nothing.  This is told of the
journal and of the calls on the connection.  Either way the client is closed at the end
and holds neither a worker nor a connection.
-/

namespace GuiExplorer

namespace Client

variable {σ : Type} {device : Device σ} {client : Client σ}

/-- The client is closed and holds nothing any more. -/
structure Released (client : Client σ) : Prop where
  phase : client.phase = .closed
  worker : client.worker = none
  connection : client.connection = none

/-- All exchanges on connections to the daemon, of which only the last is to stop it; after
that the worker was asked to stop and was waited for. -/
structure ShutDown (device : Device σ) (client : Client σ) (exchanges : List Exchange)
    (stop : Exchange) : Prop where
  talk : client.talk = (exchanges ++ [stop]).flatMap Exchange.events
  asks : stop.command = .stopDaemon
  spares : ∀ exchange ∈ exchanges, exchange.command ≠ .stopDaemon
  raises : ∃ waited, client.Stopped device waited

theorem Settled.released (settled : Settled device client) (phase : client.phase = .closed) :
    client.Released := by
  cases settled with
  | notStarted other => cases phase.symm.trans other
  | ready other => cases phase.symm.trans other
  | closed _ worker connection => exact ⟨phase, worker, connection⟩

theorem Exchanged.talk_eq
    {after : Client σ} {exchanges : List Exchange} (exchanged : Exchanged client after exchanges) :
    after.talk = client.talk ++ exchanges.flatMap Exchange.events := by
  have all : ∀ exchange : Exchange, exchange.events.all (·.isOnSocket) = true := by
    rintro ⟨command, _ | _, _ | _⟩ <;> rfl
  have kept : (exchanges.flatMap Exchange.events).filter (·.isOnSocket) =
      exchanges.flatMap Exchange.events := by
    refine List.filter_eq_self.mpr ?_
    intro event member
    obtain ⟨exchange, -, told⟩ := List.mem_flatMap.mp member
    exact List.all_eq_true.mp (all exchange) event told
  rw [talk, exchanged.journal, List.filter_append, kept, talk]

theorem stopWorker_talk (device : Device σ) (client : Client σ) (handle : WorkerHandle) :
    (client.stopWorker device handle).2.2.talk = client.talk := by
  have asked : (client.note .stopRequested).talk = client.talk := by
    simp [ClientEvent.isOnSocket]
  have waited (outcome : Waited) :
      ((client.note .stopRequested).note (.waited outcome)).talk = client.talk := by
    rw [talk_note, asked]
    simp [ClientEvent.isOnSocket]
  exact waited _

theorem start_talk (device : Device σ) (client : Client σ) :
    (client.start device).2.talk = client.talk := by
  have launching : ((client.enter .starting).launch device).2.talk = client.talk := by
    rcases (client.enter .starting).launch_cases device with ⟨-, kept⟩ | ⟨prepared, before, after⟩
    · exact kept.talk
    · have spawned : (prepared.spawn device).talk = prepared.talk := by
        change (prepared.note (.launched _ _ _)).talk = _
        simp [ClientEvent.isOnSocket]
      exact after.talk.trans (spawned.trans before.talk)
  unfold start
  generalize (client.enter .starting).launch device = launched at launching
  obtain ⟨result, after⟩ := launched
  cases client.expect .notStarted with
  | error error => rfl
  | ok _ =>
      cases result with
      | ok _ => exact launching
      | error error =>
          dsimp only
          cases after.worker with
          | none => exact launching
          | some handle => exact (stopWorker_talk device after handle).trans launching

/-- The exchange by which a client stops the daemon when it closes. -/
def stopping (device : Device σ) (client : Client σ) : Exchange :=
  ⟨.stopDaemon, client.connection.isNone, ((client.enter .closing).exchange device .stopDaemon).1⟩

theorem close_talk
    (device : Device σ) {handle : WorkerHandle} (phase : client.phase = .ready)
    (worker : client.worker = some handle) :
    (client.close device).2.talk = client.talk ++ (client.stopping device).events := by
  have expected : client.expect .ready = .ok () := if_pos phase
  have exchanged := (client.enter .closing).exchange_exchanges device .stopDaemon
  have told := exchanged.talk_eq
  rw [List.flatMap_singleton] at told
  refine Eq.trans ?_ told
  have held : ((client.enter .closing).exchange device .stopDaemon).2.worker = some handle :=
    exchanged.worker.trans worker
  simp only [close, expected]
  generalize ((client.enter .closing).exchange device .stopDaemon).2 = asked at held ⊢
  have silent := stopWorker_talk device { asked with connection := none } handle
  simp only [held] at silent ⊢
  generalize stopWorker device _ handle = stopping at silent ⊢
  obtain ⟨_ | _, joined, after⟩ := stopping
  case error => exact silent
  case ok =>
    dsimp only
    split <;> exact silent

section

variable {calls : σ → List SocketCall} (notes : device.Notes calls)

include notes

/-- To start the daemon, nothing is done on the connection. -/
theorem start_calls (fresh : client.phase = .notStarted) :
    client.Reaches (fun before after => calls after = calls before) (client.start device).2 := by
  have offSocket := notes.offSocket client.config.serial
  exact (forwardPort_reaches offSocket rfl).trans offSocket (start_reaches offSocket fresh rfl)

theorem close_calls (ready : client.phase = .ready) :
    ∃ made, calls (client.close device).2.outside = calls client.outside ++ made ∧
      Exchange.AllMadeBy client.config [client.stopping device] made := by
  obtain ⟨made, noted, makes⟩ := (exchange_sends notes (client.enter .closing) .stopDaemon).made
  have closes := exchange_reaches_close (notes.offSocket client.config.serial) ready
  exact ⟨made, closes.outside.trans noted, makes⟩

end

end Client

/-- What the outcome of a run and that of the close after it come to: an error of the run is
told before one of the close. -/
inductive Prevails :
    Except ExplorationError Summary → Except DaemonError Unit →
      Except ExplorationError Summary → Prop where
  | run (error : ExplorationError) (closed : Except DaemonError Unit) :
      Prevails (.error error) closed (.error error)
  | close (summary : Summary) (error : DaemonError) :
      Prevails (.ok summary) (.error error) (.error (.device error))
  | neither (summary : Summary) :
      Prevails (.ok summary) (.ok ()) (.ok summary)

namespace Turn

private theorem command_ne_stopDaemon (action : Action) (package : String) :
    action.command package ≠ .stopDaemon := by
  cases action <;> simp [Action.command]

theorem IsProper.spares {decode : Decoder} {turn : Turn} {package : String}
    (proper : turn.IsProper decode package) :
    ∀ exchange ∈ turn.exchanges, exchange.command ≠ .stopDaemon := by
  intro exchange member
  simp only [exchanges, List.mem_cons, List.not_mem_nil, or_false] at member
  rcases member with rfl | rfl
  · simp [proper.shows.1]
  · rw [proper.acts]
    exact command_ne_stopDaemon _ _

end Turn

namespace Explorer

variable {σ : Type} {explorer : Explorer σ}

theorem round_exchanged (world : World σ) (ready : explorer.client.phase = .ready) :
    ∃ exchanges, explorer.client.Exchanged (explorer.round world).2.client exchanges ∧
      ∀ exchange ∈ exchanges, exchange.command ≠ .stopDaemon := by
  rcases round_cases world ready with ⟨turn, next, taken, turned⟩ | ⟨error, next, halts, halted⟩
  · rw [turned]
    exact ⟨turn.exchanges, taken.exchanged, taken.proper.spares⟩
  · rw [halted]
    cases halts with
    | @fetching fetch client _ failed asked exchanged blames =>
        exact ⟨[fetch], exchanged, by simp [asked]⟩
    | @deciding fetch client screen elapsed _ shows exchanged failed =>
        exact ⟨[fetch], exchanged, by simp [shows.1]⟩
    | @acting turn client elapsed _ proper exchanged decided refused blames =>
        exact ⟨turn.exchanges, exchanged, proper.spares⟩

/-- A run does not stop the daemon, nor does saving what it recorded. -/
theorem run_exchanged
    {world : World σ} {limit : Nat} {outcome : Except ExplorationError Summary}
    {ran : Explorer σ} (run : explorer.run world limit = some (outcome, ran)) :
    ∃ exchanges, explorer.client.Exchanged ran.client exchanges ∧
      ∀ exchange ∈ exchanges, exchange.command ≠ .stopDaemon := by
  obtain ⟨exchanges, exchanged, spares⟩ :=
    progress_exchanges (fun _ exchanges => ∀ exchange ∈ exchanges, exchange.command ≠ .stopDaemon)
      (by simp) (fun _ ready => round_exchanged world ready)
      (fun _ _ _ former latter => List.forall_mem_append.mpr ⟨former, latter⟩) limit explorer
  exact ⟨exchanges, exchanged_of_run exchanged run, spares⟩

theorem close_prevails
    (world : World σ) (outcome : Except ExplorationError Summary) (explorer : Explorer σ) :
    Prevails outcome (explorer.client.close world.toDevice).1 (explorer.close world outcome).1 := by
  unfold close
  rcases explorer.client.close world.toDevice with ⟨closed, client⟩
  cases outcome with
  | error error => exact .run error closed
  | ok summary =>
      cases closed with
      | error error => exact .close summary error
      | ok _ => exact .neither summary

theorem close_shutDown
    {world : World σ} {exchanges : List Exchange} (outcome : Except ExplorationError Summary)
    (phase : explorer.client.phase = .ready) (worker : explorer.client.worker = some .spawned)
    (launches : explorer.client.launches = 1)
    (talk : explorer.client.talk = exchanges.flatMap Exchange.events)
    (spares : ∀ exchange ∈ exchanges, exchange.command ≠ .stopDaemon) :
    (explorer.close world outcome).2.client.Released ∧
      (explorer.close world outcome).2.client.ShutDown world.toDevice exchanges
        (explorer.client.stopping world.toDevice) := by
  obtain ⟨waited, after, closes, closed, settled, stopped⟩ :=
    Client.close_waits world.toDevice phase worker launches
  have told := Client.close_talk world.toDevice phase worker
  rw [close_client, closes]
  rw [closes] at told
  refine ⟨settled.released closed, ?_, rfl, spares, waited, stopped⟩
  rw [told, talk, List.flatMap_append, List.flatMap_singleton]

/-- The calls of a run and of the close after it. -/
theorem close_makes
    {world : World σ} {calls : σ → List SocketCall} {ran : Explorer σ} {exchanges : List Exchange}
    (notes : world.Notes calls) (sends : explorer.client.Sends calls ran.client exchanges)
    (ready : ran.client.phase = .ready) (outcome : Except ExplorationError Summary) :
    ∃ made, calls (ran.close world outcome).2.outside = calls explorer.outside ++ made ∧
      Exchange.AllMadeBy explorer.client.config
        (exchanges ++ [ran.client.stopping world.toDevice]) made := by
  obtain ⟨earlier, noted, makes⟩ := sends.made
  obtain ⟨last, notedLast, makesLast⟩ := Client.close_calls notes.toNotes ready
  rw [sends.exchanged.config] at makesLast
  refine ⟨earlier ++ last, ?_, makes.append makesLast⟩
  rw [outside, close_client, notedLast, noted, List.append_assoc]
  rfl

/-- Once the daemon was started, a run that ends leaves it to the close to stop the daemon. -/
theorem close_stops_after_run
    {world : World σ} {limit : Nat} {outcome : Except ExplorationError Summary} {ran : Explorer σ}
    (run : explorer.run world limit = some (outcome, ran))
    (ready : explorer.client.phase = .ready) (worker : explorer.client.worker = some .spawned)
    (launches : explorer.client.launches = 1) (silent : explorer.client.talk = []) :
    (ran.close world outcome).2.client.Released ∧
    ∃ exchanges stop,
      (ran.close world outcome).2.client.ShutDown world.toDevice exchanges stop ∧
      ∀ calls, world.Notes calls → ∃ made,
        calls (ran.close world outcome).2.outside = calls explorer.outside ++ made ∧
        Exchange.AllMadeBy explorer.client.config (exchanges ++ [stop]) made := by
  obtain ⟨exchanges, exchanged, spares⟩ := run_exchanged run
  have ranReady := exchanged.phase.trans ready
  have talk : ran.client.talk = exchanges.flatMap Exchange.events := by
    rw [exchanged.talk_eq, silent, List.nil_append]
  obtain ⟨released, shutDown⟩ := close_shutDown outcome ranReady
    (exchanged.worker.trans worker) (exchanged.launches_eq.trans launches) talk spares
  refine ⟨released, exchanges, _, shutDown, ?_⟩
  exact fun calls notes => close_makes notes (sends_of_run notes exchanged run) ranReady outcome

/-- An explorer whose client has not done anything yet either cannot start the daemon, and then
it sends nothing and tells why, or it explores until its run ends, stops the daemon after all
other commands and raises the stop flag of the worker.  Where the calls on the connection are
noted, there are none in the one case, and in the other those by which these commands are
exchanged.  Whatever the pool and the world, the client is closed then and holds nothing; the
error of the run prevails over that of closing. -/
theorem explore_stops_daemon
    (world : World σ) {config : DaemonConfig} {outside : σ}
    (fresh : explorer.client = .ofConfig config outside) :
    (∀ error client, explorer.client.start world.toDevice = (.error error, client) →
      client.Released ∧ client.talk = [] ∧
      (∀ calls, world.Notes calls → calls client.outside = calls outside) ∧
      ∀ limit, explorer.explore world limit =
        some (.error (.device error), { explorer with client := client })) ∧
    ∀ client, explorer.client.start world.toDevice = (.ok (), client) →
      let started : Explorer σ := { explorer with client := client }
      ∀ limit,
        (explorer.explore world limit = none ↔ started.run world limit = none) ∧
        ∀ outcome ran, started.run world limit = some (outcome, ran) →
          ∃ result final, explorer.explore world limit = some (result, final) ∧
            final.client.Released ∧
            (∃ exchanges stop,
              final.client.ShutDown world.toDevice exchanges stop ∧
              ∀ calls, world.Notes calls → ∃ made,
                calls final.outside = calls outside ++ made ∧
                Exchange.AllMadeBy config (exchanges ++ [stop]) made) ∧
            Prevails outcome (ran.client.close world.toDevice).1 result := by
  have silent := Client.start_talk world.toDevice explorer.client
  have unsaid : explorer.client.talk = [] := by rw [fresh]; rfl
  have unstarted : explorer.client.phase = .notStarted := by rw [fresh]; rfl
  obtain ⟨result, after, starts, phase, settled⟩ :=
    Client.start_settles world.toDevice unstarted (by rw [fresh]; rfl) (by rw [fresh]; rfl)
      (by rw [fresh]; rfl)
  rw [starts, unsaid] at silent
  have uncalled {calls : σ → List SocketCall} (notes : world.Notes calls) :
      (Client.ofConfig config outside).Reaches (fun before after => calls after = calls before)
        after := by
    have starting := Client.start_calls notes.toNotes unstarted
    rwa [starts, fresh] at starting
  constructor
  · intro error client failed
    obtain ⟨rfl, rfl⟩ := Prod.mk.inj (starts.symm.trans failed)
    refine ⟨settled.released phase, silent, ?_, ?_⟩
    · intro calls notes
      exact (uncalled notes).outside
    · intro limit
      simp only [explore, starts]
  · intro client succeeded started limit
    obtain ⟨rfl, rfl⟩ := Prod.mk.inj (starts.symm.trans succeeded)
    have explores : explorer.explore world limit =
        (started.run world limit).map fun ended => ended.2.close world ended.1 := by
      simp only [explore, starts]
      rfl
    refine ⟨by rw [explores, Option.map_eq_none_iff], ?_⟩
    intro outcome ran run
    cases settled with
    | notStarted other => cases phase.symm.trans other
    | closed other => cases phase.symm.trans other
    | ready ready worker launches =>
        obtain ⟨released, exchanges, stop, shutDown, sends⟩ :=
          close_stops_after_run run ready worker launches silent
        refine ⟨_, _, ?_, released, ⟨exchanges, stop, shutDown, ?_⟩, close_prevails _ _ _⟩
        · rw [explores, run]
          rfl
        · intro calls notes
          obtain ⟨made, noted, makes⟩ := sends calls notes
          have unsent : calls started.outside = calls outside := (uncalled notes).outside
          have setup : started.client.config = config := (uncalled notes).config
          exact ⟨made, unsent ▸ noted, setup ▸ makes⟩

/-- A world in which the daemon starts and takes commands but answers none, and no folder can be
made; its state tells whether the worker was asked to stop. -/
def deafWorld (ending : Option WorkerEnd) : World Bool where
  toDevice :=
    { Client.deafDevice ending with connect := fun _ _ raised => (.ok (), raised) }
  elapsed _ := ⟨0⟩
  timestamp _ := ""
  decode _ := .unreadable
  executed raised := ([], raised)
  makeFolder _ raised := (.error .notDirectory, raised)
  write _ _ _ raised := (.error .notDirectory, raised)

/-- Neither the run nor saving succeeds, and the daemon is sent the command to stop all the same;
the other daemon has ended when its start is confirmed, and is sent nothing. -/
theorem explore_stops_deaf_daemon :
    let explorer : Explorer (Bool × List SocketCall) :=
      new (.ofConfig {} (false, [])) (.ofStrategies 1 [.reset]) "com.example.app" (some "out")
    let world := (deafWorld none).noting
    let ended := (deafWorld (some .finished)).noting
    let refusal := ExplorationError.device (.timeout explorer.client.config.socketTimeout)
    (∃ final exchanges stop,
      explorer.explore world 1 = some (.error refusal, final) ∧
      final.client.Released ∧ final.outside.1 = true ∧
      final.client.ShutDown world.toDevice exchanges stop ∧
      Exchange.AllMadeBy {} (exchanges ++ [stop]) final.outside.2 ∧
      ([Command.fetchGuiState, .stopDaemon].map fun command =>
          Wire.writeFrame (Wire.command.toBytes command)) =
        (final.outside.2.filterMap SocketCall.frame?).map .ok) ∧
    ∃ client : Client (Bool × List SocketCall),
      explorer.explore ended 1 =
        some (.error (.device (.startup .notRunning)), { explorer with client := client }) ∧
      client.Released ∧ client.talk = [] ∧ client.outside.2 = [] := by
  intro explorer world ended refusal
  have fresh : explorer.client = .ofConfig {} (false, []) := rfl
  constructor
  · let client := (explorer.client.start world.toDevice).2
    have starts : explorer.client.start world.toDevice = (.ok (), client) := rfl
    have fails : (run world 1 { explorer with client := client }).map Prod.fst =
        some (.error refusal) := rfl
    obtain ⟨⟨outcome, ran⟩, halted, rfl⟩ := Option.map_eq_some_iff.mp fails
    obtain ⟨-, succeeding⟩ := explore_stops_daemon world fresh
    obtain ⟨result, final, explored, released, ⟨exchanges, stop, shutDown, sends⟩, prevails⟩ :=
      (succeeding client starts 1).2 _ ran halted
    cases prevails
    obtain ⟨made, noted, makes⟩ := sends Prod.snd (World.noting_notes _)
    have told : (explorer.explore world 1).map (fun ended => (ended.2.outside.1,
          (ended.2.outside.2.filterMap SocketCall.frame?).map Except.ok)) =
        some (true, [Command.fetchGuiState, .stopDaemon].map fun command =>
          Wire.writeFrame (Wire.command.toBytes command)) :=
      rfl
    rw [explored, Option.map_some, Option.some.injEq, Prod.mk.injEq] at told
    exact ⟨final, exchanges, stop, explored, released, told.1, shutDown, noted ▸ makes,
      told.2.symm⟩
  · obtain ⟨failing, -⟩ := explore_stops_daemon ended fresh
    obtain ⟨released, silent, unsent, explored⟩ := failing (.startup .notRunning) _ rfl
    exact ⟨_, explored 1, released, silent, unsent Prod.snd (World.noting_notes _)⟩

end Explorer

end GuiExplorer
