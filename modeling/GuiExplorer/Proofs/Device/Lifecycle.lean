import GuiExplorer.Proofs.Device.Exchange

/-!
# Lifecycle of a client

Whatever calls are made and whatever the world answers, a client is between two
calls in one of three phases, and holds the worker exactly while it is ready.  The
worker is launched at most once, and a client that is closed has asked it to stop
and has waited for it.
-/

namespace GuiExplorer

theorem Startup.await_preserves
    {τ : Type} {Kept : τ → Prop} (wait : Startup.Wait)
    {read : τ → Except CallError (List String) × τ}
    (step : ∀ world, Kept world → Kept (read world).2)
    (patience : Nat) {world : τ} (kept : Kept world) :
    Kept (Startup.await wait read patience world).2 := by
  fun_induction Startup.await wait read patience world with
  | case1 patience world error after reading =>
      have next := step world kept
      rwa [reading] at next
  | case2 patience world messages after reading enough =>
      have next := step world kept
      rwa [reading] at next
  | case3 world messages after reading few =>
      have next := step world kept
      rwa [reading] at next
  | case4 world messages after reading few patience ih =>
      have next := step world kept
      rw [reading] at next
      exact ih next

/-- A call to a client. -/
inductive ClientCall where
  | start
  | query (command : Command)
  | close
deriving DecidableEq

namespace ClientCall

/-- The phase in which a call is made. -/
def needs : ClientCall → Phase
  | .start => .notStarted
  | .query _ => .ready
  | .close => .ready

/-- The phase after a call, given whether it succeeds. -/
def next (call : ClientCall) (succeeds : Bool) (phase : Phase) : Phase :=
  match call, phase with
  | .start, .notStarted => if succeeds then .ready else .closed
  | .close, .ready => .closed
  | _, phase => phase

end ClientCall

namespace ClientEvent

def isLaunch : ClientEvent → Bool
  | .launched _ _ _ => true
  | _ => false

/-- Whether the event is on the connection to the daemon. -/
def isOnSocket : ClientEvent → Bool
  | .connected => true
  | .asked _ => true
  | .answered _ => true
  | .failed _ => true
  | _ => false

end ClientEvent

namespace Client

variable {σ : Type}

/-- Make a call and wait until it is over. -/
def perform (device : Device σ) (client : Client σ) :
    ClientCall → Except DaemonError (Option Response) × Client σ
  | .start =>
      let (result, client) := client.start device
      (result.map fun _ => none, client)
  | .query command =>
      let (result, client) := client.query device command
      (result.map some, client)
  | .close =>
      let (result, client) := client.close device
      (result.map fun _ => none, client)

/-- Make the calls, one after another. -/
def performAll (device : Device σ) (client : Client σ) (calls : List ClientCall) : Client σ :=
  calls.foldl (fun client call => (client.perform device call).2) client

/-- How often the client launched a worker. -/
def launches (client : Client σ) : Nat :=
  client.journal.countP (·.isLaunch)

/-- What the client did on connections to the daemon. -/
def talk (client : Client σ) : List ClientEvent :=
  client.journal.filter (·.isOnSocket)

/-- The last that the client did was to ask the worker to stop and to wait for it. -/
def Stopped (device : Device σ) (client : Client σ) (waited : Waited) : Prop :=
  (∃ asked, device.wait client.config.closeTimeout (device.requestStop asked) =
    (waited, client.outside)) ∧
  ∃ earlier, client.journal = earlier ++ [.stopRequested, .waited waited]

/-- What holds of a client between two calls. -/
inductive Settled (device : Device σ) (client : Client σ) : Prop where
  | notStarted (phase : client.phase = .notStarted) (worker : client.worker = none)
      (connection : client.connection = none) (launches : client.launches = 0)
  | ready (phase : client.phase = .ready) (worker : client.worker = some .spawned)
      (launches : client.launches = 1)
  | closed (phase : client.phase = .closed) (worker : client.worker = none)
      (connection : client.connection = none)
      (stopped : client.launches = 0 ∨
        client.launches = 1 ∧ ∃ waited, client.Stopped device waited)

/-- What the lifecycle depends on is the same before and after, and nothing was sent. -/
structure Keeps (before after : Client σ) : Prop where
  phase : after.phase = before.phase
  worker : after.worker = before.worker
  connection : after.connection = before.connection
  launches : after.launches = before.launches
  talk : after.talk = before.talk

namespace Keeps

theorem refl (client : Client σ) : client.Keeps client :=
  ⟨rfl, rfl, rfl, rfl, rfl⟩

theorem trans
    {first second third : Client σ} (former : first.Keeps second) (latter : second.Keeps third) :
    first.Keeps third :=
  ⟨latter.phase.trans former.phase, latter.worker.trans former.worker,
    latter.connection.trans former.connection, latter.launches.trans former.launches,
    latter.talk.trans former.talk⟩

end Keeps

@[simp] theorem launches_note (client : Client σ) (event : ClientEvent) :
    (client.note event).launches = client.launches + if event.isLaunch then 1 else 0 := by
  simp [launches, note, List.countP_append, List.countP_singleton]

@[simp] theorem talk_note (client : Client σ) (event : ClientEvent) :
    (client.note event).talk = client.talk ++ if event.isOnSocket then [event] else [] := by
  simp [talk, note, List.filter_append, List.filter_cons]

theorem keeps_note
    (client : Client σ) {event : ClientEvent} (other : event.isLaunch = false)
    (silent : event.isOnSocket = false) (outside : σ) :
    client.Keeps ((client.note event).outsideTo outside) := by
  refine ⟨rfl, rfl, rfl, ?_, ?_⟩
  · change (client.note event).launches = client.launches
    simp [other]
  · change (client.note event).talk = client.talk
    simp [silent]

theorem forwardPort_keeps (device : Device σ) (client : Client σ) :
    client.Keeps (client.forwardPort device).2 :=
  client.keeps_note rfl rfl _

theorem clearLog_keeps (device : Device σ) (client : Client σ) :
    client.Keeps (client.clearLog device).2 :=
  client.keeps_note rfl rfl _

theorem awaitMessages_keeps (device : Device σ) (client : Client σ) (wait : Startup.Wait) :
    client.Keeps (client.awaitMessages device wait).2 :=
  Startup.await_preserves wait
    (fun world kept => kept.trans (world.keeps_note rfl rfl _)) _ (.refl client)

/-- A launch fails before the worker is started, or has started it once. -/
theorem launch_cases (device : Device σ) (client : Client σ) :
    (∃ error, (client.launch device).1 = .error error) ∧ client.Keeps (client.launch device).2 ∨
    ∃ prepared, client.Keeps prepared ∧
      (prepared.spawn device).Keeps (client.launch device).2 := by
  have forwards := client.forwardPort_keeps device
  unfold launch
  generalize client.forwardPort device = forwarded at forwards
  obtain ⟨_ | _, forwarding⟩ := forwarded
  case error error => exact .inl ⟨⟨error, rfl⟩, forwards⟩
  case ok =>
    have clears := forwards.trans (forwarding.clearLog_keeps device)
    dsimp only
    generalize forwarding.clearLog device = cleared at clears
    obtain ⟨_ | _, clearing⟩ := cleared
    case error error => exact .inl ⟨⟨error, rfl⟩, clears⟩
    case ok =>
      have awaits := (clearing.spawn device).awaitMessages_keeps device
        ⟨serverStartTag, 1, clearing.config.startTimeout⟩
      refine .inr ⟨clearing, clears, ?_⟩
      dsimp only
      generalize (clearing.spawn device).awaitMessages device
        ⟨serverStartTag, 1, clearing.config.startTimeout⟩ = awaited at awaits
      obtain ⟨_ | messages, confirming⟩ := awaited
      case error => exact awaits
      case ok =>
        dsimp only
        split
        case h_1 => exact awaits
        case h_2 => split <;> exact awaits

/-- A worker that was launched once is stopped, and its handle tells what the wait for it came
to. -/
theorem stopWorker_closed
    (device : Device σ) (client : Client σ) (handle : WorkerHandle)
    (connection : client.connection = none) (launches : client.launches = 1) :
    ∃ waited after,
      client.stopWorker device handle =
        ((handle.requestStop.join waited).1, (handle.requestStop.join waited).2, after) ∧
      Settled device (after.enter .closed) ∧ (after.enter .closed).Stopped device waited := by
  have stopped : Stopped device (((client.stopWorker device handle).2.2).enter .closed)
      (device.wait client.config.closeTimeout (device.requestStop client.outside)).1 :=
    ⟨⟨_, rfl⟩, client.journal, by simp [stopWorker, note, outsideTo, enter]⟩
  refine ⟨_, _, rfl, .closed rfl rfl connection (.inr ⟨?_, _, stopped⟩), stopped⟩
  simpa [Client.launches, note, outsideTo, enter, List.countP_append, ClientEvent.isLaunch]
    using launches

/-- A worker that was asked to stop is joined successfully only when it has finished. -/
theorem join_spawned_eq_ok_iff (waited : Waited) :
    (WorkerHandle.spawned.requestStop.join waited).1 = .ok () ↔ waited = .ended .finished := by
  rcases waited with (_ | _ | _) | _ <;>
    simp [WorkerHandle.join, WorkerHandle.requestStop, WorkerHandle.spawned, WorkerEnd.result]

theorem join_spawned_ne_noTask (waited : Waited) :
    (WorkerHandle.spawned.requestStop.join waited).1 ≠ .error (.join .noTask) := by
  rcases waited with (_ | _ | _) | _ <;>
    simp [WorkerHandle.join, WorkerHandle.requestStop, WorkerHandle.spawned, WorkerEnd.result]

theorem perform_refused
    (device : Device σ) {client : Client σ} {call : ClientCall}
    (wrong : client.phase ≠ call.needs) :
    client.perform device call = (.error (.invalidState client.phase call.needs), client) := by
  have refused : client.expect call.needs = .error (.invalidState client.phase call.needs) :=
    if_neg wrong
  cases call
  all_goals
    simp only [ClientCall.needs] at refused ⊢
    simp only [perform, start, query, close, refused, Except.map]

/-- A start makes the client ready, or leaves it closed with no worker that was not asked to
stop. -/
theorem start_settles
    (device : Device σ) {client : Client σ} (phase : client.phase = .notStarted)
    (worker : client.worker = none) (connection : client.connection = none)
    (launches : client.launches = 0) :
    ∃ result after, client.start device = (result, after) ∧
      after.phase = ClientCall.start.next result.isOk .notStarted ∧ Settled device after := by
  have expected : client.expect .notStarted = .ok () := if_pos phase
  have launching := (client.enter .starting).launch_cases device
  simp only [start, expected]
  generalize (client.enter .starting).launch device = launched at launching
  obtain ⟨result, after⟩ := launched
  rcases launching with ⟨⟨error, failed⟩, kept⟩ | ⟨prepared, keptBefore, keptAfter⟩
  case inl =>
    -- There is no worker yet, so that none is stopped.
    obtain rfl := failed
    have workerAfter : after.worker = none := kept.worker.trans worker
    simp only [workerAfter]
    exact ⟨.error error, _, rfl, rfl, .closed rfl workerAfter (kept.connection.trans connection)
      (.inl (kept.launches.trans launches))⟩
  case inr =>
    have workerAfter : after.worker = some .spawned := keptAfter.worker
    have connectionAfter : after.connection = none :=
      keptAfter.connection.trans (keptBefore.connection.trans connection)
    have launchesAfter : after.launches = 1 := by
      have once : prepared.launches = 0 := keptBefore.launches.trans launches
      have spawned : (prepared.spawn device).launches = prepared.launches + 1 := by
        change (prepared.note (.launched _ _ _)).launches = _
        simp [ClientEvent.isLaunch]
      rw [keptAfter.launches, spawned, once]
    cases result with
    | ok => exact ⟨.ok (), _, rfl, rfl, .ready rfl workerAfter launchesAfter⟩
    | error error =>
        simp only [workerAfter]
        obtain ⟨waited, stopping, stops, settled, -⟩ :=
          stopWorker_closed device after .spawned connectionAfter launchesAfter
        simp only [stops]
        exact ⟨.error error, _, rfl, rfl, settled⟩

theorem Exchanged.launches_eq
    {before after : Client σ} {exchanges : List Exchange}
    (exchanged : Exchanged before after exchanges) :
    after.launches = before.launches := by
  have silent : ∀ exchange : Exchange, exchange.events.countP (·.isLaunch) = 0 := by
    rintro ⟨command, _ | _, _ | _⟩ <;> rfl
  have none : (exchanges.flatMap Exchange.events).countP (·.isLaunch) = 0 := by
    clear exchanged
    induction exchanges with
    | nil => rfl
    | cons exchange exchanges ih => rw [List.flatMap_cons, List.countP_append, silent, ih]
  rw [launches, exchanged.journal, List.countP_append, none]
  rfl

theorem exchange_keeps (device : Device σ) (client : Client σ) (command : Command) :
    (client.exchange device command).2.phase = client.phase ∧
      (client.exchange device command).2.worker = client.worker ∧
      (client.exchange device command).2.launches = client.launches := by
  obtain ⟨connects, exchanged⟩ := client.exchange_exchanged device command
  exact ⟨exchanged.phase, exchanged.worker, exchanged.launches_eq⟩

/-- Closing stops the worker, and its result is what the wait for the worker came to. -/
theorem close_waits
    (device : Device σ) {client : Client σ} (phase : client.phase = .ready)
    (worker : client.worker = some .spawned) (launches : client.launches = 1) :
    ∃ waited after,
      client.close device = ((WorkerHandle.spawned.requestStop.join waited).1, after) ∧
      after.phase = .closed ∧ Settled device after ∧ after.Stopped device waited := by
  have expected : client.expect .ready = .ok () := if_pos phase
  obtain ⟨-, workerAfter, launchesAfter⟩ :=
    (client.enter .closing).exchange_keeps device .stopDaemon
  simp only [close, expected]
  generalize ((client.enter .closing).exchange device .stopDaemon).2 = asked at *
  have held : asked.worker = some .spawned := workerAfter.trans worker
  have once : asked.launches = 1 := launchesAfter.trans launches
  simp only [held]
  obtain ⟨waited, after, stops, settled, stopped⟩ :=
    stopWorker_closed device { asked with connection := none } .spawned rfl once
  refine ⟨waited, after.enter .closed, ?_, rfl, settled, stopped⟩
  rw [held] at stops
  rw [stops]
  -- The handle of a worker that was waited for to its end tells that it is not alive.
  rcases waited with (_ | _ | _) | _ <;> rfl

theorem settled_ofConfig (device : Device σ) (config : DaemonConfig) (outside : σ) :
    Settled device (ofConfig config outside) :=
  .notStarted rfl rfl rfl rfl

/-- A call keeps a client settled and moves it to the next phase. -/
theorem settled_perform
    {device : Device σ} {client : Client σ} (settled : Settled device client)
    (call : ClientCall) :
    Settled device (client.perform device call).2 ∧
      (client.perform device call).2.phase =
        call.next (client.perform device call).1.isOk client.phase := by
  by_cases made : client.phase = call.needs
  case neg =>
    rw [perform_refused device made]
    refine ⟨settled, ?_⟩
    cases call <;> cases phase : client.phase <;> simp_all [ClientCall.next, ClientCall.needs]
  case pos =>
    -- In each phase the calls that need another one were refused above.
    cases settled with
    | notStarted phase worker connection launches =>
        cases call with
        | start =>
            obtain ⟨result, after, started, phaseAfter, settledAfter⟩ :=
              start_settles device phase worker connection launches
            rw [perform, started, phase]
            refine ⟨settledAfter, phaseAfter.trans ?_⟩
            cases result <;> rfl
        | query command => cases phase.symm.trans made
        | close => cases phase.symm.trans made
    | ready phase worker launches =>
        cases call with
        | start => cases phase.symm.trans made
        | query command =>
            obtain ⟨phaseAfter, workerAfter, launchesAfter⟩ :=
              client.exchange_keeps device command
            have passed : client.expect .ready = .ok () := if_pos phase
            simp only [perform, query, passed]
            exact ⟨.ready (phaseAfter.trans phase) (workerAfter.trans worker)
              (launchesAfter.trans launches), phaseAfter⟩
        | close =>
            obtain ⟨waited, after, closes, phaseAfter, settledAfter, -⟩ :=
              close_waits device phase worker launches
            rw [perform, closes, phase]
            exact ⟨settledAfter, phaseAfter⟩
    | closed phase worker connection stopped =>
        cases call <;> cases phase.symm.trans made

/-- However often and in whichever order a client is called, it is settled. -/
theorem settled_performAll
    {device : Device σ} {client : Client σ} (settled : Settled device client)
    (calls : List ClientCall) :
    Settled device (client.performAll device calls) := by
  induction calls generalizing client with
  | nil => exact settled
  | cons call calls ih => exact ih (settled_perform settled call).1

/-- A worker that is not held any more was stopped. -/
theorem Settled.stopped
    {device : Device σ} {client : Client σ} (settled : Settled device client)
    (other : client.phase ≠ .ready) :
    client.launches = 0 ∨ ∃ waited, client.Stopped device waited := by
  cases settled with
  | notStarted phase worker connection launches => exact .inl launches
  | ready phase worker launches => exact absurd phase other
  | closed phase worker connection stopped => exact stopped.imp_right And.right

theorem stopped_of_start
    {device : Device σ} {client after : Client σ} {error : DaemonError}
    (settled : Settled device client) (phase : client.phase = .notStarted)
    (failed : client.start device = (.error error, after)) :
    after.launches = 0 ∨ ∃ waited, after.Stopped device waited := by
  have performed : client.perform device .start = (.error error, after) := by
    rw [perform, failed]
    rfl
  obtain ⟨settledAfter, moved⟩ := settled_perform settled .start
  rw [performed] at settledAfter moved
  refine settledAfter.stopped ?_
  rw [moved, phase]
  change Phase.closed ≠ .ready
  decide

theorem close_result
    {device : Device σ} {client after : Client σ} {result : Except DaemonError Unit}
    (settled : Settled device client) (closed : client.close device = (result, after)) :
    (after.launches = 0 ∨ ∃ waited, after.Stopped device waited) ∧
      (result = .ok () → after.Stopped device (.ended .finished)) ∧
      result ≠ .error (.join .noTask) := by
  by_cases phase : client.phase = .ready
  case pos =>
    cases settled with
    | notStarted other => cases phase.symm.trans other
    | closed other => cases phase.symm.trans other
    | ready _ worker launches =>
        obtain ⟨waited, final, closes, -, -, stopped⟩ := close_waits device phase worker launches
        obtain ⟨rfl, rfl⟩ := Prod.mk.inj (closed.symm.trans closes)
        refine ⟨.inr ⟨waited, stopped⟩, ?_, join_spawned_ne_noTask waited⟩
        intro succeeded
        rwa [← (join_spawned_eq_ok_iff waited).mp succeeded]
  case neg =>
    have refused : client.close device = (.error (.invalidState client.phase .ready), client) := by
      simp only [close, expect, if_neg phase]
    obtain ⟨rfl, rfl⟩ := Prod.mk.inj (closed.symm.trans refused)
    exact ⟨settled.stopped phase, by simp, by simp⟩

/-- After any calls a client is settled, and only a start and a close move it on.  A call in
the wrong phase is refused and does nothing.  When a start has failed or a close is over, a
worker that was launched was asked to stop and was waited for; a close succeeds only if the
worker has finished then, and it never fails for want of a worker. -/
theorem performAll_lifecycle
    (device : Device σ) (config : DaemonConfig) (outside : σ) (calls : List ClientCall) :
    let client := (ofConfig config outside).performAll device calls
    Settled device client ∧
    (∀ call result after, client.perform device call = (result, after) →
      after.phase = call.next result.isOk client.phase ∧
      (client.phase ≠ call.needs →
        result = .error (.invalidState client.phase call.needs) ∧ after = client)) ∧
    (∀ error after, client.phase = .notStarted → client.start device = (.error error, after) →
      after.launches = 0 ∨ ∃ waited, after.Stopped device waited) ∧
    (∀ result after, client.close device = (result, after) →
      (after.launches = 0 ∨ ∃ waited, after.Stopped device waited) ∧
      (result = .ok () → after.Stopped device (.ended .finished)) ∧
      result ≠ .error (.join .noTask)) := by
  intro client
  have settled : Settled device client :=
    settled_performAll (settled_ofConfig device config outside) calls
  refine ⟨settled, ?_, fun error after => stopped_of_start settled,
    fun result after => close_result settled⟩
  intro call result after performed
  have moved := (settled_perform settled call).2
  rw [performed] at moved
  refine ⟨moved, ?_⟩
  intro wrong
  exact Prod.mk.inj (performed.symm.trans (perform_refused device wrong))

/-- A device on which the start of the daemon is confirmed, but nothing can be asked of it; its
state tells whether the worker was asked to stop. -/
def deafDevice (ending : Option WorkerEnd) : Device Bool where
  forward _ _ raised := (.ok (), raised)
  clearLog _ raised := (.ok (), raised)
  readLog _ _ raised := (.ok [serverStartMessage], raised)
  patience _ _ _ := 0
  launch _ _ _ raised := raised
  ending _ := ending
  requestStop _ := true
  awaitEnd raised := (if raised then .finished else .panicked, raised)
  awaitEndFor _ raised := (if raised then some .finished else none, raised)
  connect _ _ raised := (.error (.socket .connectionRefused), raised)
  send _ raised := (.error .stalled, raised)

theorem performAll_lifecycle_deaf :
    let closed := ((ofConfig {} false).performAll (deafDevice none)
      [.start, .query .pressBack]).close (deafDevice none)
    let ended := deafDevice (some .finished)
    let failed := (ofConfig {} false).start ended
    closed.1 = .ok () ∧ closed.2.outside = true ∧
      closed.2.Stopped (deafDevice none) (.ended .finished) ∧
      failed.1 = .error (.startup .notRunning) ∧
      (failed.2.launches = 0 ∨ ∃ waited, failed.2.Stopped ended waited) := by
  intro closed ended failed
  have closes : closed.1 = .ok () := rfl
  have raised : closed.2.outside = true := rfl
  have fails : failed.1 = .error (.startup .notRunning) := rfl
  refine ⟨closes, raised, ?_, fails, ?_⟩
  · obtain ⟨-, -, -, afterClose⟩ :=
      performAll_lifecycle (deafDevice none) {} false [.start, .query .pressBack]
    exact (afterClose closed.1 closed.2 (Prod.eta closed).symm).2.1 closes
  · obtain ⟨-, -, afterStart, -⟩ := performAll_lifecycle ended {} false []
    exact afterStart (.startup .notRunning) failed.2 rfl (Prod.ext fails rfl)

end Client

end GuiExplorer
