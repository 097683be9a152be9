import GuiExplorer.Proofs.Device.Lifecycle

/-!
# The footprint of a client

A client changes the world by the operations of its device alone, and those that go to a device go
to the one whose serial it was set up with.  So what each of these operations respects is respected
by all that a client does.
-/

namespace GuiExplorer

variable {σ : Type} {R : σ → σ → Prop} {serial : String}

/-- Each operation aside from the connection, if it goes to a device to the one with the serial,
leads to a related state; the relation is reflexive and transitive. -/
structure Device.RespectsOffSocket (device : Device σ) (serial : String) (R : σ → σ → Prop) :
    Prop where
  refl : ∀ state, R state state
  trans : ∀ {first second third}, R first second → R second third → R first third
  forward : ∀ port state, R state (device.forward serial port state).2
  clearLog : ∀ state, R state (device.clearLog serial state).2
  readLog : ∀ tag state, R state (device.readLog serial tag state).2
  launch : ∀ port runner state, R state (device.launch serial port runner state)
  requestStop : ∀ state, R state (device.requestStop state)
  awaitEnd : ∀ state, R state (device.awaitEnd state).2
  awaitEndFor : ∀ limit state, R state (device.awaitEndFor limit state).2

/-- Each operation, those on the connection included, leads to a related state. -/
structure Device.Respects (device : Device σ) (serial : String) (R : σ → σ → Prop) : Prop
    extends device.RespectsOffSocket serial R where
  connect : ∀ host port state, R state (device.connect host port state).2
  send : ∀ bytes state, R state (device.send bytes state).2

theorem Device.RespectsOffSocket.wait
    {device : Device σ} (respects : device.RespectsOffSocket serial R)
    (limit : Option Duration) (state : σ) : R state (device.wait limit state).2 := by
  cases limit with
  | none => exact respects.awaitEnd state
  | some limit =>
      have waited := respects.awaitEndFor limit state
      simp only [Device.wait]
      generalize device.awaitEndFor limit state = answer at waited
      obtain ⟨_ | ending, after⟩ := answer <;> exact waited

namespace Client

/-- A client has led to a related state of the world, and is set up as before. -/
structure Reaches (R : σ → σ → Prop) (before after : Client σ) : Prop where
  config : after.config = before.config
  outside : R before.outside after.outside

variable {device : Device σ} {client : Client σ}

theorem Reaches.refl (respects : device.RespectsOffSocket serial R) (client : Client σ) :
    client.Reaches R client :=
  ⟨rfl, respects.refl _⟩

theorem Reaches.trans (respects : device.RespectsOffSocket serial R) {first second third : Client σ}
    (former : first.Reaches R second) (latter : second.Reaches R third) : first.Reaches R third :=
  ⟨latter.config.trans former.config, respects.trans former.outside latter.outside⟩

theorem Reaches.own {before after : Client σ} (reaches : before.Reaches R after)
    (own : before.config.serial = serial) : after.config.serial = serial := by
  rw [reaches.config, own]

section

variable (respects : device.RespectsOffSocket serial R) (own : client.config.serial = serial)

include respects own

theorem forwardPort_reaches : client.Reaches R (client.forwardPort device).2 :=
  ⟨rfl, by subst own; exact respects.forward _ _⟩

theorem clearLog_reaches : client.Reaches R (client.clearLog device).2 :=
  ⟨rfl, by subst own; exact respects.clearLog _⟩

theorem readLog_reaches (tag : String) : client.Reaches R (client.readLog device tag).2 :=
  ⟨rfl, by subst own; exact respects.readLog tag _⟩

theorem spawn_reaches : client.Reaches R (client.spawn device) :=
  ⟨rfl, by subst own; exact respects.launch _ _ _⟩

theorem awaitMessages_reaches (wait : Startup.Wait) :
    client.Reaches R (client.awaitMessages device wait).2 :=
  Startup.await_preserves wait
    (fun _ reached => reached.trans respects (readLog_reaches respects (reached.own own) wait.tag))
    _ (.refl respects client)

/-- A launch forwards the port first. -/
theorem launch_reaches : (client.forwardPort device).2.Reaches R (client.launch device).2 := by
  have ownForwarded : (client.forwardPort device).2.config.serial = serial := own
  unfold launch
  generalize client.forwardPort device = forwarded at ownForwarded ⊢
  obtain ⟨_ | _, forwarding⟩ := forwarded
  case error => exact .refl respects forwarding
  case ok =>
    have clears := clearLog_reaches respects ownForwarded
    dsimp only at ownForwarded clears ⊢
    generalize forwarding.clearLog device = cleared at clears
    obtain ⟨_ | _, clearing⟩ := cleared
    case error => exact clears
    case ok =>
      have spawns := clears.trans respects (spawn_reaches respects (clears.own ownForwarded))
      have awaits := spawns.trans respects (awaitMessages_reaches respects
        (spawns.own ownForwarded) ⟨serverStartTag, 1, clearing.config.startTimeout⟩)
      dsimp only at awaits ⊢
      generalize (clearing.spawn device).awaitMessages device
        ⟨serverStartTag, 1, clearing.config.startTimeout⟩ = awaited at awaits
      obtain ⟨_ | messages, confirming⟩ := awaited
      case error => exact awaits
      case ok =>
        dsimp only
        split
        case h_1 => exact awaits
        case h_2 => split <;> exact awaits

end

section

variable (respects : device.RespectsOffSocket serial R)

include respects

theorem stopWorker_reaches (client : Client σ) (handle : WorkerHandle) :
    client.Reaches R (client.stopWorker device handle).2.2 :=
  ⟨rfl, respects.trans (respects.requestStop _) (respects.wait _ _)⟩

/-- A client that has not done anything yet starts by forwarding the port. -/
theorem start_reaches (fresh : client.phase = .notStarted) (own : client.config.serial = serial) :
    (client.forwardPort device).2.Reaches R (client.start device).2 := by
  have expected : client.expect .notStarted = .ok () := if_pos fresh
  have launches : ((client.enter .starting).forwardPort device).2.Reaches R
      ((client.enter .starting).launch device).2 := launch_reaches respects own
  have reaches : (client.forwardPort device).2.Reaches R
      ((client.enter .starting).launch device).2 := ⟨launches.config, launches.outside⟩
  unfold start
  simp only [expected]
  generalize (client.enter .starting).launch device = launched at reaches
  obtain ⟨_ | _, after⟩ := launched
  case ok => exact ⟨reaches.config, reaches.outside⟩
  case error =>
    dsimp only at reaches ⊢
    split
    case h_1 => exact ⟨reaches.config, reaches.outside⟩
    case h_2 worker handle held =>
      have stops := reaches.trans respects (stopWorker_reaches respects after handle)
      exact ⟨stops.config, stops.outside⟩

/-- A client closes by asking the daemon to stop first. -/
theorem exchange_reaches_close (ready : client.phase = .ready) :
    ((client.enter .closing).exchange device .stopDaemon).2.Reaches R (client.close device).2 := by
  have expected : client.expect .ready = .ok () := if_pos ready
  simp only [close, expected]
  generalize ((client.enter .closing).exchange device .stopDaemon).2 = asked
  have unlinked : asked.Reaches R { asked with connection := none } := ⟨rfl, respects.refl _⟩
  split
  case h_1 => exact unlinked
  case h_2 handle held =>
    have stops := unlinked.trans respects (stopWorker_reaches respects _ handle)
    generalize stopWorker device _ handle = stopping at stops ⊢
    obtain ⟨_ | _, joined, after⟩ := stopping
    case error => exact ⟨stops.config, stops.outside⟩
    case ok =>
      dsimp only
      split <;> exact ⟨stops.config, stops.outside⟩

end

section

variable (respects : device.Respects serial R)

include respects

theorem connection?_reaches (client : Client σ) :
    client.Reaches R (client.connection? device).2 := by
  unfold connection?
  cases client.connection with
  | some connection => exact .refl respects.toRespectsOffSocket client
  | none => exact ⟨rfl, respects.connect _ _ _⟩

theorem transfer_reaches (client : Client σ) (connection : Connection) (frame : ByteArray) :
    client.Reaches R (client.transfer device connection frame).2 := by
  have sends := respects.send frame client.outside
  unfold transfer
  generalize device.send frame client.outside = sent at sends
  obtain ⟨_ | arrived, outside⟩ := sent <;> exact ⟨rfl, sends⟩

theorem roundTrip_reaches (client : Client σ) (command : Command) :
    client.Reaches R (client.roundTrip device command).2 := by
  have connects := connection?_reaches respects client
  unfold roundTrip
  generalize client.connection? device = opened at connects
  obtain ⟨_ | connection, connected⟩ := opened
  case error => exact connects
  case ok =>
    dsimp only at connects ⊢
    split
    case h_1 => exact connects
    case h_2 frame _ =>
      exact connects.trans respects.toRespectsOffSocket
        (transfer_reaches respects connected connection frame)

theorem exchange_reaches (client : Client σ) (command : Command) :
    client.Reaches R (client.exchange device command).2 := by
  have trips := roundTrip_reaches respects (client.note (.asked command)) command
  unfold exchange
  generalize (client.note (.asked command)).roundTrip device command = trip at trips
  obtain ⟨received, after⟩ := trip
  dsimp only at trips ⊢
  split <;> exact ⟨trips.config, trips.outside⟩

theorem query_reaches (client : Client σ) (command : Command) :
    client.Reaches R (client.query device command).2 := by
  unfold query
  split
  · exact .refl respects.toRespectsOffSocket client
  · exact exchange_reaches respects client command

theorem close_reaches (client : Client σ) : client.Reaches R (client.close device).2 := by
  by_cases ready : client.phase = .ready
  case pos =>
    have asks := exchange_reaches respects (client.enter .closing) .stopDaemon
    have closes := exchange_reaches_close respects.toRespectsOffSocket ready
    exact ⟨closes.config.trans asks.config, respects.trans asks.outside closes.outside⟩
  case neg =>
    have refused : client.expect .ready = .error (.invalidState client.phase .ready) :=
      if_neg ready
    rw [close, refused]
    exact .refl respects.toRespectsOffSocket client

end

end Client

end GuiExplorer
