import GuiExplorer.Proofs.Device.Footprint
import Mathlib.Data.List.Forall2

/-!
# Calls on the connection

Exchanges are told by the journal of a client.  Here they are tied to what the client does to its
device: for an exchange it opens a connection if none is open, and hands over one frame, which
carries the command; what it is answered there is the outcome.  This is told of every device that
notes the calls on its connection, however it answers them.
-/

namespace GuiExplorer

/-- A call on the connection to the daemon, and its result. -/
inductive SocketCall where
  | connect (host : String) (port : UInt16) (result : Except Wire.FrameError Unit)
  | send (frame : ByteArray) (result : Except Wire.FrameError (List Wire.Chunk))

/-- The frame that a call hands over. -/
def SocketCall.frame? : SocketCall → Option ByteArray
  | .connect _ _ _ => none
  | .send frame _ => some frame

variable {σ : Type} {calls : σ → List SocketCall}

/-- A device notes each call on its connection with its result, and nothing else. -/
structure Device.Notes (device : Device σ) (calls : σ → List SocketCall) : Prop where
  connect : ∀ host port state, calls (device.connect host port state).2 =
    calls state ++ [.connect host port (device.connect host port state).1]
  send : ∀ frame state, calls (device.send frame state).2 =
    calls state ++ [.send frame (device.send frame state).1]
  forward : ∀ serial port state, calls (device.forward serial port state).2 = calls state
  clearLog : ∀ serial state, calls (device.clearLog serial state).2 = calls state
  readLog : ∀ serial tag state, calls (device.readLog serial tag state).2 = calls state
  launch : ∀ serial port runner state,
    calls (device.launch serial port runner state) = calls state
  requestStop : ∀ state, calls (device.requestStop state) = calls state
  awaitEnd : ∀ state, calls (device.awaitEnd state).2 = calls state
  awaitEndFor : ∀ limit state, calls (device.awaitEndFor limit state).2 = calls state

/-- A world notes each call on the connection with its result, and nothing else. -/
structure World.Notes (world : World σ) (calls : σ → List SocketCall) : Prop
    extends world.toDevice.Notes calls where
  executed : ∀ state, calls (world.executed state).2 = calls state
  makeFolder : ∀ folder state, calls (world.makeFolder folder state).2 = calls state
  write : ∀ folder name text state, calls (world.write folder name text state).2 = calls state

/-- The world that notes the calls on the connection of another one. -/
def World.noting (world : World σ) : World (σ × List SocketCall) where
  forward serial port state :=
    let (forwarded, after) := world.forward serial port state.1
    (forwarded, after, state.2)
  clearLog serial state :=
    let (cleared, after) := world.clearLog serial state.1
    (cleared, after, state.2)
  readLog serial tag state :=
    let (read, after) := world.readLog serial tag state.1
    (read, after, state.2)
  patience limit pause state := world.patience limit pause state.1
  launch serial port runner state := (world.launch serial port runner state.1, state.2)
  ending state := world.ending state.1
  requestStop state := (world.requestStop state.1, state.2)
  awaitEnd state :=
    let (ending, after) := world.awaitEnd state.1
    (ending, after, state.2)
  awaitEndFor limit state :=
    let (ending, after) := world.awaitEndFor limit state.1
    (ending, after, state.2)
  connect host port state :=
    let (connected, after) := world.connect host port state.1
    (connected, after, state.2 ++ [.connect host port connected])
  send frame state :=
    let (arrived, after) := world.send frame state.1
    (arrived, after, state.2 ++ [.send frame arrived])
  elapsed state := world.elapsed state.1
  timestamp state := world.timestamp state.1
  decode := world.decode
  executed state :=
    let (records, after) := world.executed state.1
    (records, after, state.2)
  makeFolder folder state :=
    let (made, after) := world.makeFolder folder state.1
    (made, after, state.2)
  write folder name text state :=
    let (written, after) := world.write folder name text state.1
    (written, after, state.2)

theorem World.noting_notes (world : World σ) : world.noting.Notes Prod.snd where
  connect _ _ _ := rfl
  send _ _ := rfl
  forward _ _ _ := rfl
  clearLog _ _ := rfl
  readLog _ _ _ := rfl
  launch _ _ _ _ := rfl
  requestStop _ := rfl
  awaitEnd _ := rfl
  awaitEndFor _ _ := rfl
  executed _ := rfl
  makeFolder _ _ := rfl
  write _ _ _ _ := rfl

/-- Off the connection nothing is noted. -/
theorem Device.Notes.offSocket {device : Device σ} (notes : device.Notes calls) (serial : String) :
    device.RespectsOffSocket serial fun before after => calls after = calls before where
  refl _ := rfl
  trans former latter := latter.trans former
  forward := notes.forward serial
  clearLog := notes.clearLog serial
  readLog := notes.readLog serial
  launch := notes.launch serial
  requestStop := notes.requestStop
  awaitEnd := notes.awaitEnd
  awaitEndFor := notes.awaitEndFor

namespace Exchange

/-- The call that opens a connection for an exchange, if there is one. -/
def opening (config : DaemonConfig) (exchange : Exchange) : List SocketCall :=
  if exchange.connects then [.connect config.host config.port (.ok ())] else []

/-- The calls by which a client with the setup makes an exchange, and what its outcome comes from:
no connection could be opened, or the command does not fit into a frame, or its frame was sent. -/
inductive MadeBy (config : DaemonConfig) (exchange : Exchange) : List SocketCall → Prop where
  | unconnected {error : Wire.FrameError} (connects : exchange.connects = true)
      (outcome : exchange.outcome = .error (.ofFrame config.socketTimeout error)) :
      MadeBy config exchange [.connect config.host config.port (.error error)]
  | unframed {error : Wire.FrameError}
      (framed : Wire.writeFrame (Wire.command.toBytes exchange.command) = .error error)
      (outcome : exchange.outcome = .error (.ofFrame config.socketTimeout error)) :
      MadeBy config exchange (exchange.opening config)
  | sent {frame : ByteArray} {connection : Connection}
      {result : Except Wire.FrameError (List Wire.Chunk)}
      (framed : Wire.writeFrame (Wire.command.toBytes exchange.command) = .ok frame)
      (fresh : exchange.connects = true → connection = .fresh)
      (outcome : exchange.outcome =
        Client.interpret config (result.bind fun arrived => (connection.receive arrived).1)) :
      MadeBy config exchange (exchange.opening config ++ [.send frame result])

/-- For an exchange that was answered, one frame was handed over. -/
theorem MadeBy.frame_of_answered
    {config : DaemonConfig} {exchange : Exchange} {calls : List SocketCall} {response : Response}
    (made : exchange.MadeBy config calls) (answered : exchange.outcome = .ok response) :
    ∃ frame, Wire.writeFrame (Wire.command.toBytes exchange.command) = .ok frame ∧
      calls.filterMap SocketCall.frame? = [frame] := by
  cases made with
  | unconnected connects outcome => cases answered.symm.trans outcome
  | unframed framed outcome => cases answered.symm.trans outcome
  | @sent frame connection result framed fresh outcome =>
      have unframed : (exchange.opening config).filterMap SocketCall.frame? = [] := by
        unfold opening
        split <;> rfl
      refine ⟨frame, framed, ?_⟩
      rw [List.filterMap_append, unframed]
      rfl

/-- The calls by which exchanges are made, those of each after those of the one before. -/
def AllMadeBy (config : DaemonConfig) (exchanges : List Exchange) (calls : List SocketCall) :
    Prop :=
  ∃ parts, List.Forall₂ (MadeBy config) exchanges parts ∧ calls = parts.flatten

namespace AllMadeBy

variable {config : DaemonConfig} {earlier later : List Exchange} {former latter : List SocketCall}

theorem nil (config : DaemonConfig) : AllMadeBy config [] [] :=
  ⟨[], .nil, rfl⟩

theorem singleton {exchange : Exchange} (made : exchange.MadeBy config former) :
    AllMadeBy config [exchange] former :=
  ⟨[former], .cons made .nil, by simp⟩

theorem append (first : AllMadeBy config earlier former) (second : AllMadeBy config later latter) :
    AllMadeBy config (earlier ++ later) (former ++ latter) := by
  obtain ⟨firstParts, firstMade, rfl⟩ := first
  obtain ⟨secondParts, secondMade, rfl⟩ := second
  exact ⟨firstParts ++ secondParts, List.rel_append firstMade secondMade, by simp⟩

/-- Where all commands were answered, the frames handed over are those of the commands. -/
theorem frames_of_answered
    {exchanges : List Exchange} {calls : List SocketCall}
    (made : AllMadeBy config exchanges calls)
    (answered : ∀ exchange ∈ exchanges, ∃ response, exchange.outcome = .ok response) :
    (exchanges.map fun exchange => Wire.writeFrame (Wire.command.toBytes exchange.command)) =
      (calls.filterMap SocketCall.frame?).map .ok := by
  obtain ⟨parts, made, rfl⟩ := made
  induction made with
  | nil => rfl
  | @cons exchange part exchanges parts first rest ih =>
      obtain ⟨response, outcome⟩ := answered exchange List.mem_cons_self
      obtain ⟨frame, framed, handed⟩ := first.frame_of_answered outcome
      rw [List.map_cons, List.flatten_cons, List.filterMap_append, handed, framed,
        ih fun other member => answered other (List.mem_cons_of_mem _ member)]
      rfl

end AllMadeBy

end Exchange

namespace Client

variable {device : Device σ}

/-- Between two points a client only exchanged commands, by the calls noted in between. -/
structure Sends (calls : σ → List SocketCall) (before after : Client σ)
    (exchanges : List Exchange) : Prop where
  exchanged : before.Exchanged after exchanges
  made : ∃ made, calls after.outside = calls before.outside ++ made ∧
    Exchange.AllMadeBy before.config exchanges made

namespace Sends

theorem refl (calls : σ → List SocketCall) (client : Client σ) : client.Sends calls client [] :=
  ⟨.refl client, [], by simp, .nil _⟩

theorem trans {first second third : Client σ} {earlier later : List Exchange}
    (former : first.Sends calls second earlier) (latter : second.Sends calls third later) :
    first.Sends calls third (earlier ++ later) := by
  obtain ⟨firstMade, firstNoted, firstAll⟩ := former.made
  obtain ⟨secondMade, secondNoted, secondAll⟩ := latter.made
  refine ⟨former.exchanged.trans latter.exchanged, firstMade ++ secondMade, ?_, ?_⟩
  · rw [secondNoted, firstNoted, List.append_assoc]
  · exact firstAll.append (former.exchanged.config ▸ secondAll)

theorem outsideTo {before after : Client σ} {exchanges : List Exchange}
    (sends : before.Sends calls after exchanges) {outside : σ}
    (same : calls outside = calls after.outside) :
    before.Sends calls (after.outsideTo outside) exchanges := by
  obtain ⟨made, noted, all⟩ := sends.made
  exact ⟨sends.exchanged.outsideTo outside, made, same.trans noted, all⟩

end Sends

section

variable (notes : device.Notes calls)

include notes

private theorem connection?_calls (client : Client σ) :
    (∃ error, client.connection.isNone = true ∧ (client.connection? device).1 = .error error ∧
      calls (client.connection? device).2.outside =
        calls client.outside ++ [.connect client.config.host client.config.port (.error error)]) ∨
    ∃ connection, (client.connection? device).1 = .ok connection ∧
      (client.connection.isNone = true → connection = .fresh) ∧
      calls (client.connection? device).2.outside = calls client.outside ++
        if client.connection.isNone then
          [.connect client.config.host client.config.port (.ok ())] else [] := by
  unfold connection?
  cases client.connection with
  | some connection => exact .inr ⟨connection, rfl, by simp, by simp⟩
  | none =>
      have noted := notes.connect client.config.host client.config.port client.outside
      generalize device.connect client.config.host client.config.port client.outside = connected
        at noted
      obtain ⟨error | _, after⟩ := connected
      case error => exact .inl ⟨error, rfl, rfl, noted⟩
      case ok => exact .inr ⟨.fresh, rfl, fun _ => rfl, noted⟩

private theorem transfer_calls (client : Client σ) (connection : Connection) (frame : ByteArray) :
    ∃ result, calls (client.transfer device connection frame).2.outside =
        calls client.outside ++ [.send frame result] ∧
      (client.transfer device connection frame).1 =
        result.bind fun arrived => (connection.receive arrived).1 := by
  have noted := notes.send frame client.outside
  unfold transfer
  generalize device.send frame client.outside = sent at noted
  obtain ⟨error | arrived, after⟩ := sent <;> exact ⟨_, noted, rfl⟩

private theorem roundTrip_calls (client : Client σ) (command : Command) :
    ∃ made, calls (client.roundTrip device command).2.outside = calls client.outside ++ made ∧
      Exchange.MadeBy client.config
        ⟨command, client.connection.isNone,
          interpret client.config (client.roundTrip device command).1⟩ made := by
  unfold roundTrip
  rcases connection?_calls notes client with
    ⟨error, connects, failed, noted⟩ | ⟨connection, opened, fresh, noted⟩
  · generalize client.connection? device = attempt at failed noted
    obtain ⟨_, after⟩ := attempt
    cases failed
    exact ⟨_, noted, .unconnected connects rfl⟩
  · generalize client.connection? device = attempt at opened noted
    obtain ⟨_, linked⟩ := attempt
    cases opened
    cases framed : Wire.writeFrame (Wire.command.toBytes command) with
    | error error => exact ⟨_, noted, .unframed framed rfl⟩
    | ok frame =>
        obtain ⟨result, sent, received⟩ := transfer_calls notes linked connection frame
        refine ⟨_, ?_, .sent framed fresh (congrArg (interpret client.config) received)⟩
        rw [← List.append_assoc]
        exact sent.trans (congrArg (· ++ _) noted)

/-- In any phase, the calls of an exchange make it. -/
theorem exchange_sends (client : Client σ) (command : Command) :
    client.Sends calls (client.exchange device command).2
      [⟨command, client.connection.isNone, (client.exchange device command).1⟩] := by
  have exchanged := exchange_exchanges device client command
  refine ⟨exchanged, ?_⟩
  have config := exchanged.config
  obtain ⟨made, noted, makes⟩ := roundTrip_calls notes (client.note (.asked command)) command
  unfold exchange at config ⊢
  generalize (client.note (.asked command)).roundTrip device command = trip at config noted makes ⊢
  obtain ⟨received, after⟩ := trip
  have same : after.config = client.config := by
    dsimp only at config
    split at config <;> exact config
  simp only [same]
  dsimp only [note] at noted makes
  generalize interpret client.config received = outcome at makes ⊢
  cases outcome <;> exact ⟨made, noted, .singleton makes⟩

theorem query_sends (client : Client σ) (command : Command) :
    ∃ exchanges, client.Sends calls (client.query device command).2 exchanges := by
  unfold query
  split
  · exact ⟨[], .refl calls client⟩
  · exact ⟨_, exchange_sends notes client command⟩

end

end Client

end GuiExplorer
