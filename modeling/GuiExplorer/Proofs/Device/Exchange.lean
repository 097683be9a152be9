import GuiExplorer.Device.Client

/-!
# Exchanges of a client

While a client is ready, each query is one exchange: the command is asked, a
connection may be opened for it, and then it is answered or has failed.  The
journal tells these exchanges one after another, so that it determines them.
-/

namespace GuiExplorer

/-- A command and what became of it. -/
structure Exchange where
  command : Command
  /-- Whether a connection was opened for the command. -/
  connects : Bool
  outcome : Except DaemonError Response

namespace Exchange

/-- How an exchange is over. -/
def closing : Except DaemonError Response → ClientEvent
  | .ok response => .answered response
  | .error error => .failed error

/-- What the journal tells of an exchange. -/
def events (exchange : Exchange) : List ClientEvent :=
  .asked exchange.command ::
    ((if exchange.connects then [.connected] else []) ++ [closing exchange.outcome])

/-- The answer to a request for a snapshot. -/
def fetched? (exchange : Exchange) : Option Response :=
  match exchange.command, exchange.outcome with
  | .fetchGuiState, .ok response => some response
  | _, _ => none

/-- Whether the daemon answered with anything but a failure. -/
def isAccepted (exchange : Exchange) : Bool :=
  match exchange.outcome with
  | .ok .ack => true
  | .ok (.guiState _) => true
  | _ => false

/-- Only a command that fits into a frame can be answered. -/
def IsSent (exchange : Exchange) : Prop :=
  ∀ response, exchange.outcome = .ok response →
    ∃ frame, Wire.writeFrame (Wire.command.toBytes exchange.command) = .ok frame

private theorem closing_injective
    {left right : Except DaemonError Response}
    (same : closing left = closing right) :
    left = right := by
  cases left <;> cases right <;> simp_all [closing]

private theorem closing_ne_connected (outcome : Except DaemonError Response) :
    closing outcome ≠ .connected := by
  cases outcome <;> simp [closing]

theorem eq_of_events_append
    {left right : Exchange} {leftRest rightRest : List ClientEvent}
    (same : left.events ++ leftRest = right.events ++ rightRest) :
    left = right ∧ leftRest = rightRest := by
  obtain ⟨leftCommand, leftConnects, leftOutcome⟩ := left
  obtain ⟨rightCommand, rightConnects, rightOutcome⟩ := right
  simp only [events, List.cons_append, List.cons.injEq, ClientEvent.asked.injEq] at same
  obtain ⟨sameCommand, sameRest⟩ := same
  subst sameCommand
  cases leftConnects <;> cases rightConnects <;>
    simp only [Bool.false_eq_true, if_true, if_false, List.nil_append, List.cons_append,
      List.cons.injEq] at sameRest
  · exact ⟨by rw [closing_injective sameRest.1], sameRest.2⟩
  · exact (closing_ne_connected _ sameRest.1).elim
  · exact (closing_ne_connected _ sameRest.1.symm).elim
  · exact ⟨by rw [closing_injective sameRest.2.1], sameRest.2.2⟩

/-- A journal tells only one sequence of exchanges. -/
theorem eq_of_flatMap_events
    {left right : List Exchange}
    (same : left.flatMap events = right.flatMap events) :
    left = right := by
  induction left generalizing right with
  | nil =>
      cases right with
      | nil => rfl
      | cons exchange rest => simp [events] at same
  | cons exchange rest ih =>
      cases right with
      | nil => simp [events] at same
      | cons other others =>
          simp only [List.flatMap_cons] at same
          obtain ⟨sameHead, sameTail⟩ := eq_of_events_append same
          rw [sameHead, ih sameTail]

end Exchange

namespace Client

variable {σ : Type}

/-- All that a client did between two points was to exchange commands, one after
another. -/
structure Exchanged (before after : Client σ) (exchanges : List Exchange) : Prop where
  journal : after.journal = before.journal ++ exchanges.flatMap Exchange.events
  sent : ∀ exchange ∈ exchanges, exchange.IsSent
  phase : after.phase = before.phase
  config : after.config = before.config
  worker : after.worker = before.worker

namespace Exchanged

theorem refl (client : Client σ) : Exchanged client client [] :=
  ⟨by simp, by simp, rfl, rfl, rfl⟩

theorem trans
    {first second third : Client σ} {earlier later : List Exchange}
    (former : Exchanged first second earlier) (latter : Exchanged second third later) :
    Exchanged first third (earlier ++ later) where
  journal := by
    rw [latter.journal, former.journal, List.flatMap_append, List.append_assoc]
  sent := by
    intro exchange member
    rcases List.mem_append.mp member with earlier | later
    · exact former.sent exchange earlier
    · exact latter.sent exchange later
  phase := latter.phase.trans former.phase
  config := latter.config.trans former.config
  worker := latter.worker.trans former.worker

/-- What was exchanged can be read off the journals. -/
theorem unique
    {before after : Client σ} {left right : List Exchange}
    (former : Exchanged before after left) (latter : Exchanged before after right) :
    left = right := by
  have same := former.journal.symm.trans latter.journal
  exact Exchange.eq_of_flatMap_events (List.append_cancel_left same)

theorem outsideTo
    {before after : Client σ} {exchanges : List Exchange}
    (exchanged : Exchanged before after exchanges) (outside : σ) :
    Exchanged before (after.outsideTo outside) exchanges :=
  ⟨exchanged.journal, exchanged.sent, exchanged.phase, exchanged.config, exchanged.worker⟩

end Exchanged

private theorem connection?_journal (device : Device σ) (client : Client σ) :
    (client.connection? device).2.journal =
        client.journal ++ (if client.connection.isNone then [.connected] else []) ∧
      (client.connection? device).2.phase = client.phase ∧
      (client.connection? device).2.config = client.config ∧
      (client.connection? device).2.worker = client.worker := by
  cases opened : client.connection with
  | some connection => simp [connection?, opened]
  | none => simp [connection?, opened, note, outsideTo]

private theorem transfer_frame
    (device : Device σ) (client : Client σ) (connection : Connection) (frame : ByteArray) :
    (client.transfer device connection frame).2.journal = client.journal ∧
      (client.transfer device connection frame).2.phase = client.phase ∧
      (client.transfer device connection frame).2.config = client.config ∧
      (client.transfer device connection frame).2.worker = client.worker := by
  unfold transfer
  split <;> simp [outsideTo]

private theorem roundTrip_journal (device : Device σ) (client : Client σ) (command : Command) :
    (client.roundTrip device command).2.journal =
        client.journal ++ (if client.connection.isNone then [.connected] else []) ∧
      (client.roundTrip device command).2.phase = client.phase ∧
      (client.roundTrip device command).2.config = client.config ∧
      (client.roundTrip device command).2.worker = client.worker := by
  have opened := connection?_journal device client
  unfold roundTrip
  rcases result : client.connection? device with ⟨outcome, next⟩
  rw [result] at opened
  cases outcome with
  | error error => exact opened
  | ok connection =>
      cases written : Wire.writeFrame (Wire.command.toBytes command) with
      | error error => simpa [written] using opened
      | ok frame =>
          obtain ⟨journal, phase, config, worker⟩ := transfer_frame device next connection frame
          simpa [written, journal, phase, config, worker] using opened

private theorem sent_of_roundTrip
    {device : Device σ} {client : Client σ} {command : Command} {payload : ByteArray}
    (received : (client.roundTrip device command).1 = .ok payload) :
    ∃ frame, Wire.writeFrame (Wire.command.toBytes command) = .ok frame := by
  unfold roundTrip at received
  rcases opened : client.connection? device with ⟨outcome, next⟩
  rw [opened] at received
  cases outcome with
  | error error => cases received
  | ok connection =>
      cases written : Wire.writeFrame (Wire.command.toBytes command) with
      | error error => simp [written] at received
      | ok frame => exact ⟨frame, rfl⟩

/-- In any phase, an exchange is all that is done, and it tells its result.  A connection
is opened if and only if none is open. -/
theorem exchange_exchanges (device : Device σ) (client : Client σ) (command : Command) :
    Exchanged client (client.exchange device command).2
      [⟨command, client.connection.isNone, (client.exchange device command).1⟩] := by
  have opened : (client.note (.asked command)).connection = client.connection := rfl
  obtain ⟨journal, phase, config, worker⟩ :=
    roundTrip_journal device (client.note (.asked command)) command
  unfold exchange
  rcases trip : (client.note (.asked command)).roundTrip device command with ⟨received, next⟩
  rw [trip, opened] at journal
  rw [trip] at phase config worker
  cases said : interpret next.config received with
  | ok response =>
      have sent : ∃ frame, Wire.writeFrame (Wire.command.toBytes command) = .ok frame := by
        cases received with
        | error error => simp [interpret] at said
        | ok payload => exact sent_of_roundTrip (congrArg Prod.fst trip)
      constructor
      case sent => simpa [Exchange.IsSent, said] using sent
      all_goals simp_all [note, Exchange.events, Exchange.closing]
  | error error =>
      constructor
      case sent => simp [Exchange.IsSent, said]
      all_goals simp_all [note, Exchange.events, Exchange.closing]

theorem exchange_exchanged (device : Device σ) (client : Client σ) (command : Command) :
    ∃ connects, Exchanged client (client.exchange device command).2
      [⟨command, connects, (client.exchange device command).1⟩] :=
  ⟨_, exchange_exchanges device client command⟩

/-- A query of a ready client is one exchange, which tells its result. -/
theorem query_exchanged
    (device : Device σ) {client : Client σ} (command : Command)
    (ready : client.phase = .ready) :
    ∃ connects, Exchanged client (client.query device command).2
      [⟨command, connects, (client.query device command).1⟩] := by
  have passed : client.query device command = client.exchange device command := by
    simp only [query, expect, ready, if_true]
  rw [passed]
  exact exchange_exchanged device client command

end Client

end GuiExplorer
