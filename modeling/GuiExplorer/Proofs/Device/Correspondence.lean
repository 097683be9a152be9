import GuiExplorer.Proofs.Device.Answering
import GuiExplorer.Proofs.Device.Exchange
import GuiExplorer.Proofs.Device.Line

/-!
# Answers and their commands

A response that a query returns is the daemon's answer to the very command that was
asked.  For a client gives up its connection whenever an answer may still be under
way on it, so that a connection it holds is idle between two queries.
-/

namespace GuiExplorer

namespace Line

/-- Nothing happens on any of the lines but what the daemon does. -/
def AllContinue (before after : List Line) : Prop :=
  List.Forall₂ Continues before after

namespace AllContinue

variable {before middle after : List Line}

theorem refl (lines : List Line) : AllContinue lines lines :=
  List.forall₂_same.mpr fun line _ => .refl line

theorem trans (former : AllContinue before middle) (latter : AllContinue middle after) :
    AllContinue before after := by
  induction former generalizing after with
  | nil => exact latter
  | cons first _ ih =>
      cases latter with
      | cons second rest => exact .cons (first.trans second) (ih rest)

theorem append_singleton
    {line : Line} (continues : AllContinue (before ++ [line]) after) :
    ∃ lines last, AllContinue before lines ∧ line.Continues last ∧ after = lines ++ [last] := by
  induction before generalizing after with
  | nil =>
      cases continues with
      | cons first none =>
          cases none
          exact ⟨[], _, .nil, first, rfl⟩
  | cons _ _ ih =>
      cases continues with
      | cons first rest =>
          obtain ⟨lines, last, former, latter, rfl⟩ := ih rest
          exact ⟨_ :: lines, last, .cons first former, latter, rfl⟩

theorem sequential_drop
    {count : Nat} (continues : AllContinue before after)
    (sequential : ∀ line ∈ before.drop count, line.IsSequential) :
    ∀ line ∈ after.drop count, line.IsSequential := by
  have later : AllContinue (before.drop count) (after.drop count) :=
    List.forall₂_drop count continues
  generalize before.drop count = former, after.drop count = latter at later sequential
  induction later with
  | nil => simp
  | cons first _ ih =>
      obtain ⟨head, tail⟩ := List.forall_mem_cons.mp sequential
      exact List.forall_mem_cons.mpr ⟨first.isSequential head, ih tail⟩

end AllContinue

/-- The response is the answer to the command: the command was written on some line after
those that stood there before, and the frame that answers it holds the response. -/
def IsAnswered (before after : List Line) (command : Command) (response : Response) : Prop :=
  ∃ index payload leftover,
    (after.getD index []).Answers (before.getD index []).commands command payload ∧
      Wire.response.ofBytes payload = .ok (response, leftover)

end Line

open Line (AllContinue)

/-- A device whose connections are lines to a daemon that answers in order.  Whatever is
done, the daemon may do more on all lines in the meantime. -/
structure Device.Serves {σ : Type} (device : Device σ) (network : σ → List Line) : Prop where
  served : ∀ state, ∀ line ∈ network state, line.Served
  connects {host : String} {port : UInt16} {state next : σ}
      (connected : device.connect host port state = (.ok (), next)) :
    ∃ lines, AllContinue (network state) lines ∧ network next = lines ++ [[]]
  refuses {host : String} {port : UInt16} {state next : σ} {error : Wire.FrameError}
      (refused : device.connect host port state = (.error error, next)) :
    AllContinue (network state) (network next)
  /-- What is sent goes to the line that was opened last. -/
  sends {earlier : List Line} {line : Line} {command : Command} {frame : ByteArray}
      {state next : σ} {result : Except Wire.FrameError (List Wire.Chunk)}
      (opened : network state = earlier ++ [line])
      (written : Wire.writeFrame (Wire.command.toBytes command) = .ok frame)
      (sent : device.send frame state = (result, next)) :
    ∃ lines after, AllContinue earlier lines ∧ line.Sends command result after ∧
      network next = lines ++ [after]

namespace Client

variable {σ : Type}

/-- Queries that are made one after another, with pauses in which the daemon goes on. -/
inductive Queries (device : Device σ) (network : σ → List Line) (client : Client σ) :
    Client σ → Prop where
  | none : Queries device network client client
  | query {before : Client σ} (earlier : Queries device network client before)
      (command : Command) :
      Queries device network client (before.query device command).2
  | pause {before : Client σ} {outside : σ} (earlier : Queries device network client before)
      (continues : AllContinue (network before.outside) (network outside)) :
      Queries device network client (before.outsideTo outside)

/-- The line of the connection is the newest, there are at least so many older ones, and
nothing is under way on it. -/
structure Holds (network : σ → List Line) (old : Nat) (outside : σ) (connection : Connection)
    (earlier : List Line) (line : Line) : Prop where
  newest : network outside = earlier ++ [line]
  older : old ≤ earlier.length
  idle : line.IsIdle
  unread : Wire.Chunk.bytesOf connection.unread = .empty

/-- What holds between two queries of a client that began when there were so many old
lines. -/
structure Tidy (network : σ → List Line) (old : Nat) (client : Client σ) : Prop where
  older : old ≤ (network client.outside).length
  sequential : ∀ line ∈ (network client.outside).drop old, line.IsSequential
  holds : ∀ connection, client.connection = some connection →
    ∃ earlier line, Holds network old client.outside connection earlier line

section

variable {device : Device σ} {network : σ → List Line} {old : Nat} {client next : Client σ}

theorem tidy_unconnected (none : client.connection = none) :
    client.Tidy network (network client.outside).length where
  older := Nat.le_refl _
  sequential := by simp
  holds := by simp [none]

theorem Tidy.pause
    {outside : σ} (tidy : client.Tidy network old) (serves : device.Serves network)
    (continues : AllContinue (network client.outside) (network outside)) :
    (client.outsideTo outside).Tidy network old where
  older := continues.length_eq ▸ tidy.older
  sequential := continues.sequential_drop tidy.sequential
  holds := by
    intro connection held
    obtain ⟨earlier, line, newest, older, idle, unread⟩ := tidy.holds connection held
    rw [newest] at continues
    obtain ⟨lines, after, former, latter, same⟩ := continues.append_singleton
    have served := serves.served outside after (same ▸ List.mem_concat_self)
    exact ⟨lines, after, same, former.length_eq ▸ older, latter.isIdle served idle, unread⟩

theorem sequential_snoc
    {lines : List Line} {last : Line} (older : old ≤ lines.length)
    (before : ∀ line ∈ lines.drop old, line.IsSequential) (here : last.IsSequential) :
    ∀ line ∈ (lines ++ [last]).drop old, line.IsSequential := by
  rw [List.drop_append_of_le_length older]
  intro line member
  rcases List.mem_append.mp member with former | newest
  · exact before line former
  · exact List.mem_singleton.mp newest ▸ here

/-- A connection that is open, or is opened, is on an idle line. -/
theorem connection?_holds
    {connection : Connection} (tidy : client.Tidy network old) (serves : device.Serves network)
    (opened : client.connection? device = (.ok connection, next)) :
    (∀ line ∈ (network next.outside).drop old, line.IsSequential) ∧
      ∃ earlier line, Holds network old next.outside connection earlier line ∧
        ((network client.outside).getD earlier.length []).commands = line.commands := by
  unfold connection? at opened
  cases held : client.connection with
  | some kept =>
      rw [held] at opened
      cases opened
      obtain ⟨earlier, line, holds⟩ := tidy.holds _ held
      refine ⟨tidy.sequential, earlier, line, holds, ?_⟩
      rw [holds.newest]
      simp
  | none =>
      rw [held] at opened
      rcases connects : device.connect client.config.host client.config.port client.outside with
        ⟨_ | _, outside⟩
      case error => simp [connects, Except.map] at opened
      case ok =>
        simp only [connects, Except.map, Prod.mk.injEq, Except.ok.injEq] at opened
        obtain ⟨rfl, rfl⟩ := opened
        obtain ⟨lines, continues, newest⟩ := serves.connects connects
        have older : old ≤ lines.length := continues.length_eq ▸ tidy.older
        refine ⟨?_, lines, [], ⟨newest, older, Line.isIdle_nil, rfl⟩, ?_⟩
        · change ∀ line ∈ (network outside).drop old, line.IsSequential
          rw [newest]
          exact sequential_snoc older (continues.sequential_drop tidy.sequential)
            Line.isSequential_nil
        · rw [← continues.length_eq]
          simp

theorem bytesOf_filter_stall (stream : List Wire.Chunk) :
    Wire.Chunk.bytesOf (stream.filter (· ≠ .stall)) = Wire.Chunk.bytesOf stream := by
  induction stream with
  | nil => rfl
  | cons chunk rest ih =>
      cases chunk with
      | data bytes => simpa [Wire.Chunk.bytesOf] using ih
      | failure error => simpa [Wire.Chunk.bytesOf] using ih
      | stall => simpa [Wire.Chunk.bytesOf] using ih

/-- A transfer on an idle line gets the payload that answers the command, and leaves the
line idle, or gets none. -/
theorem transfer_answers
    {connection : Connection} {earlier : List Line} {line : Line} {command : Command}
    {frame : ByteArray} {received : Except Wire.FrameError ByteArray}
    (serves : device.Serves network)
    (sequential : ∀ line ∈ (network client.outside).drop old, line.IsSequential)
    (holds : Holds network old client.outside connection earlier line)
    (written : Wire.writeFrame (Wire.command.toBytes command) = .ok frame)
    (transferred : client.transfer device connection frame = (received, next)) :
    ∃ lines after, AllContinue earlier lines ∧ network next.outside = lines ++ [after] ∧
      (∀ line ∈ (network next.outside).drop old, line.IsSequential) ∧
      ∀ payload, received = .ok payload →
        (∃ left, next.connection = some left ∧
          Holds network old next.outside left lines after) ∧
        after.Answers line.commands command payload := by
  obtain ⟨newest, older, idle, unread⟩ := holds
  unfold transfer at transferred
  rcases sent : device.send frame client.outside with ⟨result, outside⟩
  rw [sent] at transferred
  obtain ⟨lines, after, continues, sends, same⟩ := serves.sends newest written sent
  have olderAfter : old ≤ lines.length := continues.length_eq ▸ older
  rw [newest, List.drop_append_of_le_length older] at sequential
  have allSequential : ∀ line ∈ (network outside).drop old, line.IsSequential := by
    rw [same]
    apply sequential_snoc olderAfter
    · exact continues.sequential_drop fun line member =>
        sequential line (List.mem_append_left _ member)
    · exact sends.isSequential idle (sequential line List.mem_concat_self)
  have served : after.Served :=
    serves.served outside after (same ▸ List.mem_concat_self)
  cases result with
  | error error =>
      cases transferred
      exact ⟨lines, after, continues, same, allSequential, by simp⟩
  | ok chunks =>
      simp only [Prod.mk.injEq] at transferred
      obtain ⟨rfl, rfl⟩ := transferred
      refine ⟨lines, after, continues, same, allSequential, ?_⟩
      intro payload received
      rcases read : Wire.readFrame (connection.unread ++ chunks) with ⟨outcome, rest⟩
      simp only [Connection.receive, read] at received
      subst received
      obtain ⟨idleAfter, left, answers⟩ := sends.answers served idle unread read
      refine ⟨⟨_, rfl, same, olderAfter, idleAfter, ?_⟩, answers⟩
      simp only [Connection.receive, read]
      rw [bytesOf_filter_stall, left]

theorem connection?_refused
    {error : Wire.FrameError} (serves : device.Serves network)
    (refused : client.connection? device = (.error error, next)) :
    AllContinue (network client.outside) (network next.outside) := by
  unfold connection? at refused
  cases held : client.connection with
  | some kept => simp [held] at refused
  | none =>
      rw [held] at refused
      rcases connects : device.connect client.config.host client.config.port client.outside with
        ⟨_ | _, outside⟩
      case ok => simp [connects, Except.map] at refused
      case error =>
        simp only [connects, Except.map, Prod.mk.injEq] at refused
        rw [← refused.2]
        exact serves.refuses connects

theorem roundTrip_answers
    {command : Command} {received : Except Wire.FrameError ByteArray}
    (tidy : client.Tidy network old) (serves : device.Serves network)
    (tripped : client.roundTrip device command = (received, next)) :
    old ≤ (network next.outside).length ∧
      (∀ line ∈ (network next.outside).drop old, line.IsSequential) ∧
      ∀ payload, received = .ok payload →
        ∃ connection earlier line, next.connection = some connection ∧
          Holds network old next.outside connection earlier line ∧
          line.Answers ((network client.outside).getD earlier.length []).commands command
            payload := by
  unfold roundTrip at tripped
  rcases opened : client.connection? device with ⟨_ | connection, ready⟩
  case error =>
    simp only [opened] at tripped
    obtain ⟨rfl, rfl⟩ := Prod.mk.inj tripped
    have continues := connection?_refused serves opened
    exact ⟨continues.length_eq ▸ tidy.older, continues.sequential_drop tidy.sequential, by simp⟩
  case ok =>
    obtain ⟨sequential, earlier, line, holds, commands⟩ := connection?_holds tidy serves opened
    simp only [opened] at tripped
    cases written : Wire.writeFrame (Wire.command.toBytes command) with
    | error error =>
        simp only [written] at tripped
        obtain ⟨rfl, rfl⟩ := Prod.mk.inj tripped
        refine ⟨?_, sequential, by simp⟩
        rw [holds.newest, List.length_append]
        exact Nat.le_add_right_of_le holds.older
    | ok frame =>
        simp only [written] at tripped
        obtain ⟨lines, after, continues, newest, sequential, answers⟩ :=
          transfer_answers serves sequential holds written tripped
        refine ⟨?_, sequential, ?_⟩
        · rw [newest, List.length_append, ← continues.length_eq]
          exact Nat.le_add_right_of_le holds.older
        · intro payload got
          obtain ⟨⟨left, kept, holdsAfter⟩, answer⟩ := answers payload got
          rw [← commands, continues.length_eq] at answer
          exact ⟨left, lines, after, kept, holdsAfter, answer⟩

theorem ofBytes_of_interpret
    {config : DaemonConfig} {payload : ByteArray} {response : Response}
    (said : interpret config (.ok payload) = .ok response) :
    ∃ leftover, Wire.response.ofBytes payload = .ok (response, leftover) := by
  simp only [interpret] at said
  split at said
  case h_1 same leftover decoded =>
    cases said
    exact ⟨leftover, decoded⟩
  case h_2 => cases said

/-- An exchange of a tidy client leaves it tidy.  A response is the answer to the command,
and after an error the connection is given up. -/
theorem exchange_answers
    {command : Command} {result : Except DaemonError Response}
    (tidy : client.Tidy network old) (serves : device.Serves network)
    (exchanged : client.exchange device command = (result, next)) :
    next.Tidy network old ∧
      (∀ response, result = .ok response →
        Line.IsAnswered (network client.outside) (network next.outside) command response) ∧
      (∀ error, result = .error error → next.connection = none) := by
  have noted : (client.note (.asked command)).Tidy network old :=
    ⟨tidy.older, tidy.sequential, tidy.holds⟩
  unfold exchange at exchanged
  rcases tripped : (client.note (.asked command)).roundTrip device command with ⟨received, after⟩
  obtain ⟨older, sequential, answers⟩ := roundTrip_answers noted serves tripped
  simp only [tripped] at exchanged
  cases said : interpret after.config received with
  | error error =>
      simp only [said] at exchanged
      obtain ⟨rfl, rfl⟩ := Prod.mk.inj exchanged
      exact ⟨⟨older, sequential, by simp⟩, by simp, fun _ _ => rfl⟩
  | ok response =>
      simp only [said] at exchanged
      obtain ⟨rfl, rfl⟩ := Prod.mk.inj exchanged
      cases received with
      | error error => simp [interpret] at said
      | ok payload =>
          obtain ⟨connection, earlier, line, kept, holds, answer⟩ := answers payload rfl
          refine ⟨⟨older, sequential, ?_⟩, ?_, by simp⟩
          · intro other held
            obtain rfl := Option.some.inj (kept.symm.trans held)
            exact ⟨earlier, line, holds⟩
          · rintro _ ⟨⟩
            obtain ⟨leftover, decoded⟩ := ofBytes_of_interpret said
            refine ⟨earlier.length, payload, leftover, ?_, decoded⟩
            have newest : (network after.outside).getD earlier.length [] = line := by
              rw [holds.newest]
              simp
            exact newest.symm ▸ answer

theorem roundTrip_opens
    {command : Command} {received : Except Wire.FrameError ByteArray}
    (serves : device.Serves network) (none : client.connection = none)
    (tripped : client.roundTrip device command = (received, next)) :
    ∃ lines opened, AllContinue (network client.outside) lines ∧
      network next.outside = lines ++ opened := by
  rcases connects : device.connect client.config.host client.config.port client.outside with
    ⟨_ | _, outside⟩
  case error =>
    simp only [roundTrip, connection?, none, connects, Except.map] at tripped
    obtain ⟨rfl, rfl⟩ := Prod.mk.inj tripped
    exact ⟨network outside, [], serves.refuses connects, (List.append_nil _).symm⟩
  case ok =>
    obtain ⟨lines, continues, newest⟩ := serves.connects connects
    simp only [roundTrip, connection?, none, connects, Except.map] at tripped
    cases written : Wire.writeFrame (Wire.command.toBytes command) with
    | error error =>
        simp only [written] at tripped
        obtain ⟨rfl, rfl⟩ := Prod.mk.inj tripped
        exact ⟨lines, [[]], continues, newest⟩
    | ok frame =>
        simp only [written, transfer] at tripped
        rcases sent : device.send frame outside with ⟨result, later⟩
        obtain ⟨others, after, more, -, same⟩ := serves.sends newest written sent
        have ended : next.outside = later := by
          simp only [note, outsideTo] at tripped
          rw [sent] at tripped
          cases result <;> exact congrArg Client.outside (Prod.mk.inj tripped).2.symm
        exact ⟨others, [after], continues.trans more, ended ▸ same⟩

/-- An exchange of a client without a connection opens one, and nothing is sent on the lines
that there were before. -/
theorem exchange_opens
    (serves : device.Serves network) (none : client.connection = none) (command : Command) :
    (∃ ending, (client.exchange device command).2.journal =
      client.journal ++ [.asked command, .connected, ending]) ∧
    ∃ lines opened, AllContinue (network client.outside) lines ∧
      network (client.exchange device command).2.outside = lines ++ opened := by
  constructor
  · have exchanged := (exchange_exchanges device client command).journal
    rw [none] at exchanged
    exact ⟨_, exchanged⟩
  · rcases tripped : (client.note (.asked command)).roundTrip device command with
      ⟨received, after⟩
    have noted : (client.note (.asked command)).connection = .none := none
    have opens := roundTrip_opens serves noted tripped
    simp only [exchange, tripped]
    cases interpret after.config received <;> exact opens

theorem query_answers
    {command : Command} {result : Except DaemonError Response}
    (tidy : client.Tidy network old) (serves : device.Serves network)
    (queried : client.query device command = (result, next)) :
    next.Tidy network old ∧
      (∀ response, result = .ok response →
        Line.IsAnswered (network client.outside) (network next.outside) command response) ∧
      (∀ error, result = .error error → client.phase = .ready → next.connection = none) := by
  by_cases ready : client.phase = .ready
  case pos =>
    have passed : client.query device command = client.exchange device command := by
      simp only [query, expect, ready, if_true]
    obtain ⟨tidyAfter, answered, closed⟩ := exchange_answers tidy serves (passed ▸ queried)
    exact ⟨tidyAfter, answered, fun error failed _ => closed error failed⟩
  case neg =>
    have refused : client.query device command =
        (.error (.invalidState client.phase .ready), client) := by
      simp only [query, expect, if_neg ready]
    obtain ⟨rfl, rfl⟩ := Prod.mk.inj (refused.symm.trans queried)
    exact ⟨tidy, by simp, fun _ _ other => (ready other).elim⟩

theorem Tidy.queries
    (tidy : client.Tidy network old) (serves : device.Serves network)
    (queries : client.Queries device network next) :
    next.Tidy network old := by
  induction queries with
  | none => exact tidy
  | query earlier command ih => exact (query_answers ih serves rfl).1
  | pause earlier continues ih => exact ih.pause serves continues

end

/-- However queries are answered, are late or fail, a response is the answer to the command
that was asked, and on no line that the client has opened is more than one command without
an answer at any moment.  After an error the next query opens a connection, and nothing is
sent on the lines that there were before. -/
theorem queries_get_their_answers
    {device : Device σ} {network : σ → List Line} {client before after : Client σ}
    {command : Command} {result : Except DaemonError Response}
    (serves : device.Serves network) (unconnected : client.connection = none)
    (queries : client.Queries device network before)
    (queried : before.query device command = (result, after)) :
    (∀ response, result = .ok response →
      Line.IsAnswered (network before.outside) (network after.outside) command response) ∧
    (∀ line ∈ (network after.outside).drop (network client.outside).length,
      line.IsSequential) ∧
    (∀ error, result = .error error → before.phase = .ready →
      ∀ outside other, AllContinue (network after.outside) (network outside) →
        let next := ((after.outsideTo outside).query device other).2
        (∃ ending, next.journal = after.journal ++ [.asked other, .connected, ending]) ∧
        ∃ lines opened, AllContinue (network outside) lines ∧
          network next.outside = lines ++ opened) := by
  have tidy := (tidy_unconnected unconnected).queries serves queries
  obtain ⟨tidyAfter, answered, closed⟩ := query_answers tidy serves queried
  refine ⟨answered, tidyAfter.sequential, ?_⟩
  intro error failed ready outside other continues
  have none : (after.outsideTo outside).connection = none := closed error failed ready
  have readyAfter : (after.outsideTo outside).phase = .ready := by
    obtain ⟨connects, exchanged⟩ := query_exchanged device command ready
    rw [queried] at exchanged
    exact exchanged.phase.trans ready
  have passed : (after.outsideTo outside).query device other =
      (after.outsideTo outside).exchange device other := by
    simp only [query, expect, readyAfter, if_true]
  rw [passed]
  exact exchange_opens serves none other

end Client

/-! ## A daemon that answers late -/

/-- How far two requests have come, the first of which is answered only after its
deadline. -/
inductive Tardy where
  | idle
  | opened
  | waiting
  | reopened
  | answered

namespace Tardy

def frame (response : Response) : ByteArray :=
  Wire.frameHeader (Wire.response.toBytes response).size ++ Wire.response.toBytes response

/-- The first request is answered late, which nobody reads. -/
def abandoned : Line :=
  [.written .fetchGuiState, .arrived [.stall], .read, .answered (frame (.failure "late"))]

def network : Tardy → List Line
  | .idle => []
  | .opened => [[]]
  | .waiting => [abandoned.take 2]
  | .reopened => [abandoned, []]
  | .answered => [abandoned, [.written .fetchGuiState, .read, .answered (frame .ack),
      .arrived [.data (frame .ack)]]]

/-- What comes of a request for a snapshot. -/
def request : Tardy → Except Wire.FrameError (List Wire.Chunk) × Tardy
  | .opened => (.ok [.stall], .waiting)
  | .reopened => (.ok [.data (frame .ack)], .answered)
  | state => (.error (.socket .brokenPipe), state)

def device : Device Tardy where
  forward _ _ state := (.ok (), state)
  clearLog _ state := (.ok (), state)
  readLog _ _ state := (.ok [], state)
  patience _ _ _ := 0
  launch _ _ _ state := state
  ending _ := none
  requestStop state := state
  awaitEnd state := (.finished, state)
  awaitEndFor _ state := (none, state)
  connect _ _
    | .idle => (.ok (), .opened)
    | .waiting => (.ok (), .reopened)
    | state => (.error (.socket .connectionRefused), state)
  send frame state :=
    if frame.data.toList[4]? = some 0 then state.request
    else (.error (.socket .brokenPipe), state)

theorem isFrameStart_frame
    {response : Response} (small : (Wire.response.toBytes response).size < 2 ^ 32) :
    Wire.IsFrameStart (frame response) :=
  ⟨_, .empty, small, ByteArray.append_empty.symm⟩

theorem served_abandoned : abandoned.Served := by
  have written := (Line.served_nil.written .fetchGuiState).arrived [.stall] .empty rfl
  exact (written.read (by decide)).answered (by decide) (isFrameStart_frame (by decide))

theorem served_network (state : Tardy) : ∀ line ∈ state.network, line.Served := by
  have prompt : Line.Served [.written .fetchGuiState, .read, .answered (frame .ack),
      .arrived [.data (frame .ack)]] := by
    have read := (Line.served_nil.written .fetchGuiState).read (by decide)
    have starts : Wire.IsFrameStart (frame .ack) := isFrameStart_frame (by decide)
    have answered := read.answered (by decide) starts
    exact answered.arrived [.data (frame .ack)] .empty rfl
  cases state with
  | idle => simp [network]
  | opened => simpa [network] using Line.served_nil
  | waiting => simpa [network] using served_abandoned.of_prefix (List.take_prefix _ _)
  | reopened => simpa [network] using ⟨served_abandoned, Line.served_nil⟩
  | answered => simpa [network] using ⟨served_abandoned, prompt⟩

theorem serves : device.Serves network where
  served := served_network
  connects := by
    intro host port state next connected
    cases state <;> cases connected
    · exact ⟨[], .nil, rfl⟩
    · refine ⟨[abandoned], .cons ⟨abandoned.drop 2, rfl, ?_⟩ .nil, rfl⟩
      decide
  refuses := by
    intro host port state next error refused
    cases state <;> cases refused <;> exact .refl _
  sends := by
    intro earlier line command bytes state next result newest written sent
    have unsent (same : (.error (.socket .brokenPipe), state) = (result, next)) :
        ∃ lines after, AllContinue earlier lines ∧ line.Sends command result after ∧
          next.network = lines ++ [after] := by
      cases same
      exact ⟨earlier, line, .refl _, .unwritten (.refl _), newest⟩
    by_cases tag : bytes.data.toList[4]? = some 0
    case neg =>
      simp only [device, if_neg tag] at sent
      exact unsent sent
    case pos =>
      have fetches : command = .fetchGuiState := by
        by_contra action
        exact head?_encode_action action (getElem?_frame written ▸ tag)
      subst fetches
      simp only [device, if_pos tag] at sent
      cases state with
      | idle | waiting | answered => exact unsent sent
      | opened =>
          obtain ⟨rfl, same⟩ :=
            List.append_inj' (show [] ++ [[]] = earlier ++ [line] from newest) rfl
          cases same
          cases sent
          exact ⟨[], _, .nil, .arrived (.refl []) (.refl _), rfl⟩
      | reopened =>
          obtain ⟨rfl, same⟩ :=
            List.append_inj' (show [abandoned] ++ [[]] = earlier ++ [line] from newest) rfl
          cases same
          cases sent
          exact ⟨[abandoned], _, .refl _,
            .arrived (.refl []) ⟨[.read, .answered (frame .ack)], rfl, by decide⟩, rfl⟩

end Tardy

namespace Client

theorem queries_get_their_answers_late :
    let client : Client Tardy := { ofConfig {} .idle with phase := .ready }
    let first := client.query Tardy.device .fetchGuiState
    let second := first.2.query Tardy.device .fetchGuiState
    first.1 = .error (.timeout (.ofSeconds 60)) ∧ second.1 = .ok .ack ∧
      Line.IsAnswered (Tardy.network first.2.outside) (Tardy.network second.2.outside)
        .fetchGuiState .ack := by
  intro client first second
  have late : first.1 = .error (.timeout (.ofSeconds 60)) := by decide
  have prompt : second.1 = .ok .ack := by decide
  refine ⟨late, prompt, ?_⟩
  exact (queries_get_their_answers Tardy.serves rfl (.query .none .fetchGuiState) rfl).1 .ack prompt

end Client

end GuiExplorer
