import GuiExplorer.Device.Client
import GuiExplorer.Proofs.Wire.Frame

/-!
# Daemons that answer

A daemon that has the answers to requests for snapshots in hand gives them one
after another and acknowledges every other command.  A ready client of such a
daemon gets each answer as it was meant.
-/

namespace GuiExplorer

/-- What arrives on a connection is one frame with the response and nothing more. -/
def Delivers (arrived : List Wire.Chunk) (response : Response) : Prop :=
  ∃ payload leftover, Connection.fresh.receive arrived = (.ok payload, .fresh) ∧
    Wire.response.ofBytes payload = .ok (response, leftover)

/-- The answer to a command of a daemon with these answers in hand, and the answers
that are left. -/
def answerTo : Command → List Response → Option (Response × List Response)
  | .fetchGuiState, [] => none
  | .fetchGuiState, response :: rest => some (response, rest)
  | _, responses => some (.ack, responses)

theorem answerTo_action
    {command : Command} (action : command ≠ .fetchGuiState) (responses : List Response) :
    answerTo command responses = some (.ack, responses) := by
  cases command <;> first | rfl | contradiction

/-- The world answers from what is in hand; `inHand` tells the answers that are left
in a state of the world, with or without a connection. -/
structure World.Answers {σ : Type} (world : World σ) (config : DaemonConfig)
    (inHand : (connected : Bool) → List Response → σ → Prop) : Prop where
  connects {responses : List Response} {state : σ} (held : inHand false responses state) :
    ∃ next, world.connect config.host config.port state = (.ok (), next) ∧
      inHand true responses next
  sends {command : Command} {frame : ByteArray} {responses rest : List Response}
      {response : Response} {state : σ} (held : inHand true responses state)
      (written : Wire.writeFrame (Wire.command.toBytes command) = .ok frame)
      (answered : answerTo command responses = some (response, rest)) :
    ∃ arrived next, world.send frame state = (.ok arrived, next) ∧
      Delivers arrived response ∧ inHand true rest next
  /-- To look for executed statements leaves the answers alone. -/
  executes {connected : Bool} {responses : List Response} {state : σ}
      (held : inHand connected responses state) :
    inHand connected responses (world.executed state).2

/-! ## A daemon that always shows the same -/

/-- The byte after the length of a frame tells the kind of command. -/
theorem getElem?_frame
    {command : Command} {frame : ByteArray}
    (written : Wire.writeFrame (Wire.command.toBytes command) = .ok frame) :
    frame.data.toList[4]? = (Wire.command.encode command).head? := by
  unfold Wire.writeFrame at written
  split at written
  · cases written
    simp only [Wire.frameHeader, Wire.littleEndian, Wire.Codec.toBytes, ByteArray.data_append,
      Array.toList_append, List.reverse_cons, List.reverse_nil, List.nil_append, List.cons_append]
    cases Wire.command.encode command <;> rfl
  · contradiction

theorem head?_encode_action {command : Command} (action : command ≠ .fetchGuiState) :
    (Wire.command.encode command).head? ≠ some 0 := by
  cases command <;> first
    | contradiction
    | simp [Wire.command, Wire.choice, Wire.Codec.uint32, Wire.Codec.map, Wire.Codec.nat,
        Wire.littleEndian]

def frameOf (response : Response) : List Wire.Chunk :=
  match Wire.writeFrame (Wire.response.toBytes response) with
  | .ok frame => [.data frame]
  | .error _ => []

/-- A response that fits into a frame and can be decoded again is delivered. -/
theorem delivers_frameOf
    {response : Response} {leftover : List UInt8}
    (fits : (Wire.response.toBytes response).size ≤ Wire.maxFrameLength)
    (decoded : (Wire.response.ofBytes (Wire.response.toBytes response)).toOption =
      some (response, leftover)) :
    Delivers (frameOf response) response := by
  have some : (Wire.response.toBytes response).size ≠ 0 := by
    cases response <;> exact Nat.succ_ne_zero _
  obtain ⟨frame, written⟩ :
      ∃ frame, Wire.writeFrame (Wire.response.toBytes response) = .ok frame :=
    ⟨_, if_pos fits⟩
  have read : Wire.response.ofBytes (Wire.response.toBytes response) =
      .ok (response, leftover) := by
    cases result : Wire.response.ofBytes (Wire.response.toBytes response) <;>
      rw [result] at decoded <;> cases decoded
    rfl
  refine ⟨_, leftover, ?_, read⟩
  simp only [frameOf, written, Connection.receive, Connection.fresh, List.nil_append,
    Wire.readFrame_frame written some]
  rfl

/-- The world of a daemon that always shows the same and acknowledges all else. -/
def steady (snapshot : GuiSnapshot) : World Unit where
  forward _ _ _ := (.ok (), ())
  clearLog _ _ := (.ok (), ())
  readLog _ _ _ := (.ok [], ())
  patience _ _ _ := 0
  launch _ _ _ _ := ()
  ending _ := none
  requestStop _ := ()
  awaitEnd _ := (.finished, ())
  awaitEndFor _ _ := (none, ())
  connect _ _ _ := (.ok (), ())
  send frame _ :=
    if frame.data.toList[4]? = some 0 then (.ok (frameOf (.guiState snapshot)), ())
    else (.ok (frameOf .ack), ())
  elapsed _ := ⟨0⟩
  timestamp _ := ""
  decode _ := .unreadable
  executed _ := ([], ())
  makeFolder _ _ := (.ok (), ())
  write _ _ _ _ := (.ok (), ())

theorem steady_answers
    {snapshot : GuiSnapshot} (config : DaemonConfig)
    (delivers : Delivers (frameOf (.guiState snapshot)) (.guiState snapshot)) :
    (steady snapshot).Answers config fun _ responses _ =>
      ∀ response ∈ responses, response = .guiState snapshot where
  connects held := ⟨(), rfl, held⟩
  sends {command frame responses rest response state} held written answered := by
    have tag := getElem?_frame written
    by_cases fetches : command = .fetchGuiState
    · subst fetches
      cases responses with
      | nil => contradiction
      | cons first others =>
          cases answered
          refine ⟨frameOf (.guiState snapshot), (), ?_, ?_,
            fun later member => held later (List.mem_cons_of_mem _ member)⟩
          · simp only [steady, tag]
            rfl
          · rw [held response List.mem_cons_self]
            exact delivers
    · rw [answerTo_action fetches] at answered
      cases answered
      have decoded : (Wire.response.ofBytes (Wire.response.toBytes .ack)).toOption =
          some (.ack, []) := rfl
      have acknowledges : Delivers (frameOf .ack) .ack := delivers_frameOf (by decide) decoded
      refine ⟨frameOf .ack, (), ?_, acknowledges, held⟩
      simp only [steady, tag, if_neg (head?_encode_action fetches)]
  executes held := held

namespace Client

variable {σ : Type}

/-- The client can be answered with what is in hand. -/
structure Attended (inHand : (connected : Bool) → List Response → σ → Prop)
    (responses : List Response) (client : Client σ) : Prop where
  ready : client.phase = .ready
  held : client.connection = none ∧ inHand false responses client.outside ∨
    client.connection = some .fresh ∧ inHand true responses client.outside

section

variable {inHand : (connected : Bool) → List Response → σ → Prop} {world : World σ}
  {client : Client σ} {responses rest : List Response}

private theorem connection?_answered
    (client : Client σ) (answers : world.Answers client.config inHand)
    (held : client.connection = none ∧ inHand false responses client.outside ∨
      client.connection = some .fresh ∧ inHand true responses client.outside) :
    ∃ next, client.connection? world.toDevice = (.ok .fresh, next) ∧
      next.phase = client.phase ∧ next.config = client.config ∧
      inHand true responses next.outside := by
  rcases held with ⟨closed, held⟩ | ⟨opened, held⟩
  · obtain ⟨state, connected, after⟩ := answers.connects held
    refine ⟨(client.note .connected).outsideTo state, ?_, rfl, rfl, after⟩
    simp only [connection?, closed, connected]
    rfl
  · refine ⟨client, ?_, rfl, rfl, held⟩
    simp only [connection?, opened]

/-- A client of a daemon with answers in hand gets the answer to its command. -/
theorem query_answered
    {command : Command} {response : Response} (answers : world.Answers client.config inHand)
    (attended : client.Attended inHand responses)
    (sent : ∃ frame, Wire.writeFrame (Wire.command.toBytes command) = .ok frame)
    (answered : answerTo command responses = some (response, rest)) :
    ∃ next, client.query world.toDevice command = (.ok response, next) ∧
      next.Attended inHand rest := by
  obtain ⟨frame, written⟩ := sent
  obtain ⟨next, opened, phase, config, held⟩ :=
    connection?_answered (client.note (.asked command)) answers attended.held
  obtain ⟨arrived, state, delivered, ⟨payload, leftover, received, decoded⟩, after⟩ :=
    answers.sends held written answered
  have trip : (client.note (.asked command)).roundTrip world.toDevice command =
      (.ok payload, { next.outsideTo state with connection := some .fresh }) := by
    simp only [roundTrip, opened, written, transfer, delivered, received]
  refine ⟨({ next.outsideTo state with connection := some .fresh } : Client σ).note
    (.answered response), ?_, phase.trans attended.ready, .inr ⟨rfl, after⟩⟩
  simp only [query, expect, attended.ready, if_true, exchange, trip, interpret, decoded]

end

end Client

end GuiExplorer
