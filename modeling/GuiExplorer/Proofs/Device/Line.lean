import GuiExplorer.Device.World
import GuiExplorer.Proofs.Wire.Frame
import GuiExplorer.Wire.Message
import Mathlib.Data.List.Forall2

/-!
# Lines to a daemon

Every connection is a line of its own, on which the daemon reads the commands in the
order in which they were written and answers each with one frame, after any delay.
So answers may be under way on lines that the client has given up.  Frames may hold
anything and may be cut off, and a line may break at any point.
-/

namespace GuiExplorer

/-- The bytes are a frame or the beginning of one. -/
def Wire.IsFrameStart (bytes : ByteArray) : Prop :=
  ∃ payload missing, payload.size < 2 ^ 32 ∧
    Wire.frameHeader payload.size ++ payload = bytes ++ missing

/-- A payload that is read from what has come of a reply is that of the reply, all of which
has come then. -/
theorem Wire.IsFrameStart.read
    {reply underWay payload : ByteArray} {stream rest : List Chunk} (framed : IsFrameStart reply)
    (come : reply = Chunk.bytesOf stream ++ underWay)
    (read : readFrame stream = (.ok payload, rest)) :
    writeFrame payload = .ok reply ∧ Chunk.bytesOf rest = .empty ∧ underWay = .empty := by
  obtain ⟨sent, missing, small, one⟩ := framed
  have fits := (readFrame_takes read).1
  rw [come, ByteArray.append_assoc] at one
  obtain ⟨rfl, left, lost⟩ := readFrame_only read small one
  obtain ⟨rfl, rfl⟩ := ByteArray.append_eq_empty_iff.mp lost
  rw [ByteArray.append_empty] at come one
  refine ⟨?_, left, rfl⟩
  rw [writeFrame, if_pos fits, one, come, ByteArray.append_empty]

/-- What happens on a line. -/
inductive LineEvent where
  /-- The client has written all of a command. -/
  | written (command : Command)
  /-- The daemon has read all of the next command. -/
  | read
  /-- The daemon has answered the next command. -/
  | answered (reply : ByteArray)
  /-- This has come back to the client. -/
  | arrived (chunks : List Wire.Chunk)
deriving DecidableEq

namespace LineEvent

@[simp]
def commands : LineEvent → List Command
  | .written command => [command]
  | _ => []

def isRead : LineEvent → Bool
  | .read => true
  | _ => false

@[simp]
def replies : LineEvent → List ByteArray
  | .answered reply => [reply]
  | _ => []

@[simp]
def chunks : LineEvent → List Wire.Chunk
  | .arrived chunks => chunks
  | _ => []

/-- Whether it is the daemon that does it. -/
def isOfDaemon : LineEvent → Bool
  | .read => true
  | .answered _ => true
  | _ => false

end LineEvent

/-- All that has happened on a line, oldest first. -/
abbrev Line := List LineEvent

namespace Line

def commands (line : Line) : List Command :=
  line.flatMap LineEvent.commands

/-- How many commands the daemon has read. -/
def reads (line : Line) : Nat :=
  line.countP LineEvent.isRead

/-- The answers of the daemon; each is to the command at the same place. -/
def replies (line : Line) : List ByteArray :=
  line.flatMap LineEvent.replies

/-- The bytes of all answers. -/
def sent (line : Line) : ByteArray :=
  Wire.Chunk.bytesOf (line.replies.map .data)

/-- The bytes that have come back to the client. -/
def arrived (line : Line) : ByteArray :=
  Wire.Chunk.bytesOf (line.flatMap LineEvent.chunks)

section

variable (event : LineEvent) (front back rest : Line)

@[simp]
theorem commands_cons : commands (event :: rest) = event.commands ++ commands rest :=
  List.flatMap_cons

@[simp]
theorem commands_append : commands (front ++ back) = commands front ++ commands back :=
  List.flatMap_append

@[simp]
theorem replies_cons : replies (event :: rest) = event.replies ++ replies rest :=
  List.flatMap_cons

@[simp]
theorem replies_append : replies (front ++ back) = replies front ++ replies back :=
  List.flatMap_append

@[simp]
theorem sent_cons :
    sent (event :: rest) = Wire.Chunk.bytesOf (event.replies.map .data) ++ sent rest := by
  rw [sent, replies_cons, List.map_append, Wire.bytesOf_append, sent]

@[simp]
theorem sent_append : sent (front ++ back) = sent front ++ sent back := by
  rw [sent, replies_append, List.map_append, Wire.bytesOf_append, sent, sent]

@[simp]
theorem arrived_cons :
    arrived (event :: rest) = Wire.Chunk.bytesOf event.chunks ++ arrived rest := by
  rw [arrived, List.flatMap_cons, Wire.bytesOf_append, arrived]

@[simp]
theorem arrived_append : arrived (front ++ back) = arrived front ++ arrived back := by
  rw [arrived, List.flatMap_append, Wire.bytesOf_append, arrived, arrived]

@[simp]
theorem commands_nil : commands [] = [] :=
  rfl

@[simp]
theorem replies_nil : replies [] = [] :=
  rfl

@[simp]
theorem sent_nil : sent [] = .empty :=
  rfl

@[simp]
theorem arrived_nil : arrived [] = .empty :=
  rfl

end

/-- What is true at a moment of a daemon that reads commands in order, answers what it
has read with no more than one frame each, and of a line that keeps the order of
bytes. -/
structure IsSound (moment : Line) : Prop where
  read : moment.reads ≤ moment.commands.length
  answered : moment.replies.length ≤ moment.reads
  framed : ∀ reply ∈ moment.replies, Wire.IsFrameStart reply
  arrived : ∃ underWay, moment.sent = moment.arrived ++ underWay

/-- A line on which a daemon answers in order. -/
def Served (line : Line) : Prop :=
  ∀ moment : Line, moment <+: line → moment.IsSound

/-- At no moment is more than one command without an answer. -/
def IsSequential (line : Line) : Prop :=
  ∀ moment : Line, moment <+: line → moment.commands.length ≤ moment.replies.length + 1

/-- All commands have been answered, and all answers have come back. -/
structure IsIdle (line : Line) : Prop where
  answered : line.commands.length = line.replies.length
  arrived : line.arrived = line.sent

theorem Served.of_prefix {earlier line : Line} (served : line.Served) (before : earlier <+: line) :
    earlier.Served :=
  fun moment within => served moment (within.trans before)

/-! ### What can happen next on a line -/

section

variable {line : Line}

theorem served_nil : Served [] := by
  intro moment within
  rw [List.prefix_nil.mp within]
  exact ⟨Nat.le_refl _, Nat.le_refl _, by simp, .empty, rfl⟩

theorem Served.concat
    {event : LineEvent} (served : line.Served) (sound : IsSound (line ++ [event])) :
    Served (line ++ [event]) := by
  intro moment within
  rcases List.prefix_concat_iff.mp within with last | earlier
  · exact last ▸ sound
  · exact served moment earlier

theorem Served.written (served : line.Served) (command : Command) :
    Served (line ++ [.written command]) := by
  obtain ⟨read, answered, framed, underWay, sent⟩ := served line List.prefix_rfl
  apply served.concat
  refine ⟨?_, ?_, by simpa using framed, underWay, by simpa [Wire.Chunk.bytesOf] using sent⟩
  · simpa [reads, LineEvent.isRead] using Nat.le_succ_of_le read
  · simpa [reads, LineEvent.isRead] using answered

theorem Served.read (served : line.Served) (pending : line.reads < line.commands.length) :
    Served (line ++ [.read]) := by
  obtain ⟨-, answered, framed, underWay, sent⟩ := served line List.prefix_rfl
  apply served.concat
  refine ⟨?_, ?_, by simpa using framed, underWay, by simpa [Wire.Chunk.bytesOf] using sent⟩
  · simpa [reads, LineEvent.isRead, Nat.succ_le_iff] using pending
  · simpa [reads, LineEvent.isRead] using Nat.le_succ_of_le answered

theorem Served.answered
    {reply : ByteArray} (served : line.Served) (due : line.replies.length < line.reads)
    (framed : Wire.IsFrameStart reply) :
    Served (line ++ [.answered reply]) := by
  obtain ⟨read, -, before, underWay, sent⟩ := served line List.prefix_rfl
  apply served.concat
  refine ⟨?_, ?_, ?_, underWay ++ reply, ?_⟩
  · simpa [reads, LineEvent.isRead] using read
  · simpa [reads, LineEvent.isRead, Nat.succ_le_iff] using due
  · intro other member
    rw [replies_append, List.mem_append] at member
    rcases member with earlier | last
    · exact before other earlier
    · exact List.mem_singleton.mp last ▸ framed
  · simp [sent, Wire.Chunk.bytesOf, ByteArray.append_assoc]

theorem Served.arrived
    (served : line.Served) (chunks : List Wire.Chunk) (underWay : ByteArray)
    (sent : line.sent = line.arrived ++ Wire.Chunk.bytesOf chunks ++ underWay) :
    Served (line ++ [.arrived chunks]) := by
  obtain ⟨read, answered, framed, -⟩ := served line List.prefix_rfl
  apply served.concat
  refine ⟨?_, ?_, by simpa using framed, underWay, by simpa [Wire.Chunk.bytesOf] using sent⟩
  · simpa [reads, LineEvent.isRead] using read
  · simpa [reads, LineEvent.isRead] using answered

end

theorem isIdle_nil : IsIdle [] :=
  ⟨rfl, rfl⟩

theorem isSequential_nil : IsSequential [] := by
  intro moment within
  rw [List.prefix_nil.mp within]
  exact Nat.zero_le _

theorem IsSequential.append
    {line more : Line} (sequential : line.IsSequential)
    (goesOn : ∀ moment : Line, moment <+: more →
      (commands (line ++ moment)).length ≤ (replies (line ++ moment)).length + 1) :
    IsSequential (line ++ more) := by
  intro moment within
  rcases List.prefix_or_prefix_of_prefix within (List.prefix_append line more) with
    earlier | ⟨later, same⟩
  · exact sequential moment earlier
  · subst same
    exact goesOn later ((List.prefix_append_right_inj line).mp within)

/-- Nothing happens on the line but what the daemon does. -/
def Continues (before after : Line) : Prop :=
  ∃ doings : Line, after = before ++ doings ∧ ∀ event ∈ doings, event.isOfDaemon = true

namespace Continues

variable {before middle after : Line}

theorem refl (line : Line) : line.Continues line :=
  ⟨[], by simp, by simp⟩

theorem trans (former : before.Continues middle) (latter : middle.Continues after) :
    before.Continues after := by
  obtain ⟨earlier, rfl, byDaemon⟩ := former
  obtain ⟨later, rfl, alsoByDaemon⟩ := latter
  refine ⟨earlier ++ later, List.append_assoc _ _ _, ?_⟩
  intro event member
  rcases List.mem_append.mp member with here | there
  · exact byDaemon event here
  · exact alsoByDaemon event there

private theorem silent_of_doings
    {doings : Line} (byDaemon : ∀ event ∈ doings, event.isOfDaemon = true) :
    doings.commands = [] ∧ doings.arrived = .empty := by
  induction doings with
  | nil => exact ⟨rfl, rfl⟩
  | cons event rest ih =>
      obtain ⟨first, others⟩ := List.forall_mem_cons.mp byDaemon
      obtain ⟨noCommand, noBytes⟩ := ih others
      cases event with
      | written | arrived => cases first
      | read | answered => exact ⟨noCommand, noBytes⟩

theorem commands_eq (continues : before.Continues after) : after.commands = before.commands := by
  obtain ⟨doings, rfl, byDaemon⟩ := continues
  rw [commands_append, (silent_of_doings byDaemon).1, List.append_nil]

theorem arrived_eq (continues : before.Continues after) : after.arrived = before.arrived := by
  obtain ⟨doings, rfl, byDaemon⟩ := continues
  rw [arrived_append, (silent_of_doings byDaemon).2, ByteArray.append_empty]

theorem replies_length_le (continues : before.Continues after) :
    before.replies.length ≤ after.replies.length := by
  obtain ⟨doings, rfl, -⟩ := continues
  rw [replies_append, List.length_append]
  exact Nat.le_add_right _ _

theorem isSequential (continues : before.Continues after) (sequential : before.IsSequential) :
    after.IsSequential := by
  obtain ⟨doings, rfl, byDaemon⟩ := continues
  apply sequential.append
  intro moment within
  have noCommand := (silent_of_doings fun event member =>
    byDaemon event (within.subset member)).1
  have bounded := sequential before List.prefix_rfl
  rw [commands_append, replies_append, noCommand, List.append_nil, List.length_append]
  omega

/-- Where there is nothing to answer, nothing is answered. -/
theorem isIdle
    (continues : before.Continues after) (served : after.Served) (idle : before.IsIdle) :
    after.IsIdle := by
  have commands := continues.commands_eq
  have arrived := continues.arrived_eq
  have sound := served after List.prefix_rfl
  obtain ⟨doings, rfl, -⟩ := continues
  have none : doings.replies = [] := by
    have read := sound.read
    have answered := sound.answered
    have all := idle.answered
    rw [commands] at read
    rw [replies_append, List.length_append] at answered
    apply List.eq_nil_of_length_eq_zero
    omega
  constructor
  · rw [commands, replies_append, none, List.append_nil, idle.answered]
  · rw [arrived, idle.arrived, sent_append, sent, sent, none, List.map_nil, Wire.Chunk.bytesOf,
      ByteArray.append_empty]

end Continues

/-- A command is sent on a line, and something comes back before the deadline; or the
line breaks or the deadline passes, after the command was written or before. -/
inductive Sends (line : Line) (command : Command) :
    Except Wire.FrameError (List Wire.Chunk) → Line → Prop where
  | arrived {before after : Line} {chunks : List Wire.Chunk}
      (waits : line.Continues before)
      (goesOn : Continues (before ++ [.written command]) after) :
      Sends line command (.ok chunks) (after ++ [.arrived chunks])
  | lost {before after : Line} {error : Wire.FrameError}
      (waits : line.Continues before)
      (goesOn : Continues (before ++ [.written command]) after) :
      Sends line command (.error error) after
  | unwritten {after : Line} {error : Wire.FrameError} (waits : line.Continues after) :
      Sends line command (.error error) after

/-- A command that is written on an idle line is the only one without an answer. -/
theorem IsIdle.isSequential_written
    {line before : Line} {command : Command} (idle : line.IsIdle)
    (sequential : line.IsSequential) (waits : line.Continues before) :
    IsSequential (before ++ [.written command]) := by
  apply (waits.isSequential sequential).append
  intro moment within
  have few : (commands moment).length ≤ 1 := by
    obtain ⟨rest, same⟩ := within
    have length := congrArg (fun line : Line => line.commands.length) same
    simp only [commands_append, List.length_append] at length
    change _ = 1 at length
    omega
  have all := idle.answered
  have more := waits.replies_length_le
  rw [commands_append, replies_append, waits.commands_eq, List.length_append, List.length_append]
  omega

theorem Sends.isSequential
    {line after : Line} {command : Command} {result : Except Wire.FrameError (List Wire.Chunk)}
    (sends : line.Sends command result after) (idle : line.IsIdle)
    (sequential : line.IsSequential) :
    after.IsSequential := by
  cases sends with
  | @arrived before after chunks waits goesOn =>
      apply (goesOn.isSequential (idle.isSequential_written sequential waits)).append
      intro moment within
      have none : commands moment = [] := by
        obtain ⟨rest, same⟩ := within
        have nothing := congrArg commands same
        rw [commands_append] at nothing
        exact (List.append_eq_nil_iff.mp nothing).1
      have bounded := goesOn.isSequential (idle.isSequential_written sequential waits) after
        List.prefix_rfl
      rw [commands_append, replies_append, none, List.append_nil, List.length_append]
      omega
  | lost waits goesOn => exact goesOn.isSequential (idle.isSequential_written sequential waits)
  | unwritten waits => exact waits.isSequential sequential

/-- After the commands that were written before, the command was written, and it was
answered by a frame that holds the payload. -/
structure Answers (line : Line) (earlier : List Command) (command : Command)
    (payload : ByteArray) : Prop where
  asked : line.commands = earlier ++ [command]
  answered : ∃ reply, line.replies[earlier.length]? = some reply ∧
    Wire.writeFrame payload = .ok reply

/-- What comes back for a command that was written on an idle line is no more than the
answer to it. -/
theorem IsIdle.answer
    {before doings : Line} {command : Command} {chunks : List Wire.Chunk}
    (idle : before.IsIdle) (byDaemon : ∀ event ∈ doings, event.isOfDaemon = true)
    (sound : IsSound (before ++ [.written command] ++ doings ++ [.arrived chunks])) :
    doings.replies.length ≤ 1 ∧ (∀ reply ∈ doings.replies, Wire.IsFrameStart reply) ∧
      ∃ underWay, doings.sent = Wire.Chunk.bytesOf chunks ++ underWay := by
  obtain ⟨noCommand, noBytes⟩ := Continues.silent_of_doings byDaemon
  obtain ⟨read, answered, framed, underWay, sent⟩ := sound
  have few := Nat.le_trans answered read
  have all := idle.answered
  simp only [commands_append, commands_cons, commands_nil, replies_append, replies_cons,
    replies_nil, sent_append, sent_cons, sent_nil, arrived_append, arrived_cons, arrived_nil,
    LineEvent.commands, LineEvent.replies, LineEvent.chunks, noCommand, noBytes, List.map_nil,
    Wire.Chunk.bytesOf, List.append_nil, ByteArray.append_empty,
    List.length_append, List.length_singleton] at few framed sent
  refine ⟨by omega, fun reply member => framed reply (List.mem_append_right _ member),
    underWay, ?_⟩
  rw [idle.arrived, ByteArray.append_assoc, ByteArray.append_right_inj] at sent
  exact sent

/-- A payload that is read on a line which was idle, is that of the answer to the command
that was sent, and after that the line is idle again. -/
theorem Sends.answers
    {line after : Line} {command : Command} {unread chunks rest : List Wire.Chunk}
    {payload : ByteArray} (sends : line.Sends command (.ok chunks) after)
    (served : after.Served) (idle : line.IsIdle) (nothing : Wire.Chunk.bytesOf unread = .empty)
    (read : Wire.readFrame (unread ++ chunks) = (.ok payload, rest)) :
    after.IsIdle ∧ Wire.Chunk.bytesOf rest = .empty ∧
      after.Answers line.commands command payload := by
  cases sends with
  | @arrived before after _ waits goesOn =>
      have commands : before.commands = line.commands := waits.commands_eq
      obtain ⟨doings, rfl, byDaemon⟩ := goesOn
      have idleBefore : before.IsIdle := by
        apply waits.isIdle (served.of_prefix ?_) idle
        rw [List.append_assoc, List.append_assoc]
        exact List.prefix_append _ _
      obtain ⟨atMostOne, framed, underWay, sent⟩ :=
        idleBefore.answer byDaemon (served _ List.prefix_rfl)
      have stream : Wire.Chunk.bytesOf (unread ++ chunks) = Wire.Chunk.bytesOf chunks := by
        rw [Wire.bytesOf_append, nothing, ByteArray.empty_append]
      have answered : ∃ reply, doings.replies = [reply] := by
        apply List.length_eq_one_iff.mp
        by_contra other
        have none : doings.replies = [] := List.eq_nil_of_length_eq_zero (by omega)
        rw [Line.sent, none] at sent
        obtain ⟨empty, -⟩ := ByteArray.append_eq_empty_iff.mp sent.symm
        obtain ⟨-, header, four, -, front⟩ := Wire.readFrame_takes read
        rw [stream, empty, ByteArray.append_assoc] at front
        rw [(ByteArray.append_eq_empty_iff.mp front.symm).1] at four
        cases four
      obtain ⟨reply, replied⟩ := answered
      have come : reply = Wire.Chunk.bytesOf (unread ++ chunks) ++ underWay := by
        rw [stream, ← sent, Line.sent, replied]
        exact ByteArray.append_empty.symm
      have framed := framed reply (replied ▸ List.mem_singleton_self _)
      obtain ⟨written, left, rfl⟩ := framed.read come read
      obtain ⟨noCommand, noBytes⟩ := Continues.silent_of_doings byDaemon
      have all := idleBefore.answered
      refine ⟨⟨?_, ?_⟩, left, ?_, reply, ?_, written⟩
      · simp [noCommand, replied, all]
      · rw [ByteArray.append_empty] at sent
        simp [sent, noBytes, idleBefore.arrived, Wire.Chunk.bytesOf]
      · simp [noCommand, commands]
      · rw [← commands, all]
        simp [replied]

end Line

end GuiExplorer
