import GuiExplorer.Device.Process

/-!
# No process is left behind

A supervised process exits on its own at any moment, while it is polled and while it is killed.
Whatever the operations on it answer, the polls go on until the first exit, the first error or the
first stop that is noticed, and a supervision that ends well, or tells how the process exited, has
reaped it.
-/

namespace GuiExplorer.Process

variable {stopping : Stopping}

/-- The poll found the process running, and no stop was requested. -/
def Poll.goesOn (poll : Poll) : Bool :=
  match poll.status with
  | .ok none => !poll.stopRequested
  | _ => false

/-- An operation on a process with its answer. -/
inductive Answer where
  | polled (status : Except OsError (Option ExitStatus))
  | killed (outcome : Except OsError Unit)
  | reaped (outcome : Except OsError ExitStatus)

namespace Answer

def call : Answer → Call
  | .polled _ => .poll
  | .killed _ => .kill
  | .reaped _ => .reap

/-- The status that the answer tells.  Whoever is told how a process exited has reaped it. -/
def status? : Answer → Option ExitStatus
  | .polled (.ok status) => status
  | .reaped (.ok status) => some status
  | _ => none

def isFailure : Answer → Bool
  | .polled (.error _) | .killed (.error _) | .reaped (.error _) => true
  | _ => false

/-- The process could not be waited for. -/
def isLost : Answer → Bool
  | .killed _ => false
  | answer => answer.isFailure

end Answer

/-- What an operation on a process that is stopped answers. -/
def Stopping.answer (stopping : Stopping) : Call → Answer
  | .poll => .polled stopping.recheck
  | .kill => .killed stopping.kill
  | .reap => .reaped stopping.reap

/-- The answers to some polls and to the operations of a stop after them. -/
def journal (stopping : Stopping) (polls : List Poll) (stop : List Call) : List Answer :=
  polls.map (fun poll => .polled poll.status) ++ stop.map stopping.answer

/-! ## The process -/

/-- Where a process stands. -/
inductive Life where
  | running
  /-- It has exited, and nobody was told. -/
  | exited (status : ExitStatus)
  | reaped (status : ExitStatus)

namespace Life

/-- What an operation on a process can answer, and where the process stands after it.  A process
that is killed exits later. -/
inductive Answers : Life → Answer → Life → Prop where
  | fails (life : Life) {answer : Answer} (failure : answer.isFailure = true) :
      Answers life answer life
  | runs : Answers .running (.polled (.ok none)) .running
  | killed (life : Life) : Answers life (.killed (.ok ())) life
  | fetched {answer : Answer} {status : ExitStatus} (told : answer.status? = some status) :
      Answers (.exited status) answer (.reaped status)
  | remembered {answer : Answer} {status : ExitStatus} (told : answer.status? = some status) :
      Answers (.reaped status) answer (.reaped status)

/-- A process meets operations with their answers, and may exit between them. -/
inductive Meets : Life → List Answer → Life → Prop where
  | done (life : Life) : Meets life [] life
  | exits (status : ExitStatus) {answers : List Answer} {final : Life}
      (later : Meets (.exited status) answers final) : Meets .running answers final
  | answered {life next final : Life} {answer : Answer} {rest : List Answer}
      (step : Answers life answer next) (later : Meets next rest final) :
      Meets life (answer :: rest) final

theorem status?_of_isFailure {answer : Answer} (failure : answer.isFailure = true) :
    answer.status? = none := by
  rcases answer with (_ | _) | (_ | _) | (_ | _) <;> simp_all [Answer.isFailure, Answer.status?]

theorem Answers.eq_of_isFailure {life next : Life} {answer : Answer}
    (step : Answers life answer next) (failure : answer.isFailure = true) : next = life := by
  cases step with
  | fails | killed => rfl
  | runs => cases failure
  | fetched told | remembered told => cases (status?_of_isFailure failure).symm.trans told

theorem Meets.eq_reaped {life final : Life} {answers : List Answer} {status : ExitStatus}
    (meets : Meets life answers final) (reaped : life = .reaped status) :
    final = .reaped status := by
  induction meets with
  | done => exact reaped
  | exits => cases reaped
  | answered step _ ih =>
      cases reaped
      cases step <;> exact ih rfl

/-- A process whose status was told is reaped from then on. -/
theorem Meets.reaped_of_mem {life final : Life} {answers : List Answer}
    (meets : Meets life answers final) {answer : Answer} (member : answer ∈ answers)
    {status : ExitStatus} (told : answer.status? = some status) : final = .reaped status := by
  induction meets with
  | done => cases member
  | exits _ _ ih => exact ih member
  | @answered _ _ _ other rest step later ih =>
      rcases List.mem_cons.mp member with rfl | later_member
      · cases step with
        | fails _ failure => cases (status?_of_isFailure failure).symm.trans told
        | runs => cases told
        | killed => cases told
        | fetched same | remembered same =>
            cases same.symm.trans told
            exact later.eq_reaped rfl
      · exact ih later_member

end Life

/-! ## Stopping a process -/

/-- How a stop goes, with its outcome and the operations. -/
inductive Stops (stopping : Stopping) : Except BridgeError Unit → List Call → Prop where
  | killed (kill : stopping.kill = .ok ()) : Stops stopping stopping.reaped [.kill, .reap]
  /-- The process had exited before it could be killed. -/
  | overtaken {denied : OsError} {status : ExitStatus} (kill : stopping.kill = .error denied)
      (recheck : stopping.recheck = .ok (some status)) :
      Stops stopping stopping.reaped [.kill, .poll, .reap]
  | survived {denied : OsError} (kill : stopping.kill = .error denied)
      (recheck : stopping.recheck = .ok none) :
      Stops stopping
        (.error (.commandFailed ("failed to kill daemon process: " ++ denied.message)))
        [.kill, .poll]
  | lost {denied error : OsError} (kill : stopping.kill = .error denied)
      (recheck : stopping.recheck = .error error) :
      Stops stopping (.error (failed error)) [.kill, .poll]

theorem Stopping.stops_run (stopping : Stopping) : Stops stopping stopping.run.1 stopping.run.2 := by
  unfold Stopping.run
  cases kill : stopping.kill with
  | ok _ => exact .killed kill
  | error denied =>
      dsimp only
      rcases recheck : stopping.recheck with error | _ | status
      · exact .lost kill recheck
      · exact .survived kill recheck
      · exact .overtaken kill recheck

namespace Stops

variable {result : Except BridgeError Unit} {stop : List Call}

theorem count_kill (stops : Stops stopping result stop) : stop.count .kill = 1 := by
  cases stops <;> rfl

theorem ne_daemonExited (stops : Stops stopping result stop) (text : String) :
    result ≠ .error (.daemonExited text) := by
  cases stops with
  | killed | overtaken =>
      unfold Stopping.reaped
      split <;> simp
  | survived | lost => simp [failed]

theorem reaps_of_ok (stops : Stops stopping result stop) (ok : result = .ok ()) :
    .reap ∈ stop ∧ ∃ status, stopping.reap = .ok status := by
  cases stops with
  | killed | overtaken =>
      refine ⟨by simp, ?_⟩
      unfold Stopping.reaped at ok
      split at ok
      · exact ⟨_, by assumption⟩
      · cases ok
  | survived | lost => cases ok

theorem failure_of_error (stops : Stops stopping result stop) {error : BridgeError}
    (fails : result = .error error) : ∃ call ∈ stop, (stopping.answer call).isFailure = true := by
  cases stops with
  | killed | overtaken =>
      refine ⟨.reap, by simp, ?_⟩
      unfold Stopping.reaped at fails
      split at fails
      · cases fails
      · simp_all [Stopping.answer, Answer.isFailure]
  | survived kill => exact ⟨.kill, by simp, by simp [Stopping.answer, kill, Answer.isFailure]⟩
  | lost kill => exact ⟨.kill, by simp, by simp [Stopping.answer, kill, Answer.isFailure]⟩

/-- A process that has exited when it is killed is reaped, unless it cannot be waited for. -/
theorem ok_of_exited (stops : Stops stopping result stop) {status : ExitStatus} {final : Life}
    (meets : (Life.exited status).Meets (stop.map stopping.answer) final)
    (found : ∀ call ∈ stop, (stopping.answer call).isLost = false) : result = .ok () := by
  have reaped (reaping : (stopping.answer .reap).isLost = false) : stopping.reaped = .ok () := by
    unfold Stopping.reaped
    split
    · rfl
    · simp_all [Stopping.answer, Answer.isLost, Answer.isFailure]
  cases stops with
  | killed => exact reaped (found .reap (by simp))
  | overtaken => exact reaped (found .reap (by simp))
  | survived kill recheck =>
      -- The process is not running, so a poll that succeeds tells how it exited.
      simp only [List.map_cons, Stopping.answer, kill, recheck] at meets
      cases meets with
      | answered killing later =>
          cases killing.eq_of_isFailure rfl
          cases later with
          | answered polling => cases polling <;> contradiction
  | lost kill recheck =>
      have poll := found .poll (by simp)
      simp [Stopping.answer, recheck, Answer.isLost, Answer.isFailure] at poll

end Stops

/-! ## Supervision -/

/-- What comes of a poll that does not go on. -/
def ending (stopping : Stopping) (last : Poll) : Supervised :=
  match last.status with
  | .error error => (.error (failed error), [])
  | .ok (some status) => (exited status, [])
  | .ok none => stopping.run

theorem supervise_cons (poll : Poll) (later : List Poll) :
    supervise stopping (poll :: later) =
      if poll.goesOn then
        (supervise stopping later).map fun (result, calls) => (result, .poll :: calls)
      else some ((ending stopping poll).1, .poll :: (ending stopping poll).2) := by
  obtain ⟨status, stopRequested⟩ := poll
  rcases status with error | _ | status
  · rfl
  · cases stopRequested <;> rfl
  · rfl

/-- The polls go on until one does not; what comes of that one does not depend on later ones. -/
theorem supervise_append {quiet : List Poll} (goesOn : ∀ poll ∈ quiet, poll.goesOn = true)
    (rest : List Poll) :
    supervise stopping (quiet ++ rest) =
      (supervise stopping rest).map fun (result, calls) =>
        (result, List.replicate quiet.length .poll ++ calls) := by
  induction quiet with
  | nil => simp
  | cons poll quiet ih =>
      obtain ⟨first, later⟩ := List.forall_mem_cons.mp goesOn
      rw [List.cons_append, supervise_cons, if_pos first, ih later, Option.map_map]
      rfl

theorem supervise_eq_none_iff {polls : List Poll} :
    supervise stopping polls = none ↔ ∀ poll ∈ polls, poll.goesOn = true := by
  induction polls with
  | nil => simp [supervise]
  | cons poll later ih =>
      rw [supervise_cons, List.forall_mem_cons]
      split
      case isTrue goesOn => rw [Option.map_eq_none_iff, ih, and_iff_right goesOn]
      case isFalse decides => simp [decides]

/-- The result says that the process ended as it should, or how it exited. -/
def TellsExit (result : Except BridgeError Unit) : Prop :=
  result = .ok () ∨ ∃ text, result = .error (.daemonExited text)

/-- How a process was supervised: the polls that went on, the last one, the operations that
stopped the process, if any, and the result. -/
structure Supervises (stopping : Stopping) (quiet : List Poll) (last : Poll) (stop : List Call)
    (result : Except BridgeError Unit) : Prop where
  killsOnce : stop.count .kill ≤ 1
  /-- The process is stopped only when the last poll found it running and a stop requested. -/
  observed : stop ≠ [] → last.status = .ok none ∧ last.stopRequested = true
  success : ∀ status, last.status = .ok (some status) → status.isSuccess = true → result = .ok ()
  abnormal : ∀ text, result = .error (.daemonExited text) →
    ∃ status, last.status = .ok (some status) ∧ status.isSuccess = false ∧ status.text = text
  /-- The result is good, or tells how the process exited, only if an operation told that it
  exited, and then the process is reaped. -/
  reaps : TellsExit result →
    (∃ answer ∈ journal stopping (quiet ++ [last]) stop, answer.status?.isSome = true) ∧
      ∀ final, Life.running.Meets (journal stopping (quiet ++ [last]) stop) final →
        ∃ status, final = .reaped status
  /-- The result is good though the process exits on its own before it can be killed, unless it
  cannot be waited for. -/
  overtaken : stop ≠ [] → ∀ status final,
    (Life.exited status).Meets (stop.map stopping.answer) final →
      (∀ call ∈ stop, (stopping.answer call).isLost = false) → result = .ok ()
  /-- Any other result comes from an operation that failed. -/
  fails : ¬ TellsExit result →
    ∃ answer ∈ journal stopping (quiet ++ [last]) stop, answer.isFailure = true

section

variable {quiet : List Poll} {last : Poll}

theorem mem_journal_last (stop : List Call) :
    .polled last.status ∈ journal stopping (quiet ++ [last]) stop := by
  simp [journal]

theorem mem_journal_stop {stop : List Call} {call : Call} (member : call ∈ stop)
    (polls : List Poll) : stopping.answer call ∈ journal stopping polls stop :=
  List.mem_append_right _ (List.mem_map_of_mem member)

/-- Once an operation tells that the process exited, the process is reaped. -/
theorem reaps_of_told {answers : List Answer} {answer : Answer} {status : ExitStatus}
    (member : answer ∈ answers) (told : answer.status? = some status) :
    (∃ answer ∈ answers, answer.status?.isSome = true) ∧
      ∀ final, Life.running.Meets answers final → ∃ status, final = .reaped status :=
  ⟨⟨answer, member, by simp [told]⟩, fun _ meets => ⟨status, meets.reaped_of_mem member told⟩⟩

theorem supervises_ending (quiet : List Poll) (decides : last.goesOn = false) :
    Supervises stopping quiet last (ending stopping last).2 (ending stopping last).1 := by
  rcases found : last.status with error | _ | status
  case error =>
    have ends : ending stopping last = (.error (failed error), []) := by simp [ending, found]
    rw [ends]
    have tells : ¬ TellsExit (.error (failed error)) := by simp [TellsExit, failed]
    refine ⟨by simp, by simp, by simp [found], by simp [failed], ?_, by simp, ?_⟩
    · exact fun told => absurd told tells
    · exact fun _ => ⟨_, mem_journal_last [], by rw [found]; rfl⟩
  case ok.some =>
    have ends : ending stopping last = (exited status, []) := by simp [ending, found]
    rw [ends]
    have told : TellsExit (exited status) := by
      unfold exited TellsExit
      split <;> simp
    refine ⟨by simp, by simp, ?_, ?_, fun _ => ?_, by simp, ?_⟩
    · intro other same success
      cases found.symm.trans same
      exact if_pos success
    · intro text abnormal
      unfold exited at abnormal
      split at abnormal
      · cases abnormal
      · cases abnormal
        exact ⟨status, found, Bool.eq_false_iff.mpr ‹_›, rfl⟩
    · exact reaps_of_told (mem_journal_last []) (congrArg (Answer.polled · |>.status?) found)
    · exact fun other => absurd told other
  case ok.none =>
    have requested : last.stopRequested = true := by simpa [Poll.goesOn, found] using decides
    have ends : ending stopping last = stopping.run := by simp [ending, found]
    rw [ends]
    have stops := stopping.stops_run
    generalize stopping.run = run at stops
    obtain ⟨result, stop⟩ := run
    refine ⟨stops.count_kill ▸ Nat.le_refl 1, fun _ => ⟨found, requested⟩, by simp [found], ?_,
      ?_, fun _ _ _ => stops.ok_of_exited, ?_⟩
    · exact fun text abnormal => absurd abnormal (stops.ne_daemonExited text)
    · rintro (ok | ⟨text, abnormal⟩)
      · obtain ⟨member, status, reap⟩ := stops.reaps_of_ok ok
        exact reaps_of_told (mem_journal_stop member _)
          (congrArg (Answer.reaped · |>.status?) reap)
      · exact absurd abnormal (stops.ne_daemonExited text)
    · intro other
      cases result with
      | ok _ => exact absurd (.inl rfl) other
      | error error =>
          obtain ⟨call, member, failure⟩ := stops.failure_of_error rfl
          exact ⟨_, mem_journal_stop member _, failure⟩

end

/-- Whatever the operations on a process answer and whenever a stop is requested, the process is
polled until it has exited, an operation fails or the stop is noticed, and no longer.  The result
is good, or tells how the process exited, only if the process is reaped; it is killed at most once,
and only after a poll that found it running with a stop requested. -/
theorem leaves_no_process (stopping : Stopping) :
    (∀ polls, supervise stopping polls = none ↔ ∀ poll ∈ polls, poll.goesOn = true) ∧
    ∀ (quiet : List Poll) (last : Poll), (∀ poll ∈ quiet, poll.goesOn = true) →
      last.goesOn = false →
        ∃ result stop, Supervises stopping quiet last stop result ∧
          ∀ later, supervise stopping (quiet ++ last :: later) =
            some (result, List.replicate (quiet.length + 1) .poll ++ stop) := by
  refine ⟨fun polls => supervise_eq_none_iff, fun quiet last goesOn decides => ?_⟩
  refine ⟨_, _, supervises_ending quiet decides, fun later => ?_⟩
  rw [supervise_append goesOn, supervise_cons, if_neg (by simp [decides]), List.replicate_succ',
    List.append_assoc]
  rfl

/-- A process that exits as it is about to be killed: the kill fails, and the process is reaped. -/
theorem leaves_no_process_that_exits_first :
    let denied : OsError := .notPermitted
    let stopping : Stopping := ⟨.error denied, .ok (some (.code 3)), .ok (.code 3)⟩
    let quiet : List Poll := [⟨.ok none, false⟩, ⟨.ok none, false⟩]
    let last : Poll := ⟨.ok none, true⟩
    let answers : List Answer :=
      [.polled (.ok none), .polled (.ok none), .polled (.ok none), .killed (.error denied),
        .polled (.ok (some (.code 3))), .reaped (.ok (.code 3))]
    (∀ poll ∈ quiet, poll.goesOn = true) ∧ last.goesOn = false ∧
      supervise stopping (quiet ++ [last]) =
        some (.ok (), [.poll, .poll, .poll, .kill, .poll, .reap]) ∧
      Life.running.Meets answers (.reaped (.code 3)) ∧
      ∀ final, Life.running.Meets answers final → ∃ status, final = .reaped status := by
  intro denied stopping quiet last answers
  have goesOn : ∀ poll ∈ quiet, poll.goesOn = true := by decide
  obtain ⟨result, stop, supervises, ends⟩ := (leaves_no_process stopping).2 quiet last goesOn rfl
  have told : supervise stopping (quiet ++ [last]) =
      some (.ok (), [.poll, .poll, .poll, .kill, .poll, .reap]) := rfl
  refine ⟨goesOn, rfl, told, ?_, ?_⟩
  · exact .answered .runs <| .answered .runs <| .answered .runs <| .exits (.code 3) <|
      .answered (.fails _ rfl) <| .answered (.fetched rfl) <| .answered (.remembered rfl) <|
      .done _
  · cases (ends []).symm.trans told
    exact (supervises.reaps (.inl rfl)).2

end GuiExplorer.Process
