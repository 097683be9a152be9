import GuiExplorer.Proofs.Device.Lifecycle
import Mathlib.Data.Nat.Find

/-!
# Confirmation of a start

A start waits for one line in the log and then checks all lines that are there.  Where three lines
confirm it, it is confirmed only if the first reading that shows any line shows all of them; a
reading between the first line and the last one makes the start fail.
-/

namespace GuiExplorer

namespace Startup

variable {τ : Type}

/-- The world after the log was read so many times. -/
def afterReadings {ρ : Type} (read : τ → ρ × τ) : (readings : Nat) → τ → τ
  | 0, world => world
  | readings + 1, world => afterReadings read readings (read world).2

theorem afterReadings_succ {ρ : Type} (read : τ → ρ × τ) (readings : Nat) (world : τ) :
    afterReadings read (readings + 1) world = (read (afterReadings read readings world)).2 := by
  induction readings generalizing world with
  | zero => rfl
  | succ readings ih => exact ih (read world).2

/-- The wait is over with the first reading that shows enough lines. -/
theorem await_eq
    {wait : Wait} {read : τ → Except CallError (List String) × τ} {lines : Nat → List String}
    {turn patience : Nat} {world : τ} (inTime : turn ≤ patience)
    (reads : ∀ reading ≤ turn, (read (afterReadings read reading world)).1 = .ok (lines reading))
    (few : ∀ earlier < turn, (lines earlier).length < wait.minCount)
    (enough : wait.minCount ≤ (lines turn).length) :
    await wait read patience world = (.ok (lines turn), afterReadings read (turn + 1) world) := by
  induction turn generalizing lines patience world with
  | zero =>
      have shown : read world = (.ok (lines 0), (read world).2) :=
        Prod.ext (reads 0 (Nat.le_refl 0)) rfl
      rw [await, shown]
      exact if_pos enough
  | succ turn ih =>
      have shown : read world = (.ok (lines 0), (read world).2) :=
        Prod.ext (reads 0 (Nat.zero_le _)) rfl
      have tooFew : ¬ wait.minCount ≤ (lines 0).length := Nat.not_le.mpr (few 0 (Nat.succ_pos _))
      cases patience with
      | zero => cases inTime
      | succ patience =>
          rw [await, shown]
          simp only [if_neg tooFew]
          exact ih (Nat.le_of_succ_le_succ inTime)
            (fun reading before => reads (reading + 1) (Nat.succ_le_succ before))
            (fun earlier before => few (earlier + 1) (Nat.succ_lt_succ before)) enough

theorem validate_eq_ok_iff {messages : List String} :
    validate messages = .ok () ↔
      messages.length = expectedCount messages ∧
        ∃ last, messages.getLast? = some last ∧ Text.contains last serverStartMessage = true := by
  unfold validate
  split
  case h_1 none => simp [none]
  case h_2 last some => split <;> simp_all

theorem length_of_validate {messages : List String} (accepted : validate messages = .ok ()) :
    messages.length = 1 ∨ messages.length = 3 := by
  rw [(validate_eq_ok_iff.mp accepted).1, expectedCount]
  split
  · exact .inr rfl
  · exact .inl rfl

/-- Where all lines are a confirmation, the first ones of them are none, unless the very first is
one by itself. -/
theorem validate_prefix_eq_ok_iff
    {shown complete : List String} (begins : shown <+: complete)
    (accepted : validate complete = .ok ()) :
    validate shown = .ok () ↔
      shown = complete ∨ ∃ line, shown = [line] ∧ validate [line] = .ok () := by
  constructor
  · intro confirms
    have bound := begins.length_le
    rcases length_of_validate confirms with one | three
    · obtain ⟨line, rfl⟩ := List.length_eq_one_iff.mp one
      exact .inr ⟨line, rfl, confirms⟩
    · refine .inl (begins.eq_of_length ?_)
      rcases length_of_validate accepted with one | same <;> omega
  · rintro (rfl | ⟨line, rfl, confirms⟩)
    · exact accepted
    · exact confirms

theorem validate_of_unconfirmed
    {shown : List String}
    (unconfirmed : ∀ line ∈ shown, Text.contains line serverStartMessage = false) :
    ∃ error, validate shown = .error error := by
  cases checked : validate shown with
  | error error => exact ⟨error, rfl⟩
  | ok =>
      obtain ⟨-, last, shows, confirms⟩ := validate_eq_ok_iff.mp checked
      cases (unconfirmed last (List.mem_of_getLast? shows)).symm.trans confirms

end Startup

namespace Client

variable {σ : Type}

/-- The world once the worker is launched, if a start gets as far as that. -/
def launched (device : Device σ) (client : Client σ) : σ :=
  let config := client.config
  let forwarded := (device.forward config.serial config.port client.outside).2
  let cleared := (device.clearLog config.serial forwarded).2
  device.launch config.serial config.port config.runner cleared

/-- The world after so many readings of the log since then. -/
def logRead (device : Device σ) (client : Client σ) (readings : Nat) : σ :=
  Startup.afterReadings (device.readLog client.config.serial serverStartTag) readings
    (client.launched device)

/-- How many readings begin after the first one before the deadline has passed. -/
def startPatience (device : Device σ) (client : Client σ) : Nat :=
  device.patience client.config.startTimeout client.config.startDelay (client.launched device)

/-- Nothing but the log decides on a start: its worker is launched and goes on, and until the
deadline each reading of the log shows its lines, which begin with those of the one before. -/
structure Logs (device : Device σ) (client : Client σ) (lines : Nat → List String) : Prop where
  phase : client.phase = .notStarted
  forwards : (device.forward client.config.serial client.config.port client.outside).1 = .ok ()
  clears : (device.clearLog client.config.serial
    (device.forward client.config.serial client.config.port client.outside).2).1 = .ok ()
  reads : ∀ reading ≤ client.startPatience device,
    (device.readLog client.config.serial serverStartTag (client.logRead device reading)).1 =
      .ok (lines reading)
  grows : ∀ reading < client.startPatience device, lines reading <+: lines (reading + 1)
  alive : ∀ reading ≤ client.startPatience device,
    device.ending (client.logRead device (reading + 1)) = none

theorem afterReadings_readLog
    (device : Device σ) (tag : String) (readings : Nat) (client : Client σ) :
    let after := Startup.afterReadings (readLog device tag) readings client
    after.outside =
        Startup.afterReadings (device.readLog client.config.serial tag) readings client.outside ∧
      after.config = client.config ∧ after.worker = client.worker := by
  induction readings generalizing client with
  | zero => exact ⟨rfl, rfl, rfl⟩
  | succ readings ih => exact ih (client.readLog device tag).2

namespace Logs

variable {device : Device σ} {client : Client σ} {lines : Nat → List String}

theorem begins
    (logs : Logs device client lines) {reading later : Nat} (order : reading ≤ later)
    (inTime : later ≤ client.startPatience device) :
    lines reading <+: lines later := by
  induction order with
  | refl => exact List.prefix_rfl
  | step order ih => exact (ih (Nat.le_of_succ_le inTime)).trans (logs.grows _ inTime)

/-- The wait of a start ends with the first reading that shows any line. -/
theorem awaitMessages_eq
    (logs : Logs device client lines) (prepared : Client σ)
    (config : prepared.config = client.config)
    (outside : prepared.outside = client.launched device) {first : Nat}
    (inTime : first ≤ client.startPatience device)
    (empty : ∀ earlier < first, lines earlier = []) (shows : lines first ≠ []) :
    prepared.awaitMessages device ⟨serverStartTag, 1, prepared.config.startTimeout⟩ =
      (.ok (lines first),
        Startup.afterReadings (readLog device serverStartTag) (first + 1) prepared) := by
  refine Startup.await_eq ?_ (fun reading before => ?_) (fun earlier before => ?_) ?_
  · rw [config, outside]
    exact inTime
  · obtain ⟨same, kept, -⟩ := afterReadings_readLog device serverStartTag reading prepared
    rw [readLog, same, kept, config, outside]
    exact logs.reads reading (Nat.le_trans before inTime)
  · rw [empty earlier before]
    exact Nat.one_pos
  · exact List.length_pos_iff.mpr shows

/-- A start is decided by the lines of the first reading that shows any. -/
theorem start_eq
    (logs : Logs device client lines) {first : Nat} (inTime : first ≤ client.startPatience device)
    (empty : ∀ earlier < first, lines earlier = []) (shows : lines first ≠ []) :
    (client.start device).1 = (Startup.validate (lines first)).mapError .startup := by
  have expected : client.expect .notStarted = .ok () := if_pos logs.phase
  let forwarding := ((client.enter .starting).forwardPort device).2
  let clearing := (forwarding.clearLog device).2
  let prepared := clearing.spawn device
  let confirming := Startup.afterReadings (readLog device serverStartTag) (first + 1) prepared
  have forwarded : (client.enter .starting).forwardPort device = (.ok (), forwarding) :=
    Prod.ext (congrArg (Except.mapError DaemonError.ofCall) logs.forwards) rfl
  have cleared : forwarding.clearLog device = (.ok (), clearing) :=
    Prod.ext (congrArg (Except.mapError DaemonError.ofCall) logs.clears) rfl
  have awaited : prepared.awaitMessages device ⟨serverStartTag, 1, clearing.config.startTimeout⟩ =
      (.ok (lines first), confirming) :=
    logs.awaitMessages_eq prepared rfl rfl inTime empty shows
  have alive : confirming.isAlive device = true := by
    obtain ⟨same, -, worker⟩ := afterReadings_readLog device serverStartTag (first + 1) prepared
    have runs : device.ending confirming.outside = none := by
      rw [same]
      exact logs.alive first inTime
    rw [isAlive, runs, worker]
    rfl
  have launches : ((client.enter .starting).launch device) =
      ((Startup.validate (lines first)).mapError .startup, confirming) := by
    simp only [launch, forwarded, cleared, awaited, prepared]
    cases Startup.validate (lines first) with
    | error error => rfl
    | ok => simp only [alive, if_true, Except.mapError]
  simp only [start, expected, launches]
  cases Startup.validate (lines first) with
  | error error =>
      have held : confirming.worker = some .spawned :=
        (afterReadings_readLog device serverStartTag (first + 1) prepared).2.2
      simp only [Except.mapError, held]
  | ok => rfl

end Logs

/-- If some reading before the deadline shows a confirmation, a start is decided by the lines of
the first reading that shows any.  It succeeds if these are the whole confirmation already, as
they are if that is one line; of three lines the first ones fail, unless the very first confirms
the start by itself. -/
theorem start_decided_by_first_lines
    {device : Device σ} {client : Client σ} {lines : Nat → List String}
    (logs : Logs device client lines) {complete : Nat}
    (inTime : complete ≤ client.startPatience device)
    (accepted : Startup.validate (lines complete) = .ok ()) :
    let result := (client.start device).1
    ∃ first ≤ complete,
      (∀ earlier < first, lines earlier = []) ∧ lines first ≠ [] ∧
      lines first <+: lines complete ∧
      result = (Startup.validate (lines first)).mapError .startup ∧
      (result = .ok () ↔
        lines first = lines complete ∨
          ∃ line, lines first = [line] ∧ Startup.validate [line] = .ok ()) ∧
      ((lines complete).length = 1 → result = .ok ()) ∧
      ((∀ line ∈ lines first, Text.contains line serverStartMessage = false) →
        ∃ error, result = .error (.startup error)) := by
  have nonempty : lines complete ≠ [] := by
    rintro none
    rw [none] at accepted
    cases accepted
  have some : ∃ reading, lines reading ≠ [] := ⟨complete, nonempty⟩
  let first := Nat.find some
  have shows : lines first ≠ [] := Nat.find_spec some
  have empty : ∀ earlier < first, lines earlier = [] := fun earlier before =>
    not_not.mp (Nat.find_min some before)
  have order : first ≤ complete := Nat.find_min' some nonempty
  have begins : lines first <+: lines complete := logs.begins order inTime
  have decided := logs.start_eq (Nat.le_trans order inTime) empty shows
  have succeeds : (client.start device).1 = .ok () ↔ Startup.validate (lines first) = .ok () := by
    rw [decided]
    cases Startup.validate (lines first) <;> simp [Except.mapError]
  refine ⟨first, order, empty, shows, begins, decided,
    succeeds.trans (Startup.validate_prefix_eq_ok_iff begins accepted), fun one => ?_,
    fun unconfirmed => ?_⟩
  · have whole : lines first = lines complete :=
      begins.eq_of_length_le (one ▸ List.length_pos_iff.mpr shows)
    rw [succeeds, whole]
    exact accepted
  · obtain ⟨error, rejected⟩ := Startup.validate_of_unconfirmed unconfirmed
    exact ⟨error, by rw [decided, rejected]; rfl⟩

/-- A device on which the daemon starts and goes on, with the lines that each reading of the log
shows; its state tells how often the log was read. -/
def loggingDevice (lines : Nat → List String) (patience : Nat) : Device Nat where
  forward _ _ readings := (.ok (), readings)
  clearLog _ readings := (.ok (), readings)
  readLog _ _ readings := (.ok (lines readings), readings + 1)
  patience _ _ _ := patience
  launch _ _ _ readings := readings
  ending _ := none
  requestStop readings := readings
  awaitEnd readings := (.finished, readings)
  awaitEndFor _ readings := (some .finished, readings)
  connect _ _ readings := (.error (.socket .connectionRefused), readings)
  send _ readings := (.error .stalled, readings)

theorem logRead_logging (lines : Nat → List String) (patience readings : Nat) :
    (ofConfig {} 0).logRead (loggingDevice lines patience) readings = readings := by
  induction readings with
  | zero => rfl
  | succ readings ih =>
      rw [logRead] at ih ⊢
      rw [Startup.afterReadings_succ, ih]
      rfl

theorem logs_logging
    {lines : Nat → List String} {patience : Nat}
    (grows : ∀ reading < patience, lines reading <+: lines (reading + 1)) :
    Logs (loggingDevice lines patience) (ofConfig {} 0) lines where
  phase := rfl
  forwards := rfl
  clears := rfl
  reads reading _ := congrArg (fun count => Except.ok (lines count))
    (logRead_logging lines patience reading)
  grows := grows
  alive _ _ := rfl

/-- Three lines that show at once confirm a start. -/
theorem start_decided_by_first_lines_of_three :
    let confirmation := ["Permission denied", logSwitchNote, serverStartMessage]
    let lines : Nat → List String := fun reading => if reading < 2 then [] else confirmation
    let device := loggingDevice lines 2
    let client := ofConfig {} 0
    Logs device client lines ∧ 2 ≤ client.startPatience device ∧
      Startup.validate (lines 2) = .ok () ∧ (client.start device).1 = .ok () := by
  intro confirmation lines device client
  have logs : Logs device client lines := logs_logging (by decide)
  have inTime : 2 ≤ client.startPatience device := Nat.le_refl 2
  have accepted : Startup.validate (lines 2) = .ok () := by decide +kernel
  obtain ⟨first, order, -, shows, -, -, decides, -, -⟩ :=
    start_decided_by_first_lines logs inTime accepted
  have second : first = 2 := by
    by_contra other
    exact shows (if_pos (Nat.lt_of_le_of_ne order other))
  exact ⟨logs, inTime, accepted, decides.mpr (.inl (congrArg lines second))⟩

/-- Three lines that show one after another are a confirmation in the end, but the start has
failed with the first one. -/
theorem start_fails_between_lines :
    let confirmation := ["Permission denied", logSwitchNote, serverStartMessage]
    let lines : Nat → List String := fun reading => confirmation.take reading
    let device := loggingDevice lines 3
    let client := ofConfig {} 0
    Logs device client lines ∧ 3 ≤ client.startPatience device ∧
      Startup.validate (lines 3) = .ok () ∧
      (client.start device).1 = .error (.startup (.unconfirmed ["Permission denied"])) := by
  intro confirmation lines device client
  have logs : Logs device client lines :=
    logs_logging fun reading _ => List.take_prefix_take_left (Nat.le_succ reading)
  exact ⟨logs, Nat.le_refl 3, by decide +kernel, by decide +kernel⟩

end Client

end GuiExplorer
