import GuiExplorer.CommandLine.Program
import GuiExplorer.Proofs.Device.Listing
import GuiExplorer.Proofs.Exploration.Footprint

/-!
# When the program reaches a device

The program may call the bridge to list the devices, at most once, and it may call it for a device.
For which device, and whether at all, follows from how it was invoked and from the listing, and is
told here for every host that notes the programs called on it, however these answer.
-/

namespace GuiExplorer

variable {σ : Type}

/-- A program that was run or started. -/
structure ProgramCall where
  program : String
  arguments : List String
deriving DecidableEq, Repr

/-- The call goes to the device with the serial, to forward a port, for its log or for its shell. -/
def ProgramCall.Directs (call : ProgramCall) (serial : String) : Prop :=
  ∃ service ∈ ["forward", "logcat", "shell"], ∃ more,
    call.arguments = Bridge.onDevice serial (service :: more)

/-- A host notes each program that is called, and nothing else. -/
structure Machine.Notes (machine : Machine σ) (calls : σ → List ProgramCall) : Prop where
  run : ∀ program arguments state,
    calls (machine.run program arguments state).2 = calls state ++ [⟨program, arguments⟩]
  launch : ∀ program arguments state,
    calls (machine.launch program arguments state) = calls state ++ [⟨program, arguments⟩]
  requestStop : ∀ state, calls (machine.requestStop state) = calls state
  awaitEnd : ∀ state, calls (machine.awaitEnd state).2 = calls state
  awaitEndFor : ∀ limit state, calls (machine.awaitEndFor limit state).2 = calls state
  connect : ∀ host port state, calls (machine.connect host port state).2 = calls state
  send : ∀ bytes state, calls (machine.send bytes state).2 = calls state
  makeFolder : ∀ folder state, calls (machine.makeFolder folder state).2 = calls state
  write : ∀ folder name text state, calls (machine.write folder name text state).2 = calls state

/-- The host that notes the programs called on another one. -/
def Machine.noting (machine : Machine σ) : Machine (σ × List ProgramCall) where
  run program arguments state :=
    let (output, after) := machine.run program arguments state.1
    (output, after, state.2 ++ [⟨program, arguments⟩])
  launch program arguments state :=
    (machine.launch program arguments state.1, state.2 ++ [⟨program, arguments⟩])
  ending state := machine.ending state.1
  requestStop state := (machine.requestStop state.1, state.2)
  awaitEnd state :=
    let (ending, after) := machine.awaitEnd state.1
    (ending, after, state.2)
  awaitEndFor limit state :=
    let (ending, after) := machine.awaitEndFor limit state.1
    (ending, after, state.2)
  patience limit pause state := machine.patience limit pause state.1
  connect host port state :=
    let (connected, after) := machine.connect host port state.1
    (connected, after, state.2)
  send bytes state :=
    let (arrived, after) := machine.send bytes state.1
    (arrived, after, state.2)
  elapsed state := machine.elapsed state.1
  timestamp state := machine.timestamp state.1
  decode := machine.decode
  makeFolder folder state :=
    let (made, after) := machine.makeFolder folder state.1
    (made, after, state.2)
  write folder name text state :=
    let (written, after) := machine.write folder name text state.1
    (written, after, state.2)

theorem Machine.noting_notes (machine : Machine σ) : machine.noting.Notes Prod.snd where
  run _ _ _ := rfl
  launch _ _ _ := rfl
  requestStop _ := rfl
  awaitEnd _ := rfl
  awaitEndFor _ _ := rfl
  connect _ _ _ := rfl
  send _ _ := rfl
  makeFolder _ _ := rfl
  write _ _ _ _ := rfl

/-- The programs called in between are the bridge for the device with the serial. -/
def Directed (calls : σ → List ProgramCall) (adb serial : String) (before after : σ) : Prop :=
  ∃ directed, calls after = calls before ++ directed ∧
    ∀ call ∈ directed, call.program = adb ∧ call.Directs serial

namespace Directed

variable {calls : σ → List ProgramCall} {adb serial : String} {before between after : σ}

theorem of_eq (same : calls after = calls before) : Directed calls adb serial before after :=
  ⟨[], by simp [same], by simp⟩

theorem of_call {arguments : List String}
    (called : calls after = calls before ++ [⟨adb, arguments⟩])
    (directs : ProgramCall.Directs ⟨adb, arguments⟩ serial) :
    Directed calls adb serial before after :=
  ⟨[⟨adb, arguments⟩], called, by simpa using directs⟩

theorem trans (former : Directed calls adb serial before between)
    (latter : Directed calls adb serial between after) :
    Directed calls adb serial before after := by
  obtain ⟨first, called, firstDirects⟩ := former
  obtain ⟨second, calledThen, secondDirects⟩ := latter
  refine ⟨first ++ second, by rw [calledThen, called, List.append_assoc], ?_⟩
  intro call member
  exact (List.mem_append.mp member).elim (firstDirects call) (secondDirects call)

end Directed

theorem Machine.executed_state (machine : Machine σ) (adb serial tag : String) (state : σ) :
    (machine.executed adb serial tag state).2 =
      (Bridge.readLog (machine.run adb) serial tag state).2 := by
  unfold Machine.executed
  split
  case h_1 read => rw [read]
  case h_2 read => rw [read]

namespace Machine.Notes

variable {machine : Machine σ} {calls : σ → List ProgramCall} (notes : machine.Notes calls)

include notes

theorem bridge_directed (adb serial : String) {service : String} {more : List String}
    (served : service ∈ ["forward", "logcat", "shell"]) (state : σ) :
    Directed calls adb serial state
      (Bridge.run (machine.run adb) serial (service :: more) state).2 :=
  .of_call (notes.run adb _ state) ⟨service, served, more, rfl⟩

/-- In the world of a device every operation calls the bridge for this device, or nothing. -/
theorem respects (adb serial tag : String) :
    (machine.world adb serial tag).Respects serial (Directed calls adb serial) where
  refl _ := .of_eq rfl
  trans := .trans
  forward _ state := notes.bridge_directed adb serial (by simp) state
  clearLog state := notes.bridge_directed adb serial (by simp) state
  readLog _ state := notes.bridge_directed adb serial (by simp) state
  launch _ _ state := .of_call (notes.launch adb _ state) ⟨"shell", by simp, _, rfl⟩
  requestStop state := .of_eq (notes.requestStop state)
  awaitEnd state := .of_eq (notes.awaitEnd state)
  awaitEndFor limit state := .of_eq (notes.awaitEndFor limit state)
  connect host port state := .of_eq (notes.connect host port state)
  send bytes state := .of_eq (notes.send bytes state)
  executed state := by
    have reads : Directed calls adb serial state
        (Bridge.readLog (machine.run adb) serial tag state).2 :=
      notes.bridge_directed adb serial (by simp) state
    exact machine.executed_state adb serial tag state ▸ reads
  makeFolder folder state := .of_eq (notes.makeFolder folder state)
  write folder name text state := .of_eq (notes.write folder name text state)

end Machine.Notes

namespace CommandLine

/-! ## What is needed to explore -/

/-- The call that lists the devices. -/
def listing (settings : Settings) : ProgramCall :=
  ⟨settings.adbPath, Bridge.listArguments⟩

/-- The call that forwards the port of the daemon. -/
def forwarding (settings : Settings) : ProgramCall :=
  ⟨settings.adbPath,
    Bridge.onDevice settings.deviceSerial (Bridge.forwardArguments settings.daemonPort)⟩

/-- The settings tell the serial of the device, or else the listing tells it. -/
def Chosen (machine : Machine σ) (settings : Settings) (state : σ) (serial : String) : Prop :=
  if settings.deviceSerial = "" then
    ∃ output, (machine.run settings.adbPath Bridge.listArguments state).1 = .ok output ∧
      Bridge.ListsReady (Bridge.printed output.stdout) serial
  else serial = settings.deviceSerial

/-- The strategies can be loaded, and what the coverage is measured by if it is to be monitored. -/
structure Prepared (invocation : Invocation) (settings : Settings) : Prop where
  pool : ∃ pool, settings.pool invocation.files = .ok pool
  coverage : settings.coverageDir ≠ "" → ∃ instrumentation,
    Instrumentation.load (invocation.folders settings.coverageDir) settings.appPackage =
      .ok instrumentation

/-- The program is to explore, knows the app and the device, and has loaded all that it needs. -/
structure Configured (machine : Machine σ) (invocation : Invocation) (state : σ)
    (serial : String) : Prop where
  listsNothing : "--list-devices" ∉ invocation.arguments
  savesNothing : "--save-settings" ∉ invocation.arguments
  package : invocation.settings.appPackage ≠ ""
  prepared : Prepared invocation invocation.settings
  chosen : Chosen machine invocation.settings state serial

theorem Chosen.ne_empty {machine : Machine σ} {settings : Settings} {state : σ} {serial : String}
    (chosen : Chosen machine settings state serial) : serial ≠ "" := by
  unfold Chosen at chosen
  split at chosen
  case isTrue =>
    obtain ⟨output, -, lists⟩ := chosen
    exact lists.serial_ne_empty
  case isFalse named => exact chosen ▸ named

theorem monitor_ok_iff {invocation : Invocation} {settings : Settings} :
    (∃ monitored, monitor invocation settings = .ok monitored) ↔
      (settings.coverageDir ≠ "" → ∃ instrumentation,
        Instrumentation.load (invocation.folders settings.coverageDir) settings.appPackage =
          .ok instrumentation) := by
  unfold monitor
  split
  case isTrue unmonitored =>
    simp [String.isEmpty_iff.mp unmonitored]
  case isFalse monitored =>
    rw [String.isEmpty_iff] at monitored
    cases Instrumentation.load (invocation.folders settings.coverageDir) settings.appPackage with
    | error error => simp [monitored, Except.map]
    | ok instrumentation => simp [Except.map]

theorem prepare_ok_iff {invocation : Invocation} {settings : Settings} :
    (∃ prepared, prepare invocation settings = .ok prepared) ↔ Prepared invocation settings := by
  unfold prepare
  constructor
  · rintro ⟨prepared, loads⟩
    split at loads
    case h_1 => cases loads
    case h_2 pool loaded =>
      split at loads
      case h_1 => cases loads
      case h_2 monitor monitored => exact ⟨⟨pool, loaded⟩, monitor_ok_iff.mp ⟨monitor, monitored⟩⟩
  · rintro ⟨⟨pool, loaded⟩, coverage⟩
    obtain ⟨monitor, monitored⟩ := monitor_ok_iff.mpr coverage
    exact ⟨(pool, monitor), by simp only [loaded, monitored]⟩

/-- The device is chosen exactly if the settings or the listing tell its serial. -/
theorem chooseDevice_ok_iff {machine : Machine σ} {settings : Settings} {state : σ}
    {serial : String} :
    (chooseDevice machine settings state).1 = .ok serial ↔
      Chosen machine settings state serial := by
  unfold chooseDevice Chosen
  simp only [String.isEmpty_iff]
  split
  case isFalse named => simp [eq_comm]
  case isTrue unnamed =>
    constructor
    · intro chosen
      split at chosen
      case h_1 => cases chosen
      case h_2 devices after listed =>
        obtain ⟨output, ran, printed⟩ :=
          Bridge.listDevices_ok_iff.mp (congrArg Prod.fst listed)
        split at chosen
        case h_2 => cases chosen
        case h_1 device found =>
          cases chosen
          refine ⟨output, ran, Bridge.find?_ready_iff.mp ⟨device, ?_, rfl⟩⟩
          rw [printed, found]
    · rintro ⟨output, ran, lists⟩
      obtain ⟨device, found, own⟩ := Bridge.find?_ready_iff.mpr lists
      have listed := Bridge.listDevices_ok_iff.mpr ⟨output, ran, rfl⟩
      generalize Bridge.listDevices (machine.run settings.adbPath) state = answer at listed
      obtain ⟨_, after⟩ := answer
      cases listed
      simp only [found, own]

/-! ## Where the program comes to -/

/-- The state in which an exploration has ended, or else to which it has come after so many of its
rounds. -/
def explored (machine : Machine σ) (limit : Nat) (invocation : Invocation) (settings : Settings)
    (state : σ) : σ :=
  match prepare invocation settings with
  | .error _ => state
  | .ok (pool, monitor) =>
      let world := machine.world settings.adbPath settings.deviceSerial settings.coverageLogTag
      ((explorer settings pool monitor state).explored world limit).outside

/-- The state in which the program has ended, or else to which it has come after so many rounds of
an exploration. -/
def reached (machine : Machine σ) (limit : Nat) (invocation : Invocation) (state : σ) : σ :=
  let settings := invocation.settings
  if invocation.has "--list-devices" then (listDevices machine settings state).2
  else if invocation.has "--save-settings" then
    (saveSettings machine invocation.configFolder settings state).2
  else if settings.appPackage.isEmpty then state
  else
    match chooseDevice machine settings state with
    | (.error _, state) => state
    | (.ok serial, state) =>
        explored machine limit invocation { settings with deviceSerial := serial } state

theorem eq_explored_of_explore
    {machine : Machine σ} {limit : Nat} {invocation : Invocation} {settings : Settings}
    {state after : σ} {outcome : Outcome}
    (explores : explore machine limit invocation settings state = some (outcome, after)) :
    after = explored machine limit invocation settings state := by
  unfold explore at explores
  unfold explored
  generalize prepare invocation settings = prepared at explores
  obtain ⟨_⟩ | ⟨pool, monitor⟩ := prepared
  case error => cases explores; rfl
  case ok =>
    obtain ⟨⟨result, final⟩, explores, told⟩ := Option.map_eq_some_iff.mp explores
    dsimp only
    rw [← Explorer.eq_explored_of_explore explores]
    cases result <;> cases told <;> rfl

theorem eq_reached_of_run
    {machine : Machine σ} {limit : Nat} {invocation : Invocation} {state after : σ}
    {outcome : Outcome} (ran : run machine limit invocation state = some (outcome, after)) :
    after = reached machine limit invocation state := by
  unfold run at ran
  unfold reached
  dsimp only at ran ⊢
  by_cases lists : invocation.has "--list-devices" = true
  case pos =>
    rw [if_pos lists] at ran ⊢
    exact congrArg Prod.snd (Option.some.inj ran).symm
  rw [if_neg lists] at ran ⊢
  by_cases saves : invocation.has "--save-settings" = true
  case pos =>
    rw [if_pos saves] at ran ⊢
    exact congrArg Prod.snd (Option.some.inj ran).symm
  rw [if_neg saves] at ran ⊢
  by_cases packageless : invocation.settings.appPackage.isEmpty = true
  case pos =>
    rw [if_pos packageless] at ran ⊢
    exact congrArg Prod.snd (Option.some.inj ran).symm
  rw [if_neg packageless] at ran ⊢
  split
  case h_1 unchosen =>
    rw [unchosen] at ran
    exact congrArg Prod.snd (Option.some.inj ran).symm
  case h_2 chosen =>
    rw [chosen] at ran
    exact eq_explored_of_explore ran

/-! ## What the program calls -/

/-- The program lists the devices if it is to, or if it needs to know the device. -/
def Lists (invocation : Invocation) : Prop :=
  "--list-devices" ∈ invocation.arguments ∨
    ("--save-settings" ∉ invocation.arguments ∧ invocation.settings.appPackage ≠ "" ∧
      invocation.settings.deviceSerial = "")

/-- What an invocation may call: the bridge once to list the devices, if it has to, and then the
bridge for the device that it is configured for, if it is. -/
structure Permits (machine : Machine σ) (invocation : Invocation) (state : σ)
    (listed directed : List ProgramCall) : Prop where
  once : listed = [] ∨ listed = [listing invocation.settings]
  lists : listed ≠ [] ↔ Lists invocation
  configured : directed ≠ [] ↔ ∃ serial, Configured machine invocation state serial
  directs : ∀ serial, Configured machine invocation state serial → serial ≠ "" ∧
    ∀ call ∈ directed, call.program = invocation.settings.adbPath ∧ call.Directs serial

namespace Permits

variable {machine : Machine σ} {invocation : Invocation} {state : σ}

theorem of_unconfigured {listed : List ProgramCall}
    (unconfigured : ∀ serial, ¬ Configured machine invocation state serial)
    (once : listed = [] ∨ listed = [listing invocation.settings])
    (lists : listed ≠ [] ↔ Lists invocation) :
    Permits machine invocation state listed [] where
  once := once
  lists := lists
  configured := by simp [unconfigured]
  directs serial configured := absurd configured (unconfigured serial)

theorem of_unconfigured_listing
    (unconfigured : ∀ serial, ¬ Configured machine invocation state serial)
    (lists : Lists invocation) :
    Permits machine invocation state [listing invocation.settings] [] :=
  of_unconfigured unconfigured (.inr rfl) (iff_of_true (List.cons_ne_nil _ _) lists)

theorem of_unconfigured_silent
    (unconfigured : ∀ serial, ¬ Configured machine invocation state serial)
    (silent : ¬ Lists invocation) : Permits machine invocation state [] [] :=
  of_unconfigured unconfigured (.inl rfl) (iff_of_false (not_not_intro rfl) silent)

end Permits

section

variable {machine : Machine σ} {calls : σ → List ProgramCall} (notes : machine.Notes calls)

include notes

theorem calls_listDevices (settings : Settings) (state : σ) :
    calls (listDevices machine settings state).2 = calls state ++ [listing settings] := by
  have called := notes.run settings.adbPath Bridge.listArguments state
  rw [← Bridge.listDevices_state] at called
  unfold listDevices
  split
  case h_1 listed => rwa [listed] at called
  case h_2 listed => rwa [listed] at called
  case h_3 listed => rwa [listed] at called

theorem calls_saveSettings (folder : Option String) (settings : Settings) (state : σ) :
    calls (saveSettings machine folder settings state).2 = calls state := by
  unfold saveSettings
  cases folder with
  | none => rfl
  | some folder =>
      have made := notes.makeFolder folder state
      dsimp only
      generalize machine.makeFolder folder state = making at made
      obtain ⟨_ | _, between⟩ := making
      case error => exact made
      case ok =>
        have written := notes.write folder settingsFileName settings.save between
        dsimp only at made ⊢
        generalize machine.write folder settingsFileName settings.save between = writing at written
        obtain ⟨_ | _, after⟩ := writing <;> exact written.trans made

theorem calls_chooseDevice (settings : Settings) (state : σ) :
    calls (chooseDevice machine settings state).2 =
      calls state ++ if settings.deviceSerial = "" then [listing settings] else [] := by
  have called := notes.run settings.adbPath Bridge.listArguments state
  rw [← Bridge.listDevices_state] at called
  unfold chooseDevice
  simp only [String.isEmpty_iff]
  split
  case isFalse => exact (List.append_nil _).symm
  case isTrue =>
    split
    case h_1 listed => rwa [listed] at called
    case h_2 listed =>
      rw [listed] at called
      split <;> exact called

/-- An exploration calls the bridge for its device alone, and does so as soon as all is loaded. -/
theorem calls_explored (limit : Nat) (invocation : Invocation) (settings : Settings) (state : σ) :
    ∃ directed,
      calls (explored machine limit invocation settings state) = calls state ++ directed ∧
      (directed ≠ [] ↔ Prepared invocation settings) ∧
      ∀ call ∈ directed,
        call.program = settings.adbPath ∧ call.Directs settings.deviceSerial := by
  unfold explored
  cases loaded : prepare invocation settings with
  | error error =>
      have unprepared : ¬ Prepared invocation settings := by
        rw [← prepare_ok_iff, loaded]
        rintro ⟨prepared, ⟨⟩⟩
      exact ⟨[], (List.append_nil _).symm, by simp [unprepared], by simp⟩
  | ok prepared =>
      obtain ⟨pool, monitor⟩ := prepared
      have respects :=
        notes.respects settings.adbPath settings.deviceSerial settings.coverageLogTag
      have forwards := notes.run settings.adbPath (forwarding settings).arguments state
      obtain ⟨directed, called, directs⟩ := Explorer.explored_respects respects limit
        (show (explorer settings pool monitor state).client.phase = .notStarted from rfl) rfl
      -- Forwarding the port is the first call, so that there is one in any case.
      refine ⟨forwarding settings :: directed, ?_,
        iff_of_true (List.cons_ne_nil _ _) (prepare_ok_iff.mp ⟨_, loaded⟩), ?_⟩
      · rw [List.append_cons]
        exact called.trans (congrArg (· ++ directed) forwards)
      · intro call member
        rcases List.mem_cons.mp member with rfl | later
        · exact ⟨rfl, "forward", by simp, _, rfl⟩
        · exact directs call later

/-- To explore an app the bridge is called to list the devices only if the settings do not name one,
and after that only for the device that is chosen. -/
theorem permits_of_package (limit : Nat) {invocation : Invocation} {state : σ}
    (listsNothing : "--list-devices" ∉ invocation.arguments)
    (savesNothing : "--save-settings" ∉ invocation.arguments)
    (package : invocation.settings.appPackage ≠ "") :
    ∃ listed directed,
      calls (match chooseDevice machine invocation.settings state with
        | (.error _, state) => state
        | (.ok serial, state) =>
            explored machine limit invocation
              { invocation.settings with deviceSerial := serial } state) =
        calls state ++ (listed ++ directed) ∧
      Permits machine invocation state listed directed := by
  have called := calls_chooseDevice notes invocation.settings state
  have chosen (serial : String) :
      Configured machine invocation state serial →
        (chooseDevice machine invocation.settings state).1 = .ok serial :=
    fun configured => chooseDevice_ok_iff.mpr configured.chosen
  have configured (serial : String) (prepared : Prepared invocation invocation.settings) :
      (chooseDevice machine invocation.settings state).1 = .ok serial →
        Configured machine invocation state serial :=
    fun chose => ⟨listsNothing, savesNothing, package, prepared, chooseDevice_ok_iff.mp chose⟩
  -- From here on the listing and the choice are what they are, and the choice is all that decides.
  generalize listed : (if invocation.settings.deviceSerial = "" then
    [listing invocation.settings] else []) = devices at called
  have once : devices = [] ∨ devices = [listing invocation.settings] := by
    subst listed
    split <;> simp
  have lists : devices ≠ [] ↔ Lists invocation := by
    subst listed
    simp [Lists, listsNothing, savesNothing, package]
  generalize chooseDevice machine invocation.settings state = choice at called chosen configured
  obtain ⟨_ | serial, after⟩ := choice
  case error =>
    refine ⟨devices, [], called.trans (by rw [List.append_nil]),
      .of_unconfigured (fun serial configured => ?_) once lists⟩
    cases chosen serial configured
  case ok =>
    obtain ⟨directed, explores, reaches, directs⟩ := calls_explored notes limit invocation
      { invocation.settings with deviceSerial := serial } after
    refine ⟨devices, directed, ?_, once, lists, ?_, ?_⟩
    · rw [explores, called, List.append_assoc]
    · constructor
      · intro some
        have prepared := reaches.mp some
        exact ⟨serial, configured serial ⟨prepared.pool, prepared.coverage⟩ rfl⟩
      · rintro ⟨other, configured⟩
        exact reaches.mpr ⟨configured.prepared.pool, configured.prepared.coverage⟩
    · intro other configured
      cases chosen other configured
      exact ⟨configured.chosen.ne_empty, directs⟩

end

/-- The program lists the devices at most once and only if it is told to or has to.  It reaches a
device exactly if it is to explore, knows the app and the device, and has loaded all that it needs;
and then that device alone. -/
theorem reaches_device_iff_configured
    {machine : Machine σ} {calls : σ → List ProgramCall} (notes : machine.Notes calls)
    (limit : Nat) (invocation : Invocation) (state : σ) :
    (∀ outcome after, run machine limit invocation state = some (outcome, after) →
      after = reached machine limit invocation state) ∧
    ∃ listed directed,
      calls (reached machine limit invocation state) = calls state ++ (listed ++ directed) ∧
      Permits machine invocation state listed directed := by
  refine ⟨fun outcome after ran => eq_reached_of_run ran, ?_⟩
  unfold reached
  simp only [Invocation.has, List.contains_iff_mem, String.isEmpty_iff]
  by_cases lists : "--list-devices" ∈ invocation.arguments
  case pos =>
    rw [if_pos lists]
    exact ⟨[listing invocation.settings], [], calls_listDevices notes _ state,
      .of_unconfigured_listing (fun _ configured => configured.listsNothing lists) (.inl lists)⟩
  rw [if_neg lists]
  by_cases saves : "--save-settings" ∈ invocation.arguments
  case pos =>
    rw [if_pos saves, calls_saveSettings notes]
    refine ⟨[], [], (List.append_nil _).symm,
      .of_unconfigured_silent (fun _ configured => configured.savesNothing saves) ?_⟩
    exact fun has => has.elim lists fun ⟨unsaved, _⟩ => unsaved saves
  rw [if_neg saves]
  by_cases packageless : invocation.settings.appPackage = ""
  case pos =>
    rw [if_pos packageless]
    refine ⟨[], [], (List.append_nil _).symm,
      .of_unconfigured_silent (fun _ configured => configured.package packageless) ?_⟩
    exact fun has => has.elim lists fun ⟨_, package, _⟩ => package packageless
  rw [if_neg packageless]
  exact permits_of_package notes limit lists saves packageless

/-- A listing of a device that is offline, before one that is ready. -/
def twoDevices : String :=
  "List of devices attached\nAAA offline\nBBB device model:Pixel\n"

/-- A host on which the bridge lists devices and does nothing else. -/
def bareHost : Machine Unit where
  run _ arguments _ :=
    (if arguments = Bridge.listArguments then .ok ⟨.code 0, Text.utf8Bytes twoDevices, []⟩
      else .error .notFound, ())
  launch _ _ _ := ()
  ending _ := none
  requestStop _ := ()
  awaitEnd _ := (.finished, ())
  awaitEndFor _ _ := (none, ())
  patience _ _ _ := 0
  connect _ _ _ := (.error (.socket .connectionRefused), ())
  send _ _ := (.error .stalled, ())
  elapsed _ := ⟨0⟩
  timestamp _ := ""
  decode _ := .unreadable
  makeFolder _ _ := (.error .notDirectory, ())
  write _ _ _ _ := (.error .notFound, ())

/-- The ready device is reached, though it is not the first of the listing. -/
theorem reaches_device_of_two_devices :
    let invocation : Invocation :=
      { arguments := ["droid-explorer"]
        environment := fun name => [("APP_PACKAGE", "com.example")].lookup name
        configFolder := none
        settingsFile := .missing
        files := fun _ => .missing
        folders := fun _ => none }
    ∃ directed, directed ≠ [] ∧
      (reached bareHost.noting 10 invocation ((), [])).2 =
        ⟨"adb", ["devices", "-l"]⟩ :: directed ∧
      ∀ call ∈ directed, call.program = "adb" ∧ call.Directs "BBB" := by
  intro invocation
  have settings : invocation.settings = { appPackage := "com.example" } := by decide +kernel
  have lists : Bridge.ListsReady (Bridge.printed (Text.utf8Bytes twoDevices)) "BBB" :=
    ⟨"List of devices attached".toList, ["AAA offline".toList], "BBB device model:Pixel".toList,
      [], ["model:Pixel".toList], by decide +kernel, by decide +kernel, by decide +kernel⟩
  have configured : Configured bareHost.noting invocation ((), []) "BBB" :=
    { listsNothing := by decide
      savesNothing := by decide
      package := by rw [settings]; decide
      prepared := by
        rw [settings]
        exact ⟨⟨_, rfl⟩, fun monitored => absurd rfl monitored⟩
      chosen := by
        rw [settings]
        exact ⟨_, rfl, lists⟩ }
  obtain ⟨-, listed, directed, called, permits⟩ :=
    reaches_device_iff_configured bareHost.noting_notes 10 invocation ((), [])
  have listing : listed = [⟨"adb", ["devices", "-l"]⟩] := by
    have needed : Lists invocation := .inr ⟨by decide, by rw [settings]; decide, by rw [settings]⟩
    exact (permits.once.resolve_left (permits.lists.mpr needed)).trans (by rw [settings]; rfl)
  refine ⟨directed, permits.configured.mpr ⟨"BBB", configured⟩, ?_, ?_⟩
  · rw [called, listing]
    rfl
  · have directs := (permits.directs "BBB" configured).2
    rwa [settings] at directs

end CommandLine

end GuiExplorer
