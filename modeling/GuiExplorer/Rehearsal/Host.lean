import GuiExplorer.CommandLine.Program
import GuiExplorer.Image.Decode
import GuiExplorer.Rehearsal.Actor
import GuiExplorer.Rehearsal.Files
import GuiExplorer.Rehearsal.Peer
import GuiExplorer.Settings.EnvFile

/-!
# Rehearsed hosts

A host on which one program is installed, the bridge to devices.  A list of rules
tells what it does for which arguments.
-/

namespace GuiExplorer

/-- What a rehearsed program does after it has printed its text. -/
inductive Performance where
  | exits (status : ExitStatus)
  /-- It goes on until it is stopped. -/
  | goesOn (stopping : Process.Stopping)

/-- What a rehearsed program does for some arguments. -/
structure Rule where
  /-- The rule applies if this occurs in the arguments, joined by blanks. -/
  pattern : String
  performance : Performance
  stdout : List UInt8
  stderr : List UInt8

/-- A rehearsed host. -/
structure Host where
  /-- The names under which the program is found. -/
  programs : List String
  rules : List Rule
  /-- The arguments of each start of the program, the first one first. -/
  starts : List (List String)
  worker : Actor
  peer : Peer
  files : Files

namespace Host

/-- What a process that goes on meets when it is killed. -/
def stoppingOfName (name : String) : Process.Stopping :=
  let killed := ExitStatus.signal 9 "SIGKILL"
  match name with
  | "denied" => ⟨.error .notPermitted, .ok none, .ok killed⟩
  | "late" => ⟨.error .notPermitted, .ok (some (.code 0)), .ok (.code 0)⟩
  | "lost" => ⟨.ok (), .ok none, .error .noChild⟩
  | _ => ⟨.ok (), .ok none, .ok killed⟩

/-- What a script prints: a text or bytes. -/
def printedOfJson (value : Json) (name : String) : List UInt8 :=
  match value.given? (name ++ "_hex") with
  | some bytes => Text.ofHexText bytes.text
  | none => Text.utf8Bytes (value.textAt name)

/-- A rule in a script. -/
def ruleOfJson (value : Json) : Rule where
  pattern := value.textAt "match"
  performance :=
    if value.boolAt "run" then .goesOn (stoppingOfName (value.textAt "kill"))
    else if value.boolAt "abort" then .exits (.signal 9 "SIGKILL")
    else .exits (.code (value.natAt "exit"))
  stdout := printedOfJson value "stdout"
  stderr := printedOfJson value "stderr"

/-- The name of the program in a script. -/
def scriptedProgram : String :=
  "<adb>"

/-- The host that a script describes. -/
def ofJson (value : Json) (files : Files := .empty) : Host :=
  ⟨if value.boolAt "missing" then [] else [scriptedProgram, "adb"],
    (value.itemsAt "rules").map ruleOfJson, [], .ofConduct .stubborn,
    .ofJson (.ofJson value) (value.member "daemon"), files⟩

/-- The rule for some arguments. -/
def ruleFor (host : Host) (arguments : List String) : Rule :=
  (host.rules.find? fun rule => Text.contains (" ".intercalate arguments) rule.pattern).getD
    ⟨"", .exits (.code 0), [], []⟩

/-- Why a name is not that of a program.  A name without a slash is looked up among
the installed programs, and any other is a path. -/
def startError (host : Host) (program : String) : OsError :=
  if program.contains '/' then
    match host.files.read program with
    | .unreachable .notDirectory => .notDirectory
    | .unreachable .nameTooLong => .nameTooLong
    | .unreachable _ => .notFound
    | _ => .permissionDenied
  else if Files.nameLimit < program.utf8ByteSize then .nameTooLong
  else .notFound

/-- Start the program. -/
def start (program : String) (arguments : List String) (host : Host) :
    Except OsError Rule × Host :=
  if (program :: arguments).any (·.contains '\x00') then (.error .nulInArgument, host)
  else if host.programs.contains program then
    (.ok (host.ruleFor arguments), { host with starts := host.starts ++ [arguments] })
  else (.error (host.startError program), host)

/-- Run the program to its end. -/
def run (program : String) (arguments : List String) (host : Host) :
    Except OsError ProgramOutput × Host :=
  match host.start program arguments with
  | (.error error, host) => (.error error, host)
  | (.ok rule, host) =>
      let status := match rule.performance with
        | .exits status => status
        | .goesOn _ => .code 0
      (.ok ⟨status, rule.stdout, rule.stderr⟩, host)

/-- How the supervision of a process ends. -/
def endingOf (result : Except BridgeError Unit) : WorkerEnd :=
  match result with
  | .ok _ => .finished
  | .error error => .failed error

/-- How the supervision of a process goes: it ends at once if the process does, and
otherwise when it is stopped. -/
def conductOf (performance : Performance) : Conduct :=
  let supervised (stopping : Process.Stopping) (poll : Process.Poll) : WorkerEnd :=
    match Process.supervise stopping [poll] with
    | some (result, _) => endingOf result
    | none => .finished
  match performance with
  | .exits status => .brief (supervised (stoppingOfName "") ⟨.ok (some status), false⟩)
  | .goesOn stopping => .obedient (supervised stopping ⟨.ok none, true⟩)

/-- Start the program in the background. -/
def launch (program : String) (arguments : List String) (host : Host) : Host :=
  let (started, host) := host.start program arguments
  let conduct := match started with
    | .ok rule => conductOf rule.performance
    | .error error => .brief (.failed (Process.failed error))
  { host with worker := (Actor.ofConduct conduct).start }

/-- Ask the worker to stop. -/
def requestStop (host : Host) : Host :=
  { host with worker := host.worker.requestStop }

/-- Let the daemon act. -/
def withPeer (host : Host) (act : Peer → α × Peer) : α × Host :=
  let (result, peer) := act host.peer
  (result, { host with peer := peer })

/-- Change the files. -/
def withFiles (host : Host) (act : Files → α × Files) : α × Host :=
  let (result, files) := act host.files
  (result, { host with files := files })

/-- The operations of a rehearsed host, on which no time passes. -/
def machine : Machine Host where
  run := Host.run
  launch := Host.launch
  ending host := host.worker.ending
  requestStop := Host.requestStop
  awaitEnd host := (host.worker.awaitEnd, host)
  awaitEndFor _ host := (host.worker.ending, host)
  patience _ _ _ := 0
  connect _ port host := host.withPeer (Peer.connect port)
  send frame host := host.withPeer (Peer.send frame)
  elapsed _ := ⟨0⟩
  timestamp _ := "<time>"
  decode := Capture.ofFile
  makeFolder folder host := host.withFiles (Files.makeFolder folder)
  write folder name text host := host.withFiles (Files.write folder name text)

/-- The folder for settings in a script. -/
def configFolder : String :=
  "<config>/" ++ Settings.configFolder

/-- The path of the settings file in a script. -/
def settingsPath : String :=
  configFolder ++ "/" ++ CommandLine.settingsFileName

/-- The files that a script describes: the settings file, the environment file and
the files for the coverage. -/
def filesOfJson (value : Json) : Files :=
  let named (member path : String) : List (List String × StoredFile) :=
    (value.given? member).toList.map fun text => (Files.names path, .ofText text.text)
  let coverage := (value.itemsAt "coverage_files").map fun file =>
    (["cov", file.textAt "name"],
      if (file.given? "text").isSome then Scenario.storedFile file else .directory)
  .ofEntries (named "file" settingsPath ++ named "dotenv" ".env" ++ coverage)

/-- The environment that a script describes: its own variables, the names of the
scripted program and port, and what the environment file supplies. -/
def environmentOfJson (value : Json) : Except Environment.Unstorable Environment :=
  match Environment.ofList? (value.member "env").textMembers with
  | .error error => .error error
  | .ok env =>
      let env := (env.supply "ADB_PATH" scriptedProgram).supply "DAEMON_PORT"
        (toString Peer.defaultPort.toNat)
      EnvFile.supply env ((filesOfJson value).read ".env")

/-- What the program is started with on the host that a script describes. -/
def invocation (arguments : List String) (value : Json) (env : Environment) :
    CommandLine.Invocation :=
  let files := filesOfJson value
  ⟨arguments, env, some configFolder, files.read settingsPath, files.read, files.folder⟩

/-- Run the program on the host that a script describes.  There is nothing to run if
its environment cannot be set up. -/
def perform (arguments : List String) (value : Json) (limit : Nat) :
    Except Environment.Unstorable (Option (CommandLine.Outcome × Host)) :=
  (environmentOfJson value).map fun env =>
    CommandLine.run machine limit (invocation arguments value env)
      (ofJson value (filesOfJson value))

end Host

end GuiExplorer
