import GuiExplorer.Exploration.Error

/-!
# Errors of the command line

Every error ends the program; it is reported with the errors behind it.
-/

namespace GuiExplorer

/-- Why the settings were not saved. -/
inductive SaveError where
  | noFolder
  | folder (error : FileError)
  | file (error : FileError)
deriving DecidableEq, Repr

/-- The wording of an error in saving the settings. -/
def SaveError.message : SaveError → String
  | .noFolder => "Cannot determine config directory"
  | .folder error => "Failed to create config directory: " ++ error.message
  | .file error => "Failed to write settings file: " ++ error.message

/-- Why the program ended without doing what it was asked to. -/
inductive CommandLineError where
  | bridge (error : BridgeError)
  | save (error : SaveError)
  | noPackage
  | noDevice
  | store (error : StoreError)
  | exploration (error : ExplorationError)
deriving DecidableEq, Repr

namespace CommandLineError

/-- The wording of an error. -/
def message : CommandLineError → String
  | .bridge error => error.message
  | .save error => error.message
  | .noPackage => "APP_PACKAGE is not set"
  | .noDevice => "No device connected and DEVICE_SERIAL is not set"
  | .store error => error.message
  | .exploration error => error.message

/-- The wordings of the errors behind an error, the nearest first. -/
def causes : CommandLineError → List String
  | .exploration error => error.causes
  | _ => []

/-- A text with something before its first line, and blanks before the others. -/
def indented (first : String) (text : String) : String :=
  let others := String.ofList (List.replicate first.length ' ')
  first ++ ("\n" ++ others).intercalate ((text.toList.splitOn '\n').map String.ofList)

/-- The causes, one after another; several are numbered from zero. -/
def listCauses : List String → String
  | [] => ""
  | [cause] => "\n\nCaused by:\n" ++ indented "    " cause
  | causes =>
      "\n\nCaused by:" ++ String.join (causes.zipIdx.map fun (cause, index) =>
        let number := toString index
        let blanks := String.ofList (List.replicate (5 - number.length) ' ')
        "\n" ++ indented (blanks ++ number ++ ": ") cause)

/-- What is reported of an error. -/
def report (error : CommandLineError) : String :=
  "Error: " ++ error.message ++ listCauses error.causes ++ "\n"

end CommandLineError

end GuiExplorer
