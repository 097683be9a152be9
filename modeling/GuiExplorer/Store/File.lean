import GuiExplorer.Text.Utf8

/-!
# Stored files

What reading or writing a file may meet, and the errors of the store.
-/

namespace GuiExplorer

/-- Why a file could not be read or written. -/
inductive FileError where
  | notFound
  | isDirectory
  /-- A folder was to be made where something else stands. -/
  | exists
  /-- Something was to be found or made below what is no folder. -/
  | notDirectory
  | notUtf8
  /-- A name on the path, or the path itself, is too long. -/
  | nameTooLong
  /-- The path holds a NUL, which ends the text of a path. -/
  | nulInPath
  /-- Any other failure, with a wording of its own. -/
  | other (message : String)
deriving DecidableEq, Repr

/-- The wording of a file error. -/
def FileError.message : FileError → String
  | .notFound => "No such file or directory (os error 2)"
  | .isDirectory => "Is a directory (os error 21)"
  | .exists => "File exists (os error 17)"
  | .notDirectory => "Not a directory (os error 20)"
  | .notUtf8 => "stream did not contain valid UTF-8"
  | .nameTooLong => "File name too long (os error 36)"
  | .nulInPath => "file name contained an unexpected NUL byte"
  | .other message => message

/-- Errors of the store. -/
inductive StoreError where
  | io (error : FileError)
  /-- The text of a file is not what it should be. -/
  | parse
deriving DecidableEq, Repr

/-- The wording of a store error.  What is wrong with a text is not told. -/
def StoreError.message : StoreError → String
  | .io error => "IO error: " ++ error.message
  | .parse => "Parse error: <text>"

/-- What stands under a path. -/
inductive StoredFile where
  /-- The path leads nowhere. -/
  | unreachable (error : FileError)
  | directory
  | file (bytes : List UInt8)
deriving DecidableEq, Repr

namespace StoredFile

/-- Nothing stands there. -/
def missing : StoredFile :=
  .unreachable .notFound

/-- A file with the text. -/
def ofText (text : String) : StoredFile :=
  .file (Text.utf8Bytes text)

/-- The text of the file. -/
def text : StoredFile → Except FileError String
  | .unreachable error => .error error
  | .directory => .error .isDirectory
  | .file bytes =>
      match Text.decodeUtf8 bytes with
      | .ok text => .ok text
      | .error _ => .error .notUtf8

/-- Read the file with a reader of texts. -/
def load (read : String → Option α) (stored : StoredFile) : Except StoreError α :=
  match stored.text with
  | .error error => .error (.io error)
  | .ok text =>
      match read text with
      | some value => .ok value
      | none => .error .parse

end StoredFile

end GuiExplorer
