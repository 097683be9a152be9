import GuiExplorer.Json.Reader
import GuiExplorer.Store.File
import GuiExplorer.Text.Blank

/-!
# Instrumentation data

For an instrumented app a file lists its methods; the statement id of a method
is part of its text.
-/

namespace GuiExplorer

/-- The instrumented statements: ids and the methods they belong to, one method
for each id. -/
structure Instrumentation where
  statements : List (String × String)
deriving DecidableEq, Repr, Inhabited

namespace Instrumentation

/-- The mark before the statement id in the text of a method. -/
def idMark : List Char :=
  "dmid=".toList

/-- The statement id in a text: the digits after the first mark that is followed
by any. -/
def findId : List Char → Option (List Char)
  | [] => none
  | c :: rest =>
      let digits := ((c :: rest).drop idMark.length).takeWhile Text.isDecimalDigit
      if idMark.isPrefixOf (c :: rest) && !digits.isEmpty then some digits else findId rest

/-- The statement id of a method. -/
def statementId? (method : String) : Option String :=
  (findId method.toList).map String.ofList

/-- Set the method of a statement. -/
def insert (statements : List (String × String)) (id method : String) :
    List (String × String) :=
  match statements with
  | [] => [(id, method)]
  | (other, otherMethod) :: rest =>
      if other = id then (id, method) :: rest
      else (other, otherMethod) :: insert rest id method

/-- Collect the statements of a list of methods.  Methods without statement id
are left out; of several methods with one id the last counts. -/
def ofMethods (methods : List String) : Instrumentation :=
  ⟨methods.foldl
    (fun statements method =>
      match statementId? method with
      | some id => insert statements id method
      | none => statements)
    []⟩

def fieldNames : List String :=
  ["allMethods"]

/-- Read the text of an instrumentation file. -/
def ofText? (text : String) : Option Instrumentation :=
  match (Json.ofText? text).bind (Json.fields? fieldNames) with
  | some [methods] => (Json.required (Json.list? Json.text?) methods).map ofMethods
  | _ => none

/-- Number of instrumented statements. -/
def size (instrumentation : Instrumentation) : Nat :=
  instrumentation.statements.length

/-- A folder: the names in it, and what stands under them. -/
abbrev Folder := List (String × StoredFile)

/-- The end of the name of every instrumentation file. -/
def fileSuffix : String :=
  ".apk.json"

/-- Whether a file holds the instrumentation of an app, by its name. -/
def isFileOf (app name : String) : Bool :=
  Text.contains name app && Text.endsWith name fileSuffix

/-- The instrumentation file of an app. -/
def findFile (folder : Folder) (app : String) : Option (String × StoredFile) :=
  folder.find? fun (name, _) => isFileOf app name

/-- Load the instrumentation of an app.  There is none if there is no folder or
no file for the app. -/
def load (folder : Option Folder) (app : String) : Except StoreError Instrumentation :=
  match folder.bind (findFile · app) with
  | some (_, stored) => stored.load ofText?
  | none => .ok ⟨[]⟩

end Instrumentation

end GuiExplorer
