import GuiExplorer.Coverage.Instrumentation
import GuiExplorer.Store.File

/-!
# Rehearsed file systems

A file system as a list of places and what stands there.  A place is the list of
the names that lead to it from the root.  A path is followed name by name: `.`
stays, `..` goes to the folder above, and each step starts from a folder.
-/

namespace GuiExplorer

/-- The files of a rehearsal, in no particular order. -/
structure Files where
  entries : List (List String × StoredFile)

namespace Files

/-- The place that relative paths start from. -/
def workFolder : List String :=
  ["tmp", "rehearsal"]

/-- What every system holds. -/
def standard : List (List String × StoredFile) :=
  [(["dev", "null"], .file []),
   (["etc", "passwd"], .ofText "root:x:0:0:root:/root:/bin/sh\n")] ++
  [["bin"], ["home"], ["proc", "self"], ["root"], ["sys"], ["usr"], ["var"]].map
    fun place => (place, .directory)

/-- A system with files and folders below the working folder. -/
def ofEntries (entries : List (List String × StoredFile)) : Files :=
  ⟨entries.map (fun (place, stored) => (workFolder ++ place, stored)) ++
    (workFolder, .directory) :: standard⟩

/-- A system whose working folder is empty. -/
def empty : Files :=
  ofEntries []

/-- What stands at a place. -/
def find (files : Files) (place : List String) : StoredFile :=
  match files.entries.lookup place with
  | some stored => stored
  | none =>
      if place.isEmpty || files.entries.any (place.isPrefixOf ·.1) then .directory
      else .missing

/-- The names on a path. -/
def names (path : String) : List String :=
  ((path.toList.splitOn '/').map String.ofList).filter (!·.isEmpty)

/-- The place that a path starts from. -/
def origin (path : String) : List String :=
  if path.toList.head? = some '/' then [] else workFolder

/-- How many bytes a name has at most. -/
def nameLimit : Nat :=
  255

/-- How many bytes a path has at most. -/
def pathLimit : Nat :=
  4095

/-- Follow names from a place.  Nothing needs to stand where the last one leads. -/
def follow (files : Files) (place : List String) : List String → Except FileError (List String)
  | [] => .ok place
  | name :: rest =>
      match files.find place with
      | .unreachable error => .error error
      | .file _ => .error .notDirectory
      | .directory =>
          if name = "." then follow files place rest
          else if name = ".." then follow files place.dropLast rest
          else if nameLimit < name.utf8ByteSize then .error .nameTooLong
          else follow files (place ++ [name]) rest

/-- Why a text is no path, if it is none. -/
def pathError? (path : String) : Option FileError :=
  if path.contains '\x00' then some .nulInPath
  else if path.isEmpty then some .notFound
  else if pathLimit < path.utf8ByteSize then some .nameTooLong
  else none

/-- The place that a path leads to.  A path that ends in a slash leads to a folder. -/
def locate (files : Files) (path : String) : Except FileError (List String) :=
  match pathError? path with
  | some error => .error error
  | none =>
      files.follow (origin path)
        (names path ++ if path.toList.getLast? = some '/' then ["."] else [])

/-- What stands under a path. -/
def read (files : Files) (path : String) : StoredFile :=
  match files.locate path with
  | .error error => .unreachable error
  | .ok place => files.find place

/-- The folder under a path. -/
def folder (files : Files) (path : String) : Option Instrumentation.Folder :=
  match files.locate path with
  | .error _ => none
  | .ok place =>
      match files.find place with
      | .directory =>
          some (files.entries.filterMap fun (other, stored) =>
            if place.isPrefixOf other then
              match other.drop place.length with
              | [] => none
              | [name] => some (name, stored)
              | name :: _ => some (name, .directory)
            else none)
      | _ => none

/-- Put a file or a folder at a place. -/
def put (files : Files) (place : List String) (stored : StoredFile) : Files :=
  ⟨files.entries.filter (·.1 ≠ place) ++ [(place, stored)]⟩

/-- Whether the names lead to a folder. -/
def leadsToFolder (files : Files) (origin names : List String) : Bool :=
  match files.follow origin names with
  | .ok place => files.find place = .directory
  | .error _ => false

/-- Make the folder that the names lead to, where nothing must stand yet. -/
def makeOne (files : Files) (origin names : List String) : Except FileError Files :=
  match files.follow origin names with
  | .error error => .error error
  | .ok place =>
      match files.find place with
      | .unreachable _ => .ok (files.put place .directory)
      | _ => .error .exists

/-- Make the folder that the names lead to, unless it is there already. -/
def ensureOne (files : Files) (origin names : List String) : Except FileError Files :=
  match files.makeOne origin names with
  | .ok files => .ok files
  | .error error => if files.leadsToFolder origin names then .ok files else .error error

/-- Make the folder that the names lead to, and before it the folders it is in.  The
names are in reverse. -/
def ensureAll (files : Files) (origin : List String) : List String → Except FileError Files
  | [] => .ok files
  | last :: before =>
      match files.ensureOne origin (last :: before).reverse with
      | .error .notFound =>
          match ensureAll files origin before with
          | .ok files => files.ensureOne origin (last :: before).reverse
          | .error error => .error error
      | done => done

/-- Make a folder, and the folders it is in. -/
def makeFolder (path : String) (files : Files) : Except FileError Unit × Files :=
  if path.isEmpty then (.ok (), files)
  else
    match pathError? path with
    | some error => (.error error, files)
    | none =>
        match files.ensureAll (origin path) (names path).reverse with
        | .ok files => (.ok (), files)
        | .error error => (.error error, files)

/-- The path of a name in a folder. -/
def join (folder name : String) : String :=
  if folder.isEmpty || folder.toList.getLast? = some '/' then folder ++ name
  else folder ++ "/" ++ name

/-- Write a file in a folder. -/
def write (folder name text : String) (files : Files) : Except FileError Unit × Files :=
  match files.locate (join folder name) with
  | .error error => (.error error, files)
  | .ok place =>
      match files.find place with
      | .directory => (.error .isDirectory, files)
      | _ => (.ok (), files.put place (.ofText text))

end Files

end GuiExplorer
