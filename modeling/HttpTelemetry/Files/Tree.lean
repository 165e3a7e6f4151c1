import HttpTelemetry.Files.Path
import HttpTelemetry.OsError

/-!
# Trees of directories

What is known of a file system: its directories and its files, each by the names that lead to it
from the root. Directories are made one at a time or together with those around them.
-/

set_option autoImplicit false

namespace HttpTelemetry.Files

/-- A place is given by the names that lead to it from the root, without any detour. -/
abbrev Place := List String

/-- A directory in which nothing can be made, and what comes of trying. -/
structure Seal where
  place : Place
  onFile : OsError
  onDirectory : OsError

/-- A file system. Whatever lies on the way to something known is a directory. -/
structure Tree where
  files : List Place := []
  directories : List Place := []
  seals : List Seal := []
  /-- Where relative paths begin. -/
  working : Place := []

namespace Tree

/-- The longest name, in octets. -/
def longestName : Nat := 255

/-- The longest text of a path, in octets. -/
def longestPath : Nat := 4095

def isFile (t : Tree) (place : Place) : Bool := t.files.contains place

def isDirectory (t : Tree) (place : Place) : Bool :=
  place.isEmpty ||
    (t.directories ++ t.seals.map Seal.place ++ [t.working] ++ t.files.map List.dropLast).any
      fun known => place.isPrefixOf known

/-- The seal on a directory. -/
def seal? (t : Tree) (place : Place) : Option Seal := t.seals.find? fun s => s.place = place

def walk (t : Tree) (here : Place) : List String → Except OsError Place
  | [] => .ok here
  | name :: rest =>
    if name = upward then t.walk here.dropLast rest
    else if longestName < name.utf8ByteSize then .error .nameTooLong
    else
      let next := here ++ [name]
      if t.isDirectory next then t.walk next rest
      else if t.isFile next then .error .notADirectory
      else .error .noSuchFile

def start (t : Tree) (p : Path) : Place := if p.absolute then [] else t.working

def directory (t : Tree) (p : Path) : Except OsError Place := t.walk (t.start p) p.names

/-- The directory in which the last name of a path stands, and that name. -/
def around (t : Tree) (p : Path) : Except OsError (Place × Option String) := do
  let place ← t.walk (t.start p) p.names.dropLast
  return (place, p.names.getLast?)

def makeDirectory (t : Tree) (p : Path) : Except OsError Tree := do
  match ← t.around p with
  | (_, none) => throw .fileExists
  | (place, some name) =>
    let made := place ++ [name]
    if name = upward then throw .fileExists
    if longestName < name.utf8ByteSize then throw .nameTooLong
    if t.isDirectory made || t.isFile made then throw .fileExists
    match t.seal? place with
    | some s => throw s.onDirectory
    | none => return { t with directories := made :: t.directories }

/-- Makes a directory unless it is there. -/
def ensureDirectory (t : Tree) (p : Path) : Except OsError Tree :=
  match t.makeDirectory p with
  | .ok t => .ok t
  | .error e =>
    match t.directory p with
    | .ok _ => .ok t
    | .error _ => .error e

/-- Makes a directory with all those around it that are missing; its names are given from the last
one on. Those around it are made only when the directory itself cannot be made without them. -/
def ensureNames (t : Tree) (absolute : Bool) : List String → Except OsError Tree
  | [] => .ok t
  | name :: rest =>
    let p : Path := ⟨absolute, (name :: rest).reverse⟩
    match t.ensureDirectory p with
    | .ok t => .ok t
    | .error e =>
      if e = .noSuchFile then do
        let t ← t.ensureNames absolute rest
        t.ensureDirectory p
      else .error e

/-- Opens a file for adding to it, and makes it if it is not there. -/
def openFile (t : Tree) (p : Path) : Except OsError Tree := do
  match ← t.around p with
  | (_, none) => throw .isADirectory
  | (place, some name) =>
    let made := place ++ [name]
    if name = upward then throw .isADirectory
    if longestName < name.utf8ByteSize then throw .nameTooLong
    if t.isDirectory made then throw .isADirectory
    if t.isFile made then return t
    match t.seal? place with
    | some s => throw s.onFile
    | none => return { t with files := made :: t.files }

end Tree

/-! ### Texts of paths -/

/-- Why the text of a path is of no use, or what the operating system says. -/
inductive PathError where
  | zeroCharacter
  | refused (cause : OsError)
  deriving DecidableEq, Repr

def PathError.message : PathError → String
  | .zeroCharacter => "file name contained an unexpected NUL byte"
  | .refused cause => cause.message

/-- Does something with the path of a text, which holds no zero character and is not too long. -/
def withPath {α : Type} (s : String) (f : Path → Except OsError α) : Except PathError α :=
  if s.toList.contains '\x00' then .error .zeroCharacter
  else if Tree.longestPath < s.utf8ByteSize then .error (.refused .nameTooLong)
  else (f (Path.parse s)).mapError .refused

def ensureDirectories (t : Tree) (directory : String) : Except PathError Tree :=
  withPath (Path.trimEnd directory) fun _ =>
    let p := Path.parse directory
    t.ensureNames p.absolute p.names.reverse

/-- Why a log file could not be opened: its directory or the file itself could not be had. -/
inductive LogFileError where
  | directory (cause : PathError)
  | file (cause : PathError)
  deriving DecidableEq, Repr

def LogFileError.message : LogFileError → String
  | .directory cause => "failed to create log directory: " ++ cause.message
  | .file cause => "failed to create log file: " ++ cause.message

/-- Opens a log file in a directory, which is made only if the file cannot be opened without. -/
def openLog (t : Tree) (directory name : String) : Except LogFileError Tree :=
  let opened (t : Tree) := withPath (join directory name) t.openFile
  match opened t with
  | .ok t => .ok t
  | .error _ => do
    let t ← (ensureDirectories t directory).mapError .directory
    (opened t).mapError .file

end HttpTelemetry.Files
