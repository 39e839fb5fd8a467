import Workbench.Disk.Path
import Workbench.Disk.Task

/-!
# Files in memory

A `Tree` holds files and directories in memory, each at a place, which is the list of the names that
lead to it from the top. Paths are followed one component at a time, and every component needs a
directory to start from.
-/

namespace Workbench

/-- What a name in a tree stands for. -/
inductive Contents where
  | file (bytes : List UInt8)
  | directory
  deriving DecidableEq

/-- The names that lead to a file or a directory from the top. -/
abbrev Place : Type :=
  List String

/-- Files and directories. -/
structure Tree where
  /-- The place of the working directory. -/
  home : Place
  entries : List (Place × Contents) := []
  deriving DecidableEq

namespace Tree

/-- The contents of a place. -/
def find? (t : Tree) (place : Place) : Option Contents :=
  if place = [] then some .directory else (t.entries.find? (·.1 = place)).map (·.2)

/-- The tree with other contents at a place. -/
def put (place : Place) (contents : Contents) (t : Tree) : Tree :=
  { t with entries := t.entries.filter (·.1 ≠ place) ++ [(place, contents)] }

/-- The tree without a place and everything below it. -/
def remove (place : Place) (t : Tree) : Tree :=
  { t with entries := t.entries.filter fun entry => !place.isPrefixOf entry.1 }

/-- What is below a place, by the names that lead to it from there. -/
def below (place : Place) (t : Tree) : List (Place × Contents) :=
  (t.entries.filter fun entry => place.isPrefixOf entry.1 && entry.1 ≠ place).map fun entry =>
    (entry.1.drop place.length, entry.2)

/-- The names of what is in a directory. -/
def names (place : Place) (t : Tree) : List String :=
  (t.below place).filterMap fun entry =>
    match entry.1 with
    | [name] => some name
    | _ => none

/-- The directories that are there before anything else is. -/
def systemDirectories : List Place :=
  [["bin"], ["dev"], ["etc"], ["home"], ["lib"], ["opt"], ["proc"], ["root"], ["sbin"], ["tmp"],
    ["usr"], ["usr", "bin"], ["var"], ["var", "tmp"]]

/-- The files that are there before anything else is. What they hold is not known. -/
def systemFiles : List Place :=
  [["etc", "passwd"], ["etc", "hosts"]]

/-- The tree of a system in which the working directory holds some files and directories. -/
def ofHome (home : Place) (entries : List (Place × Contents)) : Tree :=
  let above := (List.range home.length).map fun n => home.take (n + 1)
  let directories := (systemDirectories ++ above).map fun place => (place, Contents.directory)
  let files := systemFiles.map fun place => (place, Contents.file [])
  let start : Tree := { home }
  let start := (directories ++ files).foldl (fun t entry => t.put entry.1 entry.2) start
  entries.foldl (fun t entry => t.put (home ++ entry.1) entry.2) start

/-! ### Following a path -/

/-- The greatest number of bytes in a name. -/
def maxName : Nat :=
  255

/-- The number of bytes that a path has to stay below. -/
def maxPath : Nat :=
  4096

/-- Whether a place is a directory. -/
def isDirectory (t : Tree) (place : Place) : Bool :=
  t.find? place = some .directory

/-- Follows one component of a path. -/
def step (t : Tree) (place : Place) (name : String) : Except DiskError Place :=
  if !t.isDirectory place then .error .notADirectory
  else if name = "" ∨ name = "." then .ok place
  else if name = ".." then .ok place.dropLast
  else if maxName < name.utf8ByteSize then .error .nameTooLong
  else if (t.find? (place ++ [name])).isSome then .ok (place ++ [name])
  else .error .notFound

/-- Follows some components. -/
def walk (t : Tree) (place : Place) (names : List String) : Except DiskError Place :=
  names.foldlM t.step place

/-- The place a path starts from and the components it goes on with. -/
def start (t : Tree) (path : String) : Place × List String :=
  (if path.startsWith "/" then [] else t.home, Path.components path)

/-- Why a path cannot be followed at all, if so. -/
def pathFault? (path : String) : Option DiskError :=
  if path.toList.contains '\x00' then some .nulInPath
  else if path = "" then some .notFound
  else if maxPath ≤ path.utf8ByteSize then some .nameTooLong
  else none

/-- The place that a path leads to. -/
def locate (t : Tree) (path : String) : Except DiskError Place :=
  match pathFault? path with
  | some error => .error error
  | none =>
    let (place, names) := t.start path
    t.walk place names

/-! ### Reading and writing -/

/-- The bytes of a file. -/
def readBytes (t : Tree) (path : String) : Except DiskError (List UInt8) :=
  match t.locate path with
  | .error error => .error error
  | .ok place =>
    match t.find? place with
    | some (.file bytes) => .ok bytes
    | _ => .error .isADirectory

/-- The names of what is in a directory. -/
def list (t : Tree) (path : String) : Except DiskError (List String) :=
  match t.locate path with
  | .error error => .error error
  | .ok place => if t.isDirectory place then .ok (t.names place) else .error .notADirectory

/-- The directory that the last component of a path is to be found in, that component, and whether
it can only mean a directory because slashes follow it. -/
def target (t : Tree) (path : String) : Except DiskError (Place × String × Bool) :=
  match pathFault? path with
  | some error => .error error
  | none =>
    let (place, names) := t.start path
    let named := (names.reverse.dropWhile (· = "")).reverse
    match t.walk place named.dropLast with
    | .error error => .error error
    | .ok directory =>
      let name := named.getLast?.getD "."
      if !t.isDirectory directory then .error .notADirectory
      else .ok (directory, name, named ≠ names)

/-- Makes a file hold some bytes. A file that does not exist is created. -/
def writeBytes (t : Tree) (path : String) (bytes : List UInt8) : Except DiskError Unit × Tree :=
  match t.target path with
  | .error error => (.error error, t)
  | .ok (directory, name, slashed) =>
    if slashed ∨ name = "." ∨ name = ".." then (.error .isADirectory, t)
    else if maxName < name.utf8ByteSize then (.error .nameTooLong, t)
    else if t.find? (directory ++ [name]) = some .directory then (.error .isADirectory, t)
    else (.ok (), t.put (directory ++ [name]) (.file bytes))

/-- Makes a directory. -/
def makeDirectory (t : Tree) (path : String) : Except DiskError Unit × Tree :=
  match t.target path with
  | .error error => (.error error, t)
  | .ok (directory, name, _) =>
    if name = "." ∨ name = ".." ∨ (t.find? (directory ++ [name])).isSome then
      (.error .alreadyExists, t)
    else if maxName < name.utf8ByteSize then (.error .nameTooLong, t)
    else (.ok (), t.put (directory ++ [name]) .directory)

/-- Takes a file or a directory away. -/
def takeAway (t : Tree) (whole : Bool) (path : String) : Except DiskError Unit × Tree :=
  match t.locate path with
  | .error error => (.error error, t)
  | .ok place =>
    if !whole && !(t.below place).isEmpty then (.error .notEmpty, t) else (.ok (), t.remove place)

/-- Gives a file or a directory another path. A file at that path is replaced, and so is a directory
with nothing in it. -/
def moveTo (t : Tree) (old new : String) : Except DiskError Unit × Tree :=
  match t.locate old, t.target new with
  | .error error, _ | _, .error error => (.error error, t)
  | .ok source, .ok (directory, name, slashed) =>
    let goal := directory ++ [name]
    let moves := t.isDirectory source
    if maxName < name.utf8ByteSize then (.error .nameTooLong, t)
    else if source = goal then (.ok (), t)
    else if moves && source.isPrefixOf goal then (.error .invalid, t)
    else
      match t.find? goal with
      | some .directory =>
        if !moves then (.error .isADirectory, t)
        else if !(t.below goal).isEmpty then (.error .notEmpty, t)
        else (.ok (), moved source goal)
      | some (.file _) => if moves then (.error .notADirectory, t) else (.ok (), moved source goal)
      | none =>
        if slashed && !moves then (.error .notADirectory, t) else (.ok (), moved source goal)
where
  /-- The tree after what is at one place and below it went to another one. -/
  moved (source goal : Place) : Tree :=
    let found := ([], (t.find? source).getD .directory) :: t.below source
    found.foldl (fun t entry => t.put (goal ++ entry.1) entry.2) ((t.remove goal).remove source)

/-- The path of the working directory. -/
def homePath (t : Tree) : String :=
  "/" ++ "/".intercalate t.home

/-- Answers a request. -/
def answer (t : Tree) : (request : DiskRequest) → request.Answer × Tree
  | .read path => (t.readBytes path, t)
  | .write path bytes => t.writeBytes path bytes
  | .list path => (t.list path, t)
  | .make path => t.makeDirectory path
  | .remove whole path => t.takeAway whole path
  | .move old new => t.moveTo old new
  | .here => (.ok t.homePath, t)

end Tree

/-- Does the work on a tree. -/
def DiskTask.onTree {α : Type} : DiskTask α → Tree → α × Tree
  | .done result, t => (result, t)
  | .ask request next, t => (next (t.answer request).1).onTree (t.answer request).2

end Workbench
