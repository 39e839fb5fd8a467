/-!
# Work on files

A `DiskTask` describes work that reads and writes files, without saying where the files are: it is a
result, or a request together with what is done with the answer. What it does to files held in
memory is a function, so statements about a task can be made for all answers.
-/

namespace Workbench

/-- Why a request on files is refused. -/
inductive DiskError where
  | notFound
  | permissionDenied
  | alreadyExists
  | notADirectory
  | isADirectory
  | invalid
  | nameTooLong
  | notEmpty
  /-- The path holds a NUL character. -/
  | nulInPath
  /-- The bytes of the file are no text. -/
  | notText
  /-- Another error, in the words of the system. -/
  | other (message : String)
  deriving DecidableEq, Repr

namespace DiskError

/-- What the system says about an error, and its number there; nothing for an error that the system
has no part in. -/
def system? : DiskError → Option (String × Nat)
  | notFound => some ("No such file or directory", 2)
  | permissionDenied => some ("Permission denied", 13)
  | alreadyExists => some ("File exists", 17)
  | notADirectory => some ("Not a directory", 20)
  | isADirectory => some ("Is a directory", 21)
  | invalid => some ("Invalid argument", 22)
  | nameTooLong => some ("File name too long", 36)
  | notEmpty => some ("Directory not empty", 39)
  | nulInPath | notText | other _ => none

/-- The error that has a number. -/
def ofNumber? (number : Nat) : Option DiskError :=
  [notFound, permissionDenied, alreadyExists, notADirectory, isADirectory, invalid, nameTooLong,
    notEmpty].find? fun error => error.system?.map (·.2) = some number

/-- The wording of an error. -/
def message (error : DiskError) : String :=
  match error.system?, error with
  | some (text, number), _ => s!"{text} (os error {number})"
  | none, nulInPath => "file name contained an unexpected NUL byte"
  | none, other message => message
  | none, _ => "stream did not contain valid UTF-8"

end DiskError

/-- What is wanted of the files. -/
inductive DiskRequest where
  /-- The bytes of a file. -/
  | read (path : String)
  /-- A file is to hold some bytes; one that does not exist is created. -/
  | write (path : String) (bytes : List UInt8)
  /-- The names of what is in a directory. -/
  | list (path : String)
  /-- A directory is to be made. -/
  | make (path : String)
  /-- A file, or a directory with nothing in it, is to be taken away; a directory with all that is
  in it if it is taken `whole`. -/
  | remove (whole : Bool) (path : String)
  /-- A file or a directory is to have another path. -/
  | move (old new : String)
  /-- The absolute path of the working directory. -/
  | here
  deriving DecidableEq

namespace DiskRequest

/-- What a request gives if it is not refused. -/
abbrev Result : DiskRequest → Type
  | read _ => List UInt8
  | list _ => List String
  | here => String
  | write _ _ | make _ | remove _ _ | move _ _ => Unit

/-- What comes of a request. -/
abbrev Answer (request : DiskRequest) : Type :=
  Except DiskError request.Result

end DiskRequest

/-- Work on files that ends with a result. -/
inductive DiskTask (α : Type) where
  /-- Nothing is left to do. -/
  | done (result : α)
  /-- The answer to a request is needed. -/
  | ask (request : DiskRequest) (next : request.Answer → DiskTask α)

namespace DiskTask

variable {α β : Type}

/-- One task after another. -/
def bind : DiskTask α → (α → DiskTask β) → DiskTask β
  | done result, f => f result
  | ask request next, f => ask request fun answer => (next answer).bind f

/-- A task with another result. -/
def map (f : α → β) (task : DiskTask α) : DiskTask β :=
  task.bind fun result => done (f result)

instance : Monad DiskTask where
  pure := done
  bind := bind

/-- Goes on with the bytes of a file. -/
def read (path : String) (next : Except DiskError (List UInt8) → DiskTask α) : DiskTask α :=
  ask (.read path) next

/-- Goes on when a file holds some bytes. -/
def write (path : String) (bytes : List UInt8) (next : Except DiskError Unit → DiskTask α) :
    DiskTask α :=
  ask (.write path bytes) next

/-- Goes on with the names of what is in a directory. -/
def list (path : String) (next : Except DiskError (List String) → DiskTask α) : DiskTask α :=
  ask (.list path) next

end DiskTask

end Workbench
