import Workbench.Disk.Path
import Workbench.Disk.Task
import Workbench.Text.Blank

/-!
# What is installed

The programs of the system that can be started, by their names, and the files that are neither files
nor directories of a disk. A program is found by its path in one of the directories for programs,
and nothing else can be started.
-/

namespace Workbench.Shell

/-- The names of the shell. -/
def shellNames : List String :=
  ["sh", "dash", "bash"]

/-- The names of the programs that start others. -/
def startingNames : List String :=
  ["env", "find", "nice", "nohup", "timeout", "xargs"]

/-- The names of the programs that do their work alone. -/
def utilityNames : List String :=
  ["[", "awk", "base64", "basename", "cat", "cksum", "comm", "cp", "cut", "dirname", "echo",
    "egrep", "expand", "expr", "factor", "false", "fgrep", "fold", "grep", "head", "id", "join",
    "ls", "mawk", "md5sum", "mkdir", "mktemp", "mv", "nl", "nproc", "od", "paste", "printenv",
    "printf", "pwd", "readlink", "realpath", "rm", "rmdir", "sed", "seq", "sha256sum", "sleep",
    "sort", "split", "tac", "tail", "tee", "test", "touch", "tr", "true", "truncate", "tsort",
    "uname", "unexpand", "uniq", "wc", "which", "whoami", "yes"]

/-- Whether there is a program of this name. -/
def isProgram (name : String) : Bool :=
  shellNames.contains name || startingNames.contains name || utilityNames.contains name

/-- The directories for programs. -/
def programDirectories : List String :=
  ["/bin/", "/usr/bin/"]

/-- The name that a path inside one of the directories for programs ends with. -/
def nameInDirectory? (path : String) : Option String :=
  (programDirectories.filterMap fun directory =>
    (Text.afterPrefix? directory.toList path.toList).map String.ofList).head?

/-- The program that a path leads to. -/
def programAt? (path : String) : Option String :=
  (nameInDirectory? path).filter isProgram

/-- The file that holds nothing, whatever is written to it. -/
def emptyFile : String :=
  "/dev/null"

/-- The files that stand for devices. -/
def devices : List String :=
  [emptyFile, "/dev/zero", "/dev/full", "/dev/random", "/dev/urandom", "/dev/tty"]

/-- What a path leads to. -/
inductive FileKind where
  | file (size : Nat)
  | program
  | directory
  | device
  deriving DecidableEq, Repr

/-- What a path leads to, if it leads to something. -/
def fileKind (path : String) : DiskTask (Except DiskError FileKind) :=
  if (programAt? path).isSome then .done (.ok .program)
  else if devices.contains path then .done (.ok .device)
  else
    .read path fun
      | .ok bytes => .done (.ok (.file bytes.length))
      | .error .isADirectory => .done (.ok .directory)
      | .error error => .done (.error error)

end Workbench.Shell
