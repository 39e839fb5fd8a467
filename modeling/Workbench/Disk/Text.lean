import Workbench.Disk.Task
import Workbench.Text.Utf8

/-!
# Files of text

Files hold bytes. A file of text is one whose bytes encode a text; any other one is refused when its
text is asked for.
-/

namespace Workbench.DiskTask

variable {α : Type}

/-- The text that some bytes encode. -/
def decoded (bytes : List UInt8) : Except DiskError String :=
  (Text.text? bytes).elim (.error .notText) .ok

/-- Goes on with the text of a file. -/
def readText (path : String) (next : Except DiskError String → DiskTask α) : DiskTask α :=
  read path fun answer => next (answer.bind decoded)

/-- Goes on when a file holds a text. -/
def writeText (path text : String) (next : Except DiskError Unit → DiskTask α) : DiskTask α :=
  write path (Text.bytesOf text) next

end Workbench.DiskTask
