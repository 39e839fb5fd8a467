import Workbench.Shell.Effect

/-!
# Channels

A channel stands for a pipe or a stream of the system: it holds the bytes that were written to it
and not read yet. Each piece is kept with the time it was written at, because a process that is not
waited for may be obeyed before others that run at the same time: the pieces are in the order of
their times, and pieces of one time in the order in which they were written.
-/

namespace Workbench.Shell

/-- Bytes that were written at once. -/
structure Written where
  time : Nat
  /-- The number of the process that is not waited for and wrote them, or zero. -/
  author : Nat
  bytes : Bytes
  deriving DecidableEq, Repr

/-- The bytes that were written to a channel and not read yet. -/
structure Channel where
  /-- The pieces, the last one first. -/
  pieces : List Written := []
  /-- Whether the bytes are those of a file, so that what was read too far can be read again. -/
  ofFile : Bool := false
  /-- When the last process that is not waited for leaves the channel. -/
  heldUntil : Nat := 0
  /-- Whether a process never leaves the channel. -/
  heldForever : Bool := false
  deriving DecidableEq, Repr

namespace Channel

/-- A channel with some bytes. -/
def ofBytes (bytes : Bytes) (ofFile : Bool) : Channel where
  pieces := [⟨0, 0, bytes⟩]
  ofFile

/-- The bytes in a channel. -/
def bytes (c : Channel) : Bytes :=
  c.pieces.reverse.flatMap (·.bytes)

/-- Pieces, the last one first, with one more. -/
def insert (piece : Written) : List Written → List Written
  | [] => [piece]
  | other :: rest =>
    if piece.time < other.time then other :: insert piece rest else piece :: other :: rest

/-- The channel after a piece was written to it. -/
def push (piece : Written) (c : Channel) : Channel :=
  { c with pieces := insert piece c.pieces }

/-- The pieces, the first one first, without some bytes at their start, and the time of the last of
these. -/
def dropBytes : (n time : Nat) → List Written → Nat × List Written
  | _, time, [] => (time, [])
  | n, time, piece :: rest =>
    if n = 0 then (time, piece :: rest)
    else if n < piece.bytes.length then
      (max time piece.time, { piece with bytes := piece.bytes.drop n } :: rest)
    else dropBytes (n - piece.bytes.length) (max time piece.time) rest

/-- The channel after it was read up to some rest, and the time by which all that was read was
there. Who reads to the end has to wait for those who may still write. -/
def readTo (rest : Bytes) (c : Channel) : Nat × Channel :=
  let before := c.pieces.reverse
  let (time, behind) := dropBytes ((before.flatMap (·.bytes)).length - rest.length) 0 before
  (if rest = [] then max time c.heldUntil else time, { c with pieces := behind.reverse })

/-- The channel without what a process wrote after some time. -/
def without (author time : Nat) (c : Channel) : Channel :=
  { c with pieces := c.pieces.filter fun piece => piece.author ≠ author || piece.time ≤ time }

end Channel

end Workbench.Shell
