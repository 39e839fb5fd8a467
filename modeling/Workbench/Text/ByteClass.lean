/-!
# Classes of bytes

Sets of bytes that have names: letters, digits, blanks and others. They hold ASCII characters alone.
-/

namespace Workbench.Text

/-- The bytes from one to another one. -/
def byteRange (first last : Nat) : List UInt8 :=
  (List.range (last + 1 - first)).map fun i => (first + i).toUInt8

/-- The ranges of the classes, by the names of these. -/
def byteClasses : List (String × List (Nat × Nat)) :=
  [("lower", [(97, 122)]), ("upper", [(65, 90)]), ("alpha", [(65, 90), (97, 122)]),
    ("digit", [(48, 57)]), ("alnum", [(48, 57), (65, 90), (97, 122)]),
    ("space", [(9, 13), (32, 32)]), ("blank", [(9, 9), (32, 32)]),
    ("punct", [(33, 47), (58, 64), (91, 96), (123, 126)]), ("cntrl", [(0, 31), (127, 127)]),
    ("print", [(32, 126)]), ("graph", [(33, 126)]),
    ("xdigit", [(48, 57), (65, 70), (97, 102)])]

/-- The bytes of a class. -/
def byteClass? (name : String) : Option (List UInt8) :=
  (byteClasses.lookup name).map fun ranges =>
    ranges.flatMap fun range => byteRange range.1 range.2

end Workbench.Text
