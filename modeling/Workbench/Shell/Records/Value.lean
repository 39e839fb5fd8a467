import Workbench.Decimal.Shortest
import Workbench.Shell.Format
import Workbench.Shell.Records.Basic

/-!
# Values of programs on records

A value of `awk` is a number or a text, and each can be taken for the other. Text that comes from
the input and looks like a number is compared as a number. What has no value yet is both zero and
the empty text.
-/

namespace Workbench.Shell.Records

/-- A value. -/
inductive Cell where
  | unset
  | number (x : Float)
  | text (bytes : Bytes)
  /-- Text of the input that looks like a number. -/
  | likeNumber (bytes : Bytes) (x : Float)

/-! ### Numbers -/

/-- The double that is nearest to a quantity. -/
def floatOf (quantity : Quantity) : Float :=
  match quantity.rounded .double with
  | .infinite negative => if negative then -1 / 0 else 1 / 0
  | .undefined _ => 0 / 0
  | .finite negative significand exponent =>
    let x := (Float.ofNat significand).scaleB exponent
    if negative then -x else x

/-- A double as a quantity of its format. What comes of undefined arithmetic has a sign. -/
def roundedOf (x : Float) : Rounded :=
  match Decimal.parts x with
  | .notANumber => .undefined true
  | .infinite negative => .infinite negative
  | .finite negative magnitude => .finite negative magnitude.significand magnitude.exponent

/-- The greatest whole number that is not greater than a magnitude. -/
def wholeOf (magnitude : Decimal.Binary) : Nat :=
  magnitude.significand * Nat.pow 2 magnitude.exponent.toNat /
    Nat.pow 2 (-magnitude.exponent).toNat

/-- A number without its fraction; nothing without an end. -/
def truncated? (x : Float) : Option Int :=
  match Decimal.parts x with
  | .finite negative magnitude =>
    let size : Int := wholeOf magnitude
    some (if negative then -size else size)
  | _ => none

/-- A number without its fraction, as good as it fits between two others. -/
def truncatedWithin (least greatest : Int) (x : Float) : Int :=
  match truncated? x with
  | some n => max least (min n greatest)
  | none => if x < 0 then least else if 0 < x then greatest else least

/-- The remainder of a division with the sign of the dividend. -/
def remainder (x y : Float) : Float :=
  match Decimal.parts x, Decimal.parts y with
  | .finite negative a, .finite _ b =>
    if b.significand = 0 then 0 / 0
    else
      let exponent := min a.exponent b.exponent
      let scaled (m : Decimal.Binary) : Nat :=
        m.significand * Nat.pow 2 (m.exponent - exponent).toNat
      let left := (Float.ofNat (scaled a % scaled b)).scaleB exponent
      if negative then -left else left
  | .finite .., .infinite _ => x
  | _, _ => 0 / 0

/-- What arithmetic gives. -/
def Arithmetic.apply (x y : Float) : Arithmetic → Float
  | add => x + y
  | subtract => x - y
  | multiply => x * y
  | divide => x / y
  | remainder => Records.remainder x y
  | power => x.pow y

/-! ### Texts of numbers -/

/-- The number that a text starts with; zero without one. -/
def numberAt (s : Bytes) : Float :=
  match Quantity.at? (s.map fun b => Char.ofNat b.toNat) with
  | some (quantity, _) => floatOf quantity
  | none => 0

/-- The number that all of a text is in base ten, with blanks around it. -/
def looksLike? (s : Bytes) : Option Float :=
  let chars := s.map fun b => Char.ofNat b.toNat
  match Quantity.at? chars with
  | some (quantity, rest) =>
    let isHexadecimal := (chars.dropWhile fun c => isSpace c || c = '+' || c = '-').take 2
    if !rest.all isSpace || isHexadecimal.map Char.toLower = ['0', 'x'] then none
    else some (floatOf quantity)
  | none => none

/-- A value that comes from the input. -/
def Cell.ofInput (s : Bytes) : Cell :=
  match looksLike? s with
  | some x => .likeNumber s x
  | none => .text s

/-- The whole number that a number is, if its digits are written. -/
def writtenWhole? (x : Float) : Option Int :=
  match Decimal.parts x with
  | .finite negative magnitude =>
    let n := wholeOf magnitude
    let isWhole := n * Nat.pow 2 (-magnitude.exponent).toNat =
      magnitude.significand * Nat.pow 2 magnitude.exponent.toNat
    if !isWhole then none
    else if negative then if n ≤ Text.bound63 then some (-(n : Int)) else none
    else if n ≤ Text.bound64 then some (min n (Text.bound64 - 1) : Nat) else none
  | _ => none

/-! ### Formats -/

/-- The letters of directives. -/
def directiveLetters : List Char :=
  "csdiouxXaAeEfFgG".toList

/-- The directives of a format, of which at most `bound` are read. Backslashes are text here. -/
def directives : (bound : Nat) → Bytes → List Directive
  | 0, _ => []
  | _, [] => []
  | bound + 1, b :: s =>
    if b ≠ 37 then .text [b] :: directives bound s
    else if s.head? = some 37 then .text [37] :: directives bound s.tail
    else
      let (directive, length) := Directive.read (s.map fun b => Char.ofNat b.toNat)
      let directive := match directive with
        | .write _ _ _ letter =>
          if directiveLetters.contains letter then directive else .bad (.badDirective "")
        | directive => directive
      directive :: directives bound (s.drop length)

/-- A number as the letter of a directive writes it. -/
def writeNumber (flags : List Char) (width : Nat) (digits : Option Nat) (letter : Char)
    (x : Float) : Bytes :=
  let text :=
    if "aAeEfFgG".toList.contains letter then
      (roundedOf x).write .double flags width digits letter
    else
      let n : Int :=
        if x.isNaN then -Text.bound63
        else truncatedWithin (1 - (Text.bound63 : Int)) (Text.bound64 - 1) x
      writeInteger flags width digits letter n
  Text.bytesOf (String.ofList text)

/-- A number in a format with one directive for it. -/
def formatted (format : Bytes) (x : Float) : Bytes :=
  (directives format.length format).flatMap fun
    | .text bytes => bytes
    | .write flags width digits letter =>
      writeNumber flags ((given width).getD 0) (given digits) letter x
    | .stop | .bad _ => []
where
  /-- An extent that stands in the format itself. -/
  given : Option Extent → Option Nat
    | some (.given n) => some n
    | _ => none

/-- A number as a text: a whole number with all its digits, others in a format. -/
def textOf (format : Bytes) (x : Float) : Bytes :=
  match writtenWhole? x with
  | some n => Text.bytesOf (toString n)
  | none => formatted format x

namespace Cell

/-- A value as a number. -/
def toNumber : Cell → Float
  | unset => 0
  | number x | likeNumber _ x => x
  | text s => numberAt s

/-- A value as a text, where numbers are written in a format. -/
def toText (format : Bytes) : Cell → Bytes
  | unset => []
  | number x => textOf format x
  | text s | likeNumber s _ => s

/-- Whether a value counts as true. -/
def isTrue : Cell → Bool
  | unset => false
  | number x | likeNumber _ x => x != 0
  | text s => s ≠ []

/-- A number or zero for a truth. -/
def ofBool (b : Bool) : Cell :=
  number (if b then 1 else 0)

/-- Whether a value is compared as a number. -/
def isNumeric : Cell → Bool
  | text _ => false
  | _ => true

end Cell

/-- Whether a relation holds of what comes first and what is the same. -/
def Relation.holds (isLess isSame : Bool) : Relation → Bool
  | less => isLess
  | atMost => isLess || isSame
  | same => isSame
  | different => !isSame
  | atLeast => !isLess
  | greater => !isLess && !isSame

/-- Whether a relation holds of two values: of numbers by their size, of texts by their bytes. -/
def Relation.holdsOf (format : Bytes) (a b : Cell) (relation : Relation) : Bool :=
  if a.isNumeric && b.isNumeric then
    let isLess : Bool := a.toNumber < b.toNumber
    let isGreater : Bool := b.toNumber < a.toNumber
    relation.holds isLess (!isLess && !isGreater)
  else
    let s := a.toText format
    let t := b.toText format
    relation.holds (s ≠ t && bytesBefore s t) (s = t)

end Workbench.Shell.Records
