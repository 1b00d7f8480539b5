import SqlMapper.Database.RealText

/-!
# Stored values

The database stores every value in one of five classes: `NULL`, a 64-bit
integer, a double, text or a blob. Text is a sequence of bytes, normally
UTF-8; functions that count characters take a character to be a byte that
does not continue another, with the continuation bytes after it.

A column's declared type gives it an affinity, the class it converts incoming
values to when it can. Under the numeric affinities, text that reads wholly
as a number becomes that number, an integer when it is written as one that
fits or when it is a real that is a small enough whole number; a real that is
a whole number inside the integer range becomes an integer. Under text
affinity, numbers become their text.

Arithmetic reads a value as a number: text and blobs by the longest numeral at
their start, an integer when that numeral has no point or exponent and fits.

Values of different classes compare in one order: `NULL` first, then numbers
by value (an integer and a real exactly), then text under a collation, then
blobs byte by byte.
-/

namespace SqlMapper.Database

open SqlMapper.Number

/-- A value as the database stores it. -/
inductive Datum where
  | null
  | integer (n : Int)
  | real (x : Float)
  | text (bytes : List UInt8)
  | blob (bytes : List UInt8)
  deriving Inhabited

/-- Values are equal as data when they are of one class and hold the same
integer, bytes, or bits of a double. -/
instance : BEq Datum where
  beq
    | .null, .null => true
    | .integer a, .integer b => a == b
    | .real x, .real y => x.toBits == y.toBits
    | .text a, .text b => a == b
    | .blob a, .blob b => a == b
    | _, _ => false

/-- The class a column prefers for the values stored in it. -/
inductive Affinity where
  /-- No preference: values are stored as they come. -/
  | blob
  | text | numeric | integer | real
  deriving DecidableEq, Inhabited

/-- The UTF-8 bytes of a string. -/
def utf8 (s : String) : List UInt8 := s.toUTF8.toList

/-- Whether a byte continues a UTF-8 character. -/
def isContinuation (b : UInt8) : Bool := b &&& 0xC0 == 0x80

/-- ASCII upper case of a byte. -/
def upperByte (b : UInt8) : UInt8 := if 97 ≤ b && b ≤ 122 then b - 32 else b

/-- ASCII lower case of a byte. -/
def lowerByte (b : UInt8) : UInt8 := if 65 ≤ b && b ≤ 90 then b + 32 else b

namespace Affinity

/-- Whether a byte string, read from some position, ends a word: the
affinity of a declared type is decided by the first of these it contains,
scanning left to right: `INT` gives integer at once; `CHAR`, `CLOB` or
`TEXT` give text; `BLOB` gives blob, and `REAL`, `FLOA` or `DOUB` give real,
unless an earlier word decided otherwise; anything else is numeric. -/
def scanType : List UInt8 → List UInt8 → Affinity → Affinity
  | [], _, aff => aff
  | b :: rest, window, aff =>
    let w := (window ++ [lowerByte b]).drop (window.length + 1 - min (window.length + 1) 4)
    let is := fun (s : String) => w == utf8 s
    if (w.drop (w.length - min w.length 3)) == utf8 "int" then .integer
    else if is "char" || is "clob" || is "text" then scanType rest w .text
    else if is "blob" && (aff == .numeric || aff == .real) then scanType rest w .blob
    else if (is "real" || is "floa" || is "doub") && aff == .numeric then scanType rest w .real
    else scanType rest w aff

/-- The affinity of a declared column type. -/
def ofType (declared : String) : Affinity := scanType (utf8 declared) [] .numeric

/-- The affinity of a column: blob with no declared type, else by the type. -/
def ofDeclared (declared : String) : Affinity :=
  if declared.isEmpty then .blob else ofType declared

/-- Whether an affinity is one of the numeric ones. -/
def isNumeric : Affinity → Bool
  | .numeric | .integer | .real => true
  | _ => false

end Affinity

namespace Datum

/-- Text from a string. -/
def ofString (s : String) : Datum := .text (utf8 s)

/-- A real, `NULL` for NaN. -/
def ofReal (x : Float) : Datum := if x.isNaN then .null else .real x

/-- The name of a value's class, as `typeof` gives it. -/
def typeName : Datum → String
  | .null => "null"
  | .integer _ => "integer"
  | .real _ => "real"
  | .text _ => "text"
  | .blob _ => "blob"

/-- Whether a value is `NULL`. -/
def isNull : Datum → Bool
  | .null => true
  | _ => false

/-- Whether a value is a number. -/
def isNumber : Datum → Bool
  | .integer _ | .real _ => true
  | _ => false

/-- The text of a value as functions read it, none for `NULL`: numbers as
their text, blobs as their bytes. -/
def textBytes? : Datum → Option (List UInt8)
  | .null => none
  | .integer n => some (utf8 (toString n))
  | .real x => some (utf8 (realText x))
  | .text bs | .blob bs => some bs

/-- The bytes of a value as functions read a blob: the text of numbers and
text, nothing for `NULL`. -/
def bytes (d : Datum) : List UInt8 := d.textBytes?.getD []

/-- The text of a value up to its first NUL byte, as C strings end. -/
def cText? (d : Datum) : Option (List UInt8) := d.textBytes?.map (·.takeWhile (· != 0))

/-- A value as a double: text and blobs read as reals, `NULL` as zero. -/
def toReal : Datum → Float
  | .null => 0.0
  | .integer n => integerFloat n
  | .real x => x
  | .text bs | .blob bs => (readReal bs).value

/-- A value as an integer: reals clamped toward zero, text and blobs by the
integer at their start, `NULL` as zero. -/
def toInteger : Datum → Int
  | .null => 0
  | .integer n => n
  | .real x => floatToInteger x
  | .text bs | .blob bs => (readInteger bs).1

/-- The number text stands for in arithmetic: an integer when the text reads
as one (or as nothing), a real when a point or an exponent is read. -/
def numberOfBytes (bs : List UInt8) : Datum :=
  let r := readReal bs
  match r.form with
  | .none | .realPrefix =>
    let (n, form) := readInteger bs
    if r.form == .none && (form == .exact || form == .withTail || form == .noDigits) then .integer n
    else .real r.value
  | .integer =>
    let (n, form) := readInteger bs
    if form == .exact then .integer n else .real r.value
  | .real => .real r.value

/-- The number a value stands for in arithmetic; `NULL` stays. -/
def numeric : Datum → Datum
  | .text bs | .blob bs => numberOfBytes bs
  | d => d

/-- Whether a value counts as true: a nonzero number, text by its value as a
real; `NULL` is neither. -/
def truth? : Datum → Option Bool
  | .null => none
  | .integer n => some (n != 0)
  | d => some (d.toReal != 0.0)

/-- The truth value as the database writes it. -/
def ofBool (b : Bool) : Datum := .integer (if b then 1 else 0)

/-- A truth value that may be unknown, as the database writes it. -/
def ofTruth : Option Bool → Datum
  | some b => ofBool b
  | none => .null

/-- The place of a value's class in the order of classes. -/
def rank : Datum → Nat
  | .null => 0
  | .integer _ | .real _ => 1
  | .text _ => 2
  | .blob _ => 3

/-! ## Affinities -/

/-- A real as an integer when it is a whole number strictly inside the range. -/
def integerAffinity (x : Float) : Datum :=
  match wholeInteger? x with
  | some n => .integer n
  | none => .real x

/-- Text read as a number when all of it is a numeral: an integer numeral
becomes an integer when its value round-trips or the digits fit, otherwise a
real; with `tryInteger`, a real that is a whole number becomes an integer.
Other text stays. -/
def numericText (tryInteger : Bool) (bs : List UInt8) : Datum :=
  let r := readReal bs
  match r.form with
  | .none | .realPrefix => .text bs
  | .integer =>
    let i := realToInteger r.value
    if realSameAsInteger r.value i then .integer i
    else
      let (n, form) := readInteger bs
      if form == .exact then .integer n
      else if tryInteger then integerAffinity r.value else .real r.value
  | .real => if tryInteger then integerAffinity r.value else .real r.value

/-- A value converted by a column's affinity as it is stored. A real column
holds every number as a real; a whole number passes through the integers on
its way, so that a negative zero becomes zero. -/
def withAffinity (a : Affinity) (d : Datum) : Datum :=
  match a, d with
  | .blob, _ => d
  | .text, .integer n => .text (utf8 (toString n))
  | .text, .real x => .text (utf8 (realText x))
  | .text, _ => d
  | .real, _ =>
    match (match d with
      | .text bs => numericText true bs
      | .real x => integerAffinity x
      | _ => d) with
    | .integer n => .real (integerFloat n)
    | e => e
  | _, .text bs => numericText true bs
  | _, .real x => integerAffinity x
  | _, _ => d

/-- A value as a stored column of an affinity reads back: an integer in a
real column as a real. -/
def readAs (a : Affinity) (d : Datum) : Datum :=
  match a, d with
  | .real, .integer n => .real (integerFloat n)
  | _, _ => d

/-- A value converted to a number by `CAST` to `NUMERIC`: text and blobs to
an integer when they read as one, or are a real equal to a small integer,
else to a real. -/
def numerify : Datum → Datum
  | .text bs | .blob bs =>
    let r := readReal bs
    let (n, form) := readInteger bs
    let readsInteger := (r.form == .none || r.form == .integer) &&
      (form == .exact || form == .withTail || form == .noDigits)
    if readsInteger then .integer n
    else
      let t := floatTruncation r.value
      if realSameAsInteger r.value t then .integer t else .real r.value
  | d => d

/-- A value converted by `CAST` to a type of an affinity. -/
def cast (a : Affinity) (d : Datum) : Datum :=
  match d with
  | .null => .null
  | _ =>
    match a with
    | .blob => .blob d.bytes
    | .text => .text d.bytes
    | .numeric => d.numerify
    | .integer => .integer d.toInteger
    | .real => .ofReal d.toReal

end Datum

/-! ## Order -/

/-- Compares byte lists lexicographically, a prefix first. -/
def compareBytes : List UInt8 → List UInt8 → Ordering
  | [], [] => .eq
  | [], _ :: _ => .lt
  | _ :: _, [] => .gt
  | a :: as, b :: bs => if a < b then .lt else if b < a then .gt else compareBytes as bs

/-- How text is compared: byte by byte; with ASCII letters folded to lower
case; or with trailing spaces ignored. -/
inductive Collation where
  | binary | nocase | rtrim
  deriving DecidableEq, Inhabited

/-- The collation of a name, case ignored; none when there is no such collation. -/
def Collation.ofName? (name : String) : Option Collation :=
  match String.ofList (name.toList.map Char.toUpper) with
  | "BINARY" => some .binary
  | "NOCASE" => some .nocase
  | "RTRIM" => some .rtrim
  | _ => none

/-- The name of a collation. -/
def Collation.name : Collation → String
  | .binary => "BINARY"
  | .nocase => "NOCASE"
  | .rtrim => "RTRIM"

/-- Compares the first `n` bytes with ASCII letters folded, stopping at a NUL
in the first text; equal prefixes compare by length. -/
def compareFolded : List UInt8 → List UInt8 → Ordering
  | [], [] => .eq
  | [], _ :: _ => .lt
  | _ :: _, [] => .gt
  | a :: as, b :: bs =>
    let x := lowerByte a
    let y := lowerByte b
    if a == 0 || x != y then Ord.compare x y else compareFolded as bs

/-- Compares two texts under a collation. -/
def Collation.compare (c : Collation) (a b : List UInt8) : Ordering :=
  match c with
  | .binary => compareBytes a b
  | .rtrim =>
    let strip := fun (x : List UInt8) => (x.reverse.dropWhile (· == 32)).reverse
    compareBytes (strip a) (strip b)
  | .nocase =>
    let n := min a.length b.length
    match compareFolded (a.take n) (b.take n) with
    | .eq => Ord.compare a.length b.length
    | o => o

/-- Compares an integer with a double exactly. -/
def compareIntFloat (n : Int) (x : Float) : Ordering :=
  match BinaryRational.ofFloat? x with
  | some d => (BinaryRational.ofInt n).compare d
  | none => if x.isNaN then .eq else if x > 0 then .lt else .gt

/-- Compares two doubles. -/
def compareFloat (x y : Float) : Ordering :=
  if x < y then .lt else if y < x then .gt else .eq

namespace Datum

/-- Compares two values in the order of the database, text under a collation. -/
def compareWith (c : Collation) : Datum → Datum → Ordering
  | .integer a, .integer b => Ord.compare a b
  | .integer a, .real y => compareIntFloat a y
  | .real x, .integer b => (compareIntFloat b x).swap
  | .real x, .real y => compareFloat x y
  | .text s, .text t => c.compare s t
  | .blob a, .blob b => compareBytes a b
  | a, b => Ord.compare a.rank b.rank

/-- Compares two values byte by byte where they are text. -/
def compare (a b : Datum) : Ordering := compareWith .binary a b

/-- Whether two values are the same value. -/
def same (a b : Datum) : Bool := compare a b == .eq && a.rank == b.rank

/-- A text operand of a numeric comparison, read as a number when all of it is one. -/
def forNumericComparison : Datum → Datum
  | .text bs => numericText false bs
  | d => d

/-- A number operand of a text comparison, as its text. -/
def forTextComparison : Datum → Datum
  | .integer n => .text (utf8 (toString n))
  | .real x => .text (utf8 (realText x))
  | d => d

end Datum

/-- Compares two operands of a comparison after the comparison's affinity:
numeric affinity reads text that is wholly a number as one, text affinity
writes numbers as text; none when either is `NULL`. -/
def compareOperands (aff : Option Affinity) (c : Collation) (x y : Datum) : Option Ordering :=
  if x.isNull || y.isNull then none
  else
    let (x, y) := match aff with
      | some a =>
        if a.isNumeric then (x.forNumericComparison, y.forNumericComparison)
        else if a == Affinity.text then (x.forTextComparison, y.forTextComparison)
        else (x, y)
      | none => (x, y)
    some (x.compareWith c y)

/-- Compares lists of values item by item, a prefix first. -/
def compareData : List Datum → List Datum → Ordering
  | [], [] => .eq
  | [], _ :: _ => .lt
  | _ :: _, [] => .gt
  | a :: as, b :: bs => match a.compare b with
    | .eq => compareData as bs
    | o => o

end SqlMapper.Database
