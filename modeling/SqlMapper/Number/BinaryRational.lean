import SqlMapper.Number.Shortest

/-!
# Binary rationals and binary formats

A finite binary float is a binary rational `±m · 2^e`. Sums and products of
binary rationals are exact; a format keeps a fixed number of significant bits,
and perhaps a least exponent for its last bit, and an operation of the format
is the exact result rounded to the format's grid, half to even.

Two formats matter here: doubles (53 bits, the last bit no lower than
`2^-1074`, so that tiny values lose precision gradually) and the 64-bit
extended format, whose exponent range is so wide that no computation here
leaves it. A double is read exactly from its bits and written back from a
value on its grid, infinity beyond the largest double.
-/

namespace SqlMapper.Number

/-- A signed dyadic rational `±m · 2^e`. A zero keeps its sign. -/
structure BinaryRational where
  negative : Bool
  mantissa : Nat
  exponent : Int
  deriving Inhabited, Repr

/-- A binary format: the number of significant bits its values keep, and the
least exponent their last bit may have, if any. -/
structure BinaryFormat where
  precision : Nat
  leastExponent : Option Int

/-- Doubles: 53 significant bits, the last bit at `2^-1074` or above. -/
def BinaryFormat.double : BinaryFormat := ⟨53, some (-1074)⟩

/-- The extended format: 64 significant bits, with an exponent range that the
computations here never leave. -/
def BinaryFormat.extended : BinaryFormat := ⟨64, none⟩

/-- Rounds the exact ratio `n / d · 2^e` of positive naturals to a format's
grid, half to even: the mantissa and the exponent of its last bit. The
mantissa may reach `2^precision` when rounding carries. -/
def roundRatio (f : BinaryFormat) (n d : Nat) (e : Int) : Nat × Int :=
  let k : Int := (Nat.log2 n : Int) - (Nat.log2 d : Int)
  let atLeast : Bool := if k ≥ 0 then decide (n ≥ d * Nat.pow 2 k.toNat) else decide (n * Nat.pow 2 (-k).toNat ≥ d)
  -- the exponent of the leading bit of the value
  let top := (if atLeast then k else k - 1) + e
  let lsb := top + 1 - (f.precision : Int)
  let lsb := match f.leastExponent with
    | some least => max lsb least
    | none => lsb
  let shift := e - lsb
  let (num, den) := if shift ≥ 0 then (n * Nat.pow 2 shift.toNat, d) else (n, d * Nat.pow 2 (-shift).toNat)
  let q := num / den
  let r := num % den
  let q := if 2 * r > den || (2 * r == den && q % 2 == 1) then q + 1 else q
  (q, lsb)

namespace BinaryRational

/-- Positive zero. -/
def zero : BinaryRational := ⟨false, 0, 0⟩

/-- An integer, exactly. -/
def ofInt (n : Int) : BinaryRational := ⟨decide (n < 0), n.natAbs, 0⟩

/-- Whether a value is zero. -/
def isZero (x : BinaryRational) : Bool := x.mantissa == 0

/-- The value with its sign flipped. -/
def neg (x : BinaryRational) : BinaryRational := { x with negative := !x.negative }

/-- The absolute value. -/
def abs (x : BinaryRational) : BinaryRational := { x with negative := false }

/-- The signed mantissa. -/
def signedMantissa (x : BinaryRational) : Int := if x.negative then -(x.mantissa : Int) else x.mantissa

/-- The exact product. -/
def mul (x y : BinaryRational) : BinaryRational :=
  ⟨x.negative != y.negative, x.mantissa * y.mantissa, x.exponent + y.exponent⟩

/-- The signed mantissas of two nonzero values over their common least exponent. -/
def aligned (x y : BinaryRational) : Int × Int × Int :=
  let e := min x.exponent y.exponent
  (x.signedMantissa * Int.pow 2 (x.exponent - e).toNat, y.signedMantissa * Int.pow 2 (y.exponent - e).toNat, e)

/-- The exact sum; an exact zero sum is negative only when both terms are. -/
def add (x y : BinaryRational) : BinaryRational :=
  if x.isZero && y.isZero then ⟨x.negative && y.negative, 0, 0⟩
  else if x.isZero then y
  else if y.isZero then x
  else
    let (a, b, e) := aligned x y
    let s := a + b
    if s = 0 then zero else ⟨decide (s < 0), s.natAbs, e⟩

/-- The exact difference. -/
def sub (x y : BinaryRational) : BinaryRational := x.add y.neg

/-- Compares two values exactly; the zeros are equal. -/
def compare (x y : BinaryRational) : Ordering :=
  if x.isZero && y.isZero then .eq
  else if x.isZero then (if y.negative then .gt else .lt)
  else if y.isZero then (if x.negative then .lt else .gt)
  else
    let (a, b, _) := aligned x y
    Ord.compare a b

/-- Whether one value is below another. -/
def lt (x y : BinaryRational) : Bool := x.compare y == .lt

/-- Whether one value is at least another. -/
def ge (x y : BinaryRational) : Bool := x.compare y != .lt

/-- The integer part, toward zero. -/
def truncate (x : BinaryRational) : Int :=
  let m : Nat := if x.exponent ≥ 0 then x.mantissa * Nat.pow 2 x.exponent.toNat else x.mantissa / Nat.pow 2 (-x.exponent).toNat
  if x.negative then -(m : Int) else m

/-- The value rounded to a format. -/
def round (f : BinaryFormat) (x : BinaryRational) : BinaryRational :=
  if x.isZero then x
  else
    let (q, e) := roundRatio f x.mantissa 1 x.exponent
    ⟨x.negative, q, e⟩

/-- The product in a format. -/
def mulIn (f : BinaryFormat) (x y : BinaryRational) : BinaryRational := (x.mul y).round f

/-- The sum in a format. -/
def addIn (f : BinaryFormat) (x y : BinaryRational) : BinaryRational := (x.add y).round f

/-- The difference in a format. -/
def subIn (f : BinaryFormat) (x y : BinaryRational) : BinaryRational := (x.sub y).round f

/-- The quotient in a format, by a nonzero divisor. -/
def divIn (f : BinaryFormat) (x y : BinaryRational) : BinaryRational :=
  if x.isZero || y.isZero then ⟨x.negative != y.negative, 0, 0⟩
  else
    let (q, e) := roundRatio f x.mantissa y.mantissa (x.exponent - y.exponent)
    ⟨x.negative != y.negative, q, e⟩

/-- The value of a finite double, none for infinities and NaN. -/
def ofFloat? (x : Float) : Option BinaryRational :=
  match classify x with
  | .nan | .infinite _ => none
  | .zero neg => some ⟨neg, 0, 0⟩
  | .finite neg b => some ⟨neg, b.mantissa, b.exponent⟩

/-- The double nearest a value: rounded to the double grid, infinity past the
largest double, the bits packed as sign, biased exponent and fraction. -/
def toFloat (x : BinaryRational) : Float :=
  let signBit : Nat := if x.negative then Nat.pow 2 63 else 0
  if x.isZero then Float.ofBits signBit.toUInt64
  else
    let (q, lsb) := roundRatio .double x.mantissa 1 x.exponent
    let (m, e) := if q ≥ Nat.pow 2 53 then (q / 2, lsb + 1) else (q, lsb)
    if m < Nat.pow 2 52 then Float.ofBits (signBit + m).toUInt64
    else
      let biased := e + 1075
      if biased ≥ 2047 then Float.ofBits (signBit + 2047 * Nat.pow 2 52).toUInt64
      else Float.ofBits (signBit + biased.toNat * Nat.pow 2 52 + (m - Nat.pow 2 52)).toUInt64

end BinaryRational

/-- The double nearest `m · 10^k`, as a dyadic value on the double grid. -/
def decimalDouble (m : Nat) (k : Int) : BinaryRational :=
  if m = 0 then BinaryRational.zero
  else
    let (q, e) := if k ≥ 0 then roundRatio .double (m * Nat.pow 10 k.toNat) 1 0 else roundRatio .double m (Nat.pow 10 (-k).toNat) 0
    ⟨false, q, e⟩

example : ((BinaryRational.ofInt 3).mulIn .double (BinaryRational.ofInt 5)).truncate = 15 := by decide

end SqlMapper.Number
