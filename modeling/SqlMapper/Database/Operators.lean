import SqlMapper.Database.Plan

/-!
# Operators on values

Arithmetic works on integers while both operands are integers (text that
reads wholly as an integer counts as one) and the result stays in the 64-bit
range; otherwise it works on doubles. Dividing by zero, or taking a
remainder by zero, gives `NULL`, as does any `NULL` operand and a NaN
result. An integer quotient goes toward zero; a remainder takes the sign of
the dividend, and a remainder of reals is taken of their integer parts.

Bit operators read their operands as integers; a shift by a negative amount
shifts the other way, and one by 64 or more leaves `0` (or `-1` for a right
shift of a negative number). Concatenation writes numbers as text and joins
the bytes; its result is text.

Comparisons first convert their operands by the affinity of the comparison,
then order them: `NULL` gives an unknown result except under `IS`, which
takes two `NULL`s as equal.
-/

namespace SqlMapper.Database

open SqlMapper.Number

/-- An integer result, or none when it leaves the stored range. -/
def inRange? (n : Int) : Option Int := if fitsInteger n then some n else none

/-- The remainder of two doubles, exact, with the sign of the dividend:
NaN when the divisor is zero or the dividend is not finite, the dividend
when the divisor is infinite. -/
def realRemainder (x y : Float) : Float :=
  match BinaryRational.ofFloat? x, BinaryRational.ofFloat? y with
  | some a, some b =>
    if b.isZero then 0.0 / 0.0
    else
      let e := min a.exponent b.exponent
      let am := a.mantissa * Nat.pow 2 (a.exponent - e).toNat
      let bm := b.mantissa * Nat.pow 2 (b.exponent - e).toNat
      BinaryRational.toFloat ⟨a.negative, am % bm, e⟩
  | some _, none => if y.isNaN then y else x
  | none, _ => 0.0 / 0.0

/-- The result of arithmetic on doubles; a remainder is taken of the
operands' integer values. -/
def realArithmetic (op : ArithOp) (a b : Datum) : Datum :=
  let x := a.toReal
  let y := b.toReal
  match op with
  | .add => .ofReal (x + y)
  | .sub => .ofReal (x - y)
  | .mul => .ofReal (x * y)
  | .div => if y == 0.0 then .null else .ofReal (x / y)
  | _ =>
    let m := a.toInteger
    let n := b.toInteger
    if n == 0 then .null
    else .ofReal (integerFloat (m.tmod (if n == -1 then 1 else n)))

/-- Arithmetic on two values that are not `NULL`: on integers when both
stand for integers and the result fits, else on doubles. -/
def arithmetic (op : ArithOp) (a b : Datum) : Datum :=
  match a.numeric, b.numeric with
  | .integer m, .integer n =>
    let exact : Option (Option Int) := match op with
      | .add => some (inRange? (m + n))
      | .sub => some (inRange? (m - n))
      | .mul => some (inRange? (m * n))
      | .div => if n == 0 then none else if n == -1 && m == minInteger then some none else some (some (m.tdiv n))
      | _ => if n == 0 then none else some (some (m.tmod (if n == -1 then 1 else n)))
    match exact with
    | none => .null
    | some (some r) => .integer r
    | some none => realArithmetic op a b
  | _, _ => realArithmetic op a b

/-- A 64-bit pattern as a signed integer. -/
def signedOfBits (n : Nat) : Int := if n ≥ Nat.pow 2 63 then (n : Int) - Int.pow 2 64 else n

/-- The 64-bit pattern of a signed integer. -/
def bitsOfSigned (n : Int) : Nat := (n % Int.pow 2 64).toNat

/-- Shifts an integer left by an amount below 64, keeping 64 bits. -/
def shiftLeftBy (m : Int) (k : Nat) : Int := signedOfBits ((bitsOfSigned m * Nat.pow 2 k) % Nat.pow 2 64)

/-- Shifts an integer right by an amount below 64, copying its sign. -/
def shiftRightBy (m : Int) (k : Nat) : Int := m / Int.pow 2 k

/-- A shift: left when `left`, by an amount that may be negative or large. -/
def shift (left : Bool) (m n : Int) : Int :=
  if n == 0 then m
  else
    let (left, n) := if n < 0 then (!left, if n > -64 then -n else 64) else (left, n)
    if n ≥ 64 then (if m ≥ 0 || left then 0 else -1)
    else if left then shiftLeftBy m n.toNat else shiftRightBy m n.toNat

/-- A bit operator on two integers. -/
def bitwise (op : ArithOp) (m n : Int) : Int :=
  match op with
  | .bitAnd => signedOfBits (bitsOfSigned m &&& bitsOfSigned n)
  | .bitOr => signedOfBits (bitsOfSigned m ||| bitsOfSigned n)
  | .shiftLeft => shift true m n
  | _ => shift false m n

/-- The text a value contributes to a concatenation. -/
def concatBytes : Datum → List UInt8
  | .integer n => utf8 (toString n)
  | .real x => utf8 (realText x)
  | .text bs | .blob bs => bs
  | .null => []

/-- Applies an operator to two values. -/
def applyArith (op : ArithOp) (a b : Datum) : Datum :=
  if a.isNull || b.isNull then .null
  else match op with
    | .concat => .text (concatBytes a ++ concatBytes b)
    | .bitAnd | .bitOr | .shiftLeft | .shiftRight => .integer (bitwise op a.toInteger b.toInteger)
    | _ => arithmetic op a b

/-- The negation of a value: zero minus it. -/
def negateValue (d : Datum) : Datum := applyArith .sub (.integer 0) d

/-- The bitwise complement of a value. -/
def complementValue : Datum → Datum
  | .null => .null
  | d => .integer (-d.toInteger - 1)

/-- Whether an ordering satisfies a comparison operator. -/
def CompareOp.holds (op : CompareOp) (o : Ordering) : Bool :=
  match op with
  | .eq | .is => o == .eq
  | .ne | .isNot => o != .eq
  | .lt => o == .lt
  | .le => o != .gt
  | .gt => o == .gt
  | .ge => o != .lt

/-- Compares two values under a comparer: `NULL` when either is `NULL`,
except that `IS` and `IS NOT` take `NULL` as equal to itself and unequal to
anything else. -/
def compareValues (op : CompareOp) (c : Comparer) (a b : Datum) : Datum :=
  match compareOperands c.affinity c.collation a b with
  | some o => .ofBool (op.holds o)
  | none =>
    match op with
    | .is => .ofBool (a.isNull && b.isNull)
    | .isNot => .ofBool !(a.isNull && b.isNull)
    | _ => .null

/-- Compares row values of one size, element by element. For equality: false
when some pair differs, else unknown when some pair holds `NULL`, else true.
For order: decided by the first pair that differs, unknown when that pair
holds `NULL`. -/
def compareRowValues (op : CompareOp) (cs : List Comparer) (as bs : List Datum) : Datum :=
  let nullEq := op == .is || op == .isNot
  let pairs := (cs.zip (as.zip bs)).map fun (c, a, b) =>
    if nullEq && a.isNull && b.isNull then some Ordering.eq
    else if nullEq && (a.isNull || b.isNull) then some Ordering.lt
    else compareOperands c.affinity c.collation a b
  match op with
  | .eq | .ne | .is | .isNot =>
    let r : Option Bool :=
      if pairs.any (fun p => p.isSome && p != some .eq) then some false
      else if pairs.any (·.isNone) then none
      else some true
    let r := if op == .ne || op == .isNot then r.map (!·) else r
    .ofTruth r
  | _ =>
    let rec go : List (Option Ordering) → Datum
      | [] => .ofBool (op.holds .eq)
      | [p] => match p with
        | some o => .ofBool (op.holds o)
        | none => .null
      | p :: rest => match p with
        | some .eq => go rest
        | some o => .ofBool (op.holds o)
        | none => .null
    go pairs

end SqlMapper.Database
