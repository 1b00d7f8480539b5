import SqlMapper.Number.BinaryRational

/-!
# Numerals in stored text

Text becomes a number in two ways. As a real, it is read as an optional sign,
digits, an optional point with digits, and an optional exponent, blanks around
it skipped; the significand keeps at most eighteen or so digits and the rest
only move the decimal point. The value is the significand scaled by a power of
ten that is built in steps of ten and of `10^22` in the extended format, the
quotient or product taken there and rounded once more to a double. Very large
and very small exponents take a last step of `10^308` in doubles.

As an integer, text is read as an optional sign and digits, leading zeros
skipped; a value beyond the 64-bit range is clamped to it, and what follows
the digits decides the verdict.
-/

namespace SqlMapper.Database

open SqlMapper.Number

/-- Bytes skipped around numerals: space, tab, line feed, vertical tab, form
feed and carriage return. -/
def isSpaceByte (b : UInt8) : Bool := b == 32 || (9 ≤ b && b ≤ 13)

/-- Whether a byte is an ASCII digit. -/
def isDigitByte (b : UInt8) : Bool := 48 ≤ b && b ≤ 57

/-- The value of an ASCII digit byte. -/
def digitValue (b : UInt8) : Nat := b.toNat - 48

/-- The least integer the database stores. -/
def minInteger : Int := -Int.pow 2 63

/-- The greatest integer the database stores. -/
def maxInteger : Int := Int.pow 2 63 - 1

/-- Whether an integer is in the stored range. -/
def fitsInteger (n : Int) : Bool := decide (minInteger ≤ n ∧ n ≤ maxInteger)

/-- How much of a text is a real numeral. -/
inductive RealForm where
  /-- All of it, blanks around apart, is an integer numeral. -/
  | integer
  /-- All of it is a numeral with a point or an exponent. -/
  | real
  /-- A numeral with a point or a complete exponent, followed by other text. -/
  | realPrefix
  /-- No digits, or digits without a point followed by other text. -/
  | none
  deriving DecidableEq, Inhabited

/-- A real read from text: its value and how much of the text it took. -/
structure RealReading where
  value : Float
  form : RealForm
  deriving Inhabited

/-- The significand limit past which further digits only move the point. -/
def significandLimit : Nat := (Nat.pow 2 63 - 1 - 9) / 10

/-- Reads the digits before the point into the significand `s`; once it
reaches the limit, further digits only raise the decimal exponent `d`.
Gives the significand, the shift, the number of digits taken, and the rest. -/
def readWholeDigits : List UInt8 → Nat → Int → Nat → Nat × Int × Nat × List UInt8
  | b :: rest, s, d, n =>
    if isDigitByte b then
      let s := s * 10 + digitValue b
      if s ≥ significandLimit then
        let skipped := rest.takeWhile isDigitByte
        (s, d + skipped.length, n + 1, rest.drop skipped.length)
      else readWholeDigits rest s d (n + 1)
    else (s, d, n, b :: rest)
  | [], s, d, n => (s, d, n, [])

/-- Reads the digits after the point: each lowers the decimal exponent while
the significand has room, and is skipped after. -/
def readFractionDigits : List UInt8 → Nat → Int → Nat → Nat × Int × Nat × List UInt8
  | b :: rest, s, d, n =>
    if isDigitByte b then
      if s < significandLimit then readFractionDigits rest (s * 10 + digitValue b) (d - 1) (n + 1)
      else readFractionDigits rest s d n
    else (s, d, n, b :: rest)
  | [], s, d, n => (s, d, n, [])

/-- Reads exponent digits, the value held at 10000 once it gets there. -/
def readExponentDigits : List UInt8 → Nat → Nat × Bool × List UInt8
  | b :: rest, e =>
    if isDigitByte b then
      let (e', _, tail) := readExponentDigits rest (if e < 10000 then e * 10 + digitValue b else 10000)
      (e', true, tail)
    else (e, false, b :: rest)
  | [], e => (e, false, [])

/-- `10^k` built by `k` multiplications by ten in the extended format. -/
def tenSteps (k : Nat) : BinaryRational :=
  (List.range k).foldl (fun s _ => s.mulIn .extended (.ofInt 10)) (.ofInt 1)

/-- The scale `10^e` for exponents up to 307: steps of ten for `e mod 22`,
then steps of `10^22`, each rounded to the extended format. -/
def decimalScale (e : Nat) : BinaryRational :=
  (List.range (e / 22)).foldl (fun s _ => s.mulIn .extended (.ofInt (Int.pow 10 22))) (tenSteps (e % 22))

/-- The double of a nonzero signed significand `s` scaled by `10^±e`. -/
def scaledSignificand (s : Int) (e : Nat) (down : Bool) : Float :=
  let sig := BinaryRational.ofInt s
  if e = 0 then sig.toFloat
  else if e > 307 then
    if e < 342 then
      let scale := tenSteps (e - 308)
      let big := decimalDouble 1 308
      if down then
        let r := (sig.divIn .extended scale).round .double
        (r.divIn .double big).toFloat
      else
        let r := (sig.mulIn .extended scale).round .double
        (r.mulIn .double big).toFloat
    else if down then (if s < 0 then -0.0 else 0.0)
    else (if s < 0 then -(1.0 / 0.0) else 1.0 / 0.0)
  else
    let scale := decimalScale e
    if down then (sig.divIn .extended scale).toFloat else (sig.mulIn .extended scale).toFloat

/-- Moves powers of ten between the exponent and the significand while that
is exact: multiplying while the significand stays below a tenth of the
largest integer, dividing while it ends in a zero. -/
def reduceExponent : Nat → Nat → Nat → Bool → Nat × Nat
  | 0, s, e, _ => (s, e)
  | fuel + 1, s, e, down =>
    if e = 0 then (s, e)
    else if !down then
      if s ≥ (Nat.pow 2 63 - 1) / 10 then (s, e) else reduceExponent fuel (s * 10) (e - 1) down
    else
      if s % 10 != 0 then (s, e) else reduceExponent fuel (s / 10) (e - 1) down

/-- Reads a real from text. -/
def readReal (text : List UInt8) : RealReading :=
  let cs := text.dropWhile isSpaceByte
  if cs.isEmpty then ⟨0.0, .none⟩ else
  let (negative, cs) := match cs with
    | 45 :: r => (true, r)
    | 43 :: r => (false, r)
    | r => (false, r)
  let (s, d, nDigits, cs) := readWholeDigits cs 0 0 0
  -- the point and the digits after it
  let (s, d, nDigits, cs, pointed) := match cs with
    | 46 :: r =>
      let (s, d, n, r) := readFractionDigits r s d nDigits
      (s, d, n, r, true)
    | r => (s, d, nDigits, r, false)
  -- the exponent: `e` or `E`, a sign, digits
  let (expValue, expNegative, expValid, hasExp, cs) := match cs with
    | b :: r =>
      if b == 101 || b == 69 then
        if r.isEmpty then (0, false, false, true, r) else
        let (eneg, r) := match r with
          | 45 :: t => (true, t)
          | 43 :: t => (false, t)
          | t => (false, t)
        let (e, valid, tail) := readExponentDigits r 0
        (e, eneg, valid, true, tail.dropWhile isSpaceByte)
      else (0, false, true, false, (b :: r).dropWhile isSpaceByte)
    | [] => (0, false, true, false, [])
  let kind : Nat := 1 + (if pointed then 1 else 0) + (if hasExp then 1 else 0)
  let e : Int := (if expNegative then -(expValue : Int) else expValue) + d
  let value : Float :=
    if s = 0 then (if negative then -0.0 else 0.0)
    else
      let (s, eAbs) := reduceExponent (e.natAbs + 1) s e.natAbs (decide (e < 0))
      scaledSignificand (if negative then -(s : Int) else s) eAbs (decide (e < 0))
  let form : RealForm :=
    if cs.isEmpty && nDigits > 0 && expValid then (if kind = 1 then .integer else .real)
    else if kind ≥ 2 && (kind = 3 || expValid) && nDigits > 0 then .realPrefix
    else .none
  ⟨value, form⟩

/-- How much of a text is an integer numeral. -/
inductive IntegerForm where
  /-- Digits, blanks around apart, that fit the range. -/
  | exact
  /-- Digits that fit, followed by other text. -/
  | withTail
  /-- No digits at all. -/
  | noDigits
  /-- Digits beyond the range; the value is clamped. -/
  | overflow
  /-- Exactly `2^63`, which fits only with a minus sign. -/
  | edge
  deriving DecidableEq, Inhabited

/-- Reads an integer from text: the value, clamped to the stored range, and
the verdict on the text. -/
def readInteger (text : List UInt8) : Int × IntegerForm :=
  let cs := text.dropWhile isSpaceByte
  let (negative, cs) := match cs with
    | 45 :: r => (true, r)
    | 43 :: r => (false, r)
    | r => (false, r)
  let afterZeros := cs.dropWhile (· == 48)
  let zeros := cs.length - afterZeros.length
  let ds := afterZeros.takeWhile isDigitByte
  let rest := afterZeros.drop ds.length
  let u : Nat := ds.foldl (fun n b => n * 10 + digitValue b) 0
  let clamped : Int := if negative then minInteger else maxInteger
  let value : Int := if u > Nat.pow 2 63 - 1 then clamped else if negative then -(u : Int) else u
  let verdict : IntegerForm :=
    if ds.isEmpty && zeros = 0 then .noDigits
    else if rest.any (fun b => !isSpaceByte b) then .withTail
    else .exact
  if ds.length < 19 then (value, verdict)
  else if ds.length > 19 || u > Nat.pow 2 63 then (clamped, .overflow)
  else if u < Nat.pow 2 63 then (value, verdict)
  else if negative then (minInteger, verdict) else (maxInteger, .edge)

/-- A hexadecimal integer literal's digits as a 64-bit pattern, read as a
signed integer; none when more than sixteen significant digits. -/
def readHexInteger (digits : List Char) : Option Int :=
  let significant := digits.dropWhile (· == '0')
  if significant.length > 16 then none
  else
    let u : Nat := digits.foldl (fun n c =>
      n * 16 + (if c.isDigit then c.toNat - 48 else if 'a' ≤ c && c ≤ 'f' then c.toNat - 87 else c.toNat - 55)) 0
    some (if u ≥ Nat.pow 2 63 then (u : Int) - Int.pow 2 64 else u)

/-- The integer of a double as a clamping conversion gives it: the least or
greatest integer beyond the range, NaN as the least, else toward zero. -/
def floatToInteger (x : Float) : Int :=
  match BinaryRational.ofFloat? x with
  | none => if x.isNaN then minInteger else if x > 0 then maxInteger else minInteger
  | some d =>
    let n := d.truncate
    if n ≤ minInteger then minInteger else if n ≥ Int.pow 2 63 then maxInteger else n

/-- The integer a plain machine conversion gives a double: toward zero within
the range, the least integer outside it and for NaN. -/
def floatTruncation (x : Float) : Int :=
  match BinaryRational.ofFloat? x with
  | none => minInteger
  | some d =>
    let n := d.truncate
    if fitsInteger n then n else minInteger

/-- The integer of a double that is meant to be one: the least or greatest
integer a little inside the range's ends, else toward zero. -/
def realToInteger (x : Float) : Int :=
  if x < -9223372036854774784.0 then minInteger
  else if x > 9223372036854774784.0 then maxInteger
  else floatTruncation x

/-- The double nearest an integer. -/
def integerFloat (n : Int) : Float := (BinaryRational.ofInt n).toFloat

/-- Whether a double and an integer are one number in a way that survives a
round trip: the double is zero, or the integer converts to exactly the same
bits and lies within `±2^51`. -/
def realSameAsInteger (x : Float) (n : Int) : Bool :=
  x == 0.0 || ((integerFloat n).toBits == x.toBits && -Int.pow 2 51 ≤ n && n < Int.pow 2 51)

/-- The integer a double names, if it is a whole number strictly inside the
stored range. -/
def wholeInteger? (x : Float) : Option Int :=
  let n := floatToInteger x
  match BinaryRational.ofFloat? x with
  | some d => if d.compare (BinaryRational.ofInt n) == .eq && minInteger < n && n < maxInteger then some n else none
  | none => none

end SqlMapper.Database
