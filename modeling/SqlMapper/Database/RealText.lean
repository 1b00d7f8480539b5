import SqlMapper.Database.Numeral

/-!
# Reals as text

A real is written in one of three styles: fixed (`%f`: digits, a point, a
given number of decimals), scientific (`%e`: one digit, a point, decimals and
an exponent of at least two digits) or general (`%g`: a given number of
significant digits, scientific when the exponent is below -4 or not below
that number, trailing zeros dropped).

The digits come from the extended format. Half a unit of the last place is
added first, with a nudge of `3·10^-16` of the value for fixed decimals that
do not reach the fifteenth digit; the value is brought to `[1, 10)` by powers
of ten, and digits are peeled off one at a time: the integer part, then the
fraction times ten. After sixteen significant digits (twenty-six with the `!`
flag) only zeros come.

The text of a stored real is the general style with fifteen significant
digits and the `!` flag: `1.5`, `100.0`, `1.0e+100`, `0.0` for both zeros.
-/

namespace SqlMapper.Database

open SqlMapper.Number

/-- The styles of a real. -/
inductive RealStyle where
  | fixed | scientific | general
  deriving DecidableEq, Inhabited

/-- How a real is written. -/
structure RealFormat where
  style : RealStyle
  /-- Decimals for fixed and scientific, significant digits for general. -/
  precision : Nat
  exponentLetter : Char := 'e'
  /-- The `#` flag: the point always, and for general the trailing zeros. -/
  alternate : Bool := false
  /-- The `!` flag: more significant digits, and a zero after a bare point. -/
  extended : Bool := false
  /-- What stands before a positive number: `+`, a space, or nothing. -/
  plusSign : Option Char := none
  /-- The width to fill with zeros after the sign, if any. -/
  zeroFill : Option Nat := none
  /-- The `,` flag: a comma between groups of three digits before the point. -/
  thousands : Bool := false
  deriving Inhabited

/-- Half a unit in the last of `precision` decimal places, as a double:
`0.5 · 10^-(p mod 10)` times `10^-10` for each further ten places. -/
def halfUnit (precision : Nat) : BinaryRational :=
  let idx := precision % 4096
  let base := decimalDouble 5 (-((idx % 10 + 1 : Nat) : Int))
  (List.range (idx / 10)).foldl (fun r _ => r.mulIn .double (decimalDouble 1 (-10))) base

/-- The binary exponent of a double's leading bit, -1023 for zero and tiny values. -/
def exponentField (x : Float) : Int := ((x.toBits.toNat / Nat.pow 2 52) % Nat.pow 2 11 : Nat) - 1023

/-- Raises `scale` by `step` while the value is at least `step · scale` and the
decimal exponent has not passed 350. -/
def growScale (v step : BinaryRational) (k : Int) : Nat → BinaryRational × Int → BinaryRational × Int
  | 0, s => s
  | fuel + 1, (scale, exp) =>
    if v.ge (step.mulIn .extended scale) && exp ≤ 350 then
      growScale v step k fuel (scale.mulIn .extended step, exp + k)
    else (scale, exp)

/-- Multiplies the value by `step` while it is below `bound`. -/
def raiseBelow (bound step : BinaryRational) (k : Int) : Nat → BinaryRational × Int → BinaryRational × Int
  | 0, s => s
  | fuel + 1, (v, exp) =>
    if v.lt bound then raiseBelow bound step k fuel (v.mulIn .extended step, exp - k) else (v, exp)

/-- A positive value brought to `[1, 10)`, with its decimal exponent. -/
def normalizeDecimal (v : BinaryRational) : BinaryRational × Int :=
  let one := BinaryRational.ofInt 1
  let s := growScale v (decimalDouble 1 100) 100 8 (one, 0)
  let s := growScale v (.ofInt (Int.pow 10 10)) 10 40 s
  let (scale, exp) := growScale v (.ofInt 10) 1 400 s
  let v := v.divIn .extended scale
  let (v, exp) := raiseBelow (decimalDouble 1 (-8)) (.ofInt (Int.pow 10 8)) 8 100 (v, exp)
  raiseBelow one (.ofInt 10) 1 20 (v, exp)

/-- The next digit of a value in `[0, 10)` and the value of the rest; zeros once
`count` digits are out. -/
def nextDigit (v : BinaryRational) (count : Nat) : Char × BinaryRational × Nat :=
  match count with
  | 0 => ('0', v, 0)
  | c + 1 =>
    let d := v.truncate.toNat
    (Char.ofNat (48 + d), (v.subIn .extended (.ofInt d)).mulIn .extended (.ofInt 10), c)

/-- `n` digits of a value, with the state after them. -/
def takeDigits : Nat → BinaryRational → Nat → List Char × BinaryRational × Nat
  | 0, v, c => ([], v, c)
  | n + 1, v, c =>
    let (d, v, c) := nextDigit v c
    let (ds, v, c) := takeDigits n v c
    (d :: ds, v, c)

/-- Drops trailing zeros after a point, and then the point itself unless `keepZero`
puts a zero after it. -/
def dropTrailingZeros (keepZero : Bool) (cs : List Char) : List Char :=
  let r := cs.reverse.dropWhile (· == '0')
  match r with
  | '.' :: rest => if keepZero then ('0' :: '.' :: rest).reverse else rest.reverse
  | _ => r.reverse

/-- The exponent suffix: the letter, the sign, and two or three digits. -/
def exponentSuffix (letter : Char) (exp : Int) : List Char :=
  let a := exp.natAbs
  let hundreds := if a ≥ 100 then [Char.ofNat (48 + a / 100)] else []
  let a := a % 100
  letter :: (if exp < 0 then '-' else '+') :: hundreds ++ [Char.ofNat (48 + a / 10), Char.ofNat (48 + a % 10)]

/-- Whole digits with a comma after each digit whose place is a positive
multiple of three. -/
def groupThousands (ds : List Char) : List Char :=
  let n := ds.length
  (ds.zipIdx.flatMap fun (d, i) =>
    let place := n - 1 - i
    if place % 3 == 0 && place > 1 then [d, ','] else [d])

/-- The text of a real in a format. -/
def RealFormat.render (f : RealFormat) (x : Float) : String :=
  if x.isNaN then "NaN" else
  let negative := x < 0.0
  let sign : List Char := if negative then ['-'] else match f.plusSign with
    | some c => [c]
    | none => []
  if x.isInf then String.ofList (sign ++ "Inf".toList) else
  let v := ((BinaryRational.ofFloat? x).getD .zero).abs
  let precision := if f.style = .general && f.precision > 0 then f.precision - 1 else f.precision
  let rounder := halfUnit precision
  let v := if f.style = .fixed then
      let rounder := if (precision : Int) + (exponentField x.abs).tdiv 3 < 15 then
          (rounder.addIn .extended (v.mulIn .extended (decimalDouble 3 (-16)))).round .double
        else rounder
      v.addIn .extended rounder
    else v
  let (v, exp) := if v.isZero then (v, (0 : Int)) else normalizeDecimal v
  let (v, exp) := if f.style = .fixed then (v, exp)
    else
      let v := v.addIn .extended rounder
      if v.ge (.ofInt 10) then (v.mulIn .extended (decimalDouble 1 (-1)), exp + 1) else (v, exp)
  let (scientific, precision, trimZeros) := match f.style with
    | .general =>
      if exp < -4 || exp > precision then (true, precision, !f.alternate)
      else (false, (precision - exp).toNat, !f.alternate)
    | .scientific => (true, precision, f.extended)
    | .fixed => (false, precision, f.extended)
  let e2 : Int := if scientific then 0 else exp
  let count := if f.extended then 26 else 16
  let point := precision > 0 || f.alternate || f.extended
  let (whole, v, count) := if e2 < 0 then (['0'], v, count) else takeDigits (e2.toNat + 1) v count
  let whole := if f.thousands then groupThousands whole else whole
  let leadZeros := if e2 < 0 then (-(e2 + 1)).toNat else 0
  let (fraction, _, _) := takeDigits (precision - leadZeros) v count
  let body := whole ++ (if point then ['.'] else []) ++ List.replicate leadZeros '0' ++ fraction
  let body := if trimZeros && point then dropTrailingZeros f.extended body else body
  let body := if scientific then body ++ exponentSuffix f.exponentLetter exp else body
  let body := match f.zeroFill with
    | some width =>
      if sign.length + body.length < width then List.replicate (width - sign.length - body.length) '0' ++ body
      else body
    | none => body
  String.ofList (sign ++ body)

/-- The text the database gives a stored real: fifteen significant digits,
always with a point. -/
def realText (x : Float) : String :=
  RealFormat.render { style := .general, precision := 15, extended := true } x

end SqlMapper.Database
