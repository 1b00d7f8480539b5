/-!
# Shortest decimal digits of a binary float

A finite double is `m · 2^q`. The reals that round to it form an interval
around it, halfway to its neighbours, its ends included when `m` is even. The
shortest decimal for the double is the coarsest decimal grid `10^t` that has a
point in that interval; of the points there, the one nearest the double wins,
a tie going to the even one. All comparisons are exact, in natural numbers.
-/

namespace SqlMapper.Number

/-- A finite, nonzero double as `m · 2^q`, with the gap below it halved when
`m` starts a binade. -/
structure Binary where
  mantissa : Nat
  exponent : Int
  narrowBelow : Bool

/-- What the bits of a double hold. -/
inductive FloatClass where
  | nan
  | infinite (negative : Bool)
  | zero (negative : Bool)
  | finite (negative : Bool) (b : Binary)

/-- Decodes the bits of a double. -/
def classify (x : Float) : FloatClass :=
  let bits := x.toBits.toNat
  let negative := bits ≥ Nat.pow 2 63
  let e : Nat := (bits / Nat.pow 2 52) % Nat.pow 2 11
  let f : Nat := bits % Nat.pow 2 52
  if e = 2047 then (if f = 0 then .infinite negative else .nan)
  else if e = 0 then
    (if f = 0 then .zero negative else .finite negative ⟨f, -1074, false⟩)
  else .finite negative ⟨f + Nat.pow 2 52, (e : Int) - 1075, f = 0 && e > 1⟩

/-- The interval of a double in units of `2^(q-2)`: its low end, the value, its
high end, and whether the ends belong to it. -/
def Binary.interval (b : Binary) : Nat × Nat × Nat × Bool :=
  let v := 4 * b.mantissa
  (if b.narrowBelow then v - 1 else v - 2, v, v + 2, b.mantissa % 2 == 0)

/-- Ceiling of `n / d`. -/
def ceilDiv (n d : Nat) : Nat := (n + d - 1) / d

/-- The scale factors that bring `a · 2^(q-2)` and `g · 10^t` to natural numbers:
`a · numScale` against `g · gridScale`. -/
def scales (q t : Int) : Nat × Nat :=
  (Nat.pow 2 (q - 2).toNat * Nat.pow 10 (-t).toNat, Nat.pow 10 t.toNat * Nat.pow 2 (2 - q).toNat)

/-- The grid points `g · 10^t` in the interval of `b`, as the least and the
greatest `g`, if there are any. -/
def gridRange (b : Binary) (t : Int) : Option (Nat × Nat) :=
  let (lo, _, hi, closed) := b.interval
  let (ns, gs) := scales b.exponent t
  let nLo := lo * ns
  let nHi := hi * ns
  let gLo := if closed then ceilDiv nLo gs else nLo / gs + 1
  let gHi := if closed || nHi % gs != 0 then nHi / gs else nHi / gs - 1
  if gLo ≤ gHi && 1 ≤ gLo then some (gLo, gHi) else none

/-- The grid point of `[gLo, gHi]` nearest the double, a tie going to the even one. -/
def nearestOnGrid (b : Binary) (t : Int) (gLo gHi : Nat) : Nat :=
  let (_, v, _, _) := b.interval
  let (ns, gs) := scales b.exponent t
  let n := v * ns
  let below := n / gs
  let r := n % gs
  let g := if 2 * r < gs then below else if 2 * r > gs then below + 1
    else if below % 2 == 0 then below else below + 1
  max gLo (min gHi g)

/-- A bound on the grid exponent that is too coarse for any point: the double is
below `2^(q+53)`, and `10^t` exceeds that. -/
def coarsestGrid (b : Binary) : Int := (b.exponent + 53) * 30103 / 100000 + 2

/-- Tries grids `t, t-1, …` for `fuel` steps; the first with a point gives the
digits and the grid exponent. -/
def searchGrid (b : Binary) : Nat → Int → Option (Nat × Int)
  | 0, _ => none
  | fuel + 1, t =>
    match gridRange b t with
    | some (gLo, gHi) => some (nearestOnGrid b t gLo gHi, t)
    | none => searchGrid b fuel (t - 1)

/-- Shortest digits of a double and the exponent of its last digit: the double
reads back from `digits · 10^exponent`. Seventeen digits always suffice, so the
search spans twenty grids below a bound that is too coarse. -/
def shortestDigits (b : Binary) : Nat × Int :=
  (searchGrid b 24 (coarsestGrid b)).getD (b.mantissa, 0)

end SqlMapper.Number
