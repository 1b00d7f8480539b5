import SqlMapper.Number.FloatText

/-!
# Decimal numbers

A decimal is a sign, a coefficient and an exponent, kept as written: `1.50`
has coefficient 150 and exponent -2, and `-0E+3` keeps its sign and exponent.
Its text is the standard scientific string: positional when the exponent is
not positive and the number has at least six leading places, scientific with
`E+n` or `E-n` otherwise.
-/

namespace SqlMapper.Number

/-- A decimal number. -/
inductive Decimal where
  | finite (negative : Bool) (coeff : Nat) (exp : Int)
  | infinite (negative : Bool)
  | nan (negative : Bool) (signaling : Bool) (payload : Nat)
  deriving DecidableEq, Repr, Inhabited

namespace Decimal

/-- The decimal of an integer. -/
def ofInt (n : Int) : Decimal := .finite (n < 0) n.natAbs 0

/-- The standard scientific string of a decimal. -/
def toText : Decimal → String
  | .infinite neg => (if neg then "-" else "") ++ "Infinity"
  | .nan neg sig payload =>
    (if neg then "-" else "") ++ (if sig then "sNaN" else "NaN") ++
      (if payload = 0 then "" else String.ofList (decimalDigits payload))
  | .finite neg coeff exp =>
    let ds := decimalDigits coeff
    let left : Int := exp + ds.length
    let dot : Int := if exp ≤ 0 && left > -6 then left else 1
    let body :=
      if dot ≤ 0 then "0." ++ String.ofList (List.replicate (-dot).toNat '0' ++ ds)
      else if ds.length ≤ dot.toNat then String.ofList (ds ++ List.replicate (dot.toNat - ds.length) '0')
      else String.ofList (ds.take dot.toNat ++ '.' :: ds.drop dot.toNat)
    let e := left - dot
    let expText := if e = 0 then "" else "E" ++ (if e < 0 then "-" else "+") ++ toString e.natAbs
    (if neg then "-" else "") ++ body ++ expText

/-- Reads a decimal from its text: a signed number with an optional fraction and
exponent, `Inf`, `Infinity`, `NaN` or `sNaN` with optional digits, in any case. -/
def read? (cs : List Char) : Option Decimal :=
  let (neg, body) := match cs with
    | '-' :: r => (true, r)
    | '+' :: r => (false, r)
    | r => (false, r)
  let low := asciiLower body
  match low with
  | ['i', 'n', 'f'] | ['i', 'n', 'f', 'i', 'n', 'i', 't', 'y'] => some (.infinite neg)
  | 'n' :: 'a' :: 'n' :: ds =>
    if ds.all Char.isDigit then some (.nan neg false (ds.foldl (fun n c => n * 10 + (c.toNat - 48)) 0))
    else none
  | 's' :: 'n' :: 'a' :: 'n' :: ds =>
    if ds.all Char.isDigit then some (.nan neg true (ds.foldl (fun n c => n * 10 + (c.toNat - 48)) 0))
    else none
  | _ => (readDecimalParts body).map fun (m, e) => .finite neg m e

/-- Whether the decimal is a number. -/
def isFinite : Decimal → Bool
  | .finite .. => true
  | _ => false

/-- The double nearest a decimal. -/
def toFloat : Decimal → Float
  | .finite neg coeff exp => let x := ofDecimal coeff exp; if neg then -x else x
  | .infinite neg => if neg then -(1.0 / 0.0) else 1.0 / 0.0
  | .nan .. => 0.0 / 0.0

end Decimal

end SqlMapper.Number
