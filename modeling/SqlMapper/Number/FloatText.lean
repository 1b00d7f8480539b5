import SqlMapper.Number.Shortest

/-!
# Text of binary floats

Writing a double takes its shortest digits and places the decimal point by a
style: within a range of decimal exponents the number is written positionally
with at least one digit after the point, outside it in scientific notation
with a signed exponent of at least two digits. Reading a decimal text rounds
it to the nearest double.
-/

namespace SqlMapper.Number

/-- The decisions of a float format. -/
structure FloatStyle where
  /-- Least decimal exponent written positionally. -/
  positionalFrom : Int
  /-- Least decimal exponent written in scientific notation, above the range. -/
  scientificFrom : Int
  /-- Least number of exponent digits. -/
  exponentDigits : Nat
  nanText : String
  infinityText : String

/-- The display form of a float: positional for exponents from -4 to 15,
`1e+16` and `1e-05` beyond, `nan` and `inf` for the special values. -/
def FloatStyle.display : FloatStyle := ⟨-4, 16, 2, "nan", "inf"⟩

/-- Floats inside JSON text: as displayed, with `NaN` and `Infinity`. -/
def FloatStyle.json : FloatStyle := ⟨-4, 16, 2, "NaN", "Infinity"⟩

/-- Decimal digits of a natural number. -/
def decimalDigits (n : Nat) : List Char := Nat.toDigits 10 n

/-- Writes digits `ds` whose value is `0.ds · 10^point` in a style. -/
def placeDigits (style : FloatStyle) (ds : List Char) (point : Int) : String :=
  let e := point - 1
  if style.positionalFrom ≤ e && e < style.scientificFrom then
    if point ≤ 0 then "0." ++ String.ofList (List.replicate (-point).toNat '0' ++ ds)
    else if ds.length ≤ point.toNat then
      String.ofList (ds ++ List.replicate (point.toNat - ds.length) '0') ++ ".0"
    else String.ofList (ds.take point.toNat ++ '.' :: ds.drop point.toNat)
  else
    let mant := match ds with
      | d :: rest@(_ :: _) => String.ofList (d :: '.' :: rest)
      | _ => String.ofList ds
    let expDigits := decimalDigits e.natAbs
    let padded := List.replicate (style.exponentDigits - expDigits.length) '0' ++ expDigits
    mant ++ "e" ++ (if e < 0 then "-" else "+") ++ String.ofList padded

/-- The text of a double in a style. -/
def formatFloat (style : FloatStyle) (x : Float) : String :=
  match classify x with
  | .nan => style.nanText
  | .infinite neg => (if neg then "-" else "") ++ style.infinityText
  | .zero neg => if neg then "-0.0" else "0.0"
  | .finite neg b =>
    let (g, t) := shortestDigits b
    let ds := decimalDigits g
    (if neg then "-" else "") ++ placeDigits style ds (ds.length + t)

/-- The display form of a float: `1.5`, `1e+100`, `-0.0`, `nan`. -/
def displayFloat (x : Float) : String := formatFloat .display x

/-- Digits of a decimal number, underscores between digits allowed. -/
def readDigitRun : List Char → List Char × List Char
  | c :: '_' :: d :: rest =>
    if c.isDigit && d.isDigit then
      let (ds, r) := readDigitRun (d :: rest)
      (c :: ds, r)
    else if c.isDigit then ([c], '_' :: d :: rest) else ([], c :: '_' :: d :: rest)
  | c :: rest => if c.isDigit then
      let (ds, r) := readDigitRun rest
      (c :: ds, r)
    else ([], c :: rest)
  | [] => ([], [])

/-- A decimal number `m · 10^e` from its text, sign apart: digits, an optional
fraction and an optional exponent, with no other characters. -/
def readDecimalParts (cs : List Char) : Option (Nat × Int) :=
  let (whole, afterWhole) := readDigitRun cs
  let (frac, afterFrac) := match afterWhole with
    | '.' :: rest => readDigitRun rest
    | _ => ([], afterWhole)
  if whole.isEmpty && frac.isEmpty then none else
  let mant := (whole ++ frac).foldl (fun n c => n * 10 + (c.toNat - '0'.toNat)) 0
  let scale : Int := -(frac.length : Int)
  match afterFrac with
  | [] => some (mant, scale)
  | e :: rest =>
    if e == 'e' || e == 'E' then
      let (neg, ds) := match rest with
        | '-' :: r => (true, r)
        | '+' :: r => (false, r)
        | r => (false, r)
      let (expDs, tail) := readDigitRun ds
      if expDs.isEmpty || !tail.isEmpty then none else
      let x : Int := expDs.foldl (fun n c => n * 10 + (c.toNat - '0'.toNat)) 0
      some (mant, scale + (if neg then -x else x))
    else none

/-- The double nearest `m · 10^e`. -/
def ofDecimal (m : Nat) (e : Int) : Float :=
  if e < 0 then Float.ofScientific m true e.natAbs else Float.ofScientific m false e.toNat

/-- Lowercase of ASCII letters only. -/
def asciiLower (cs : List Char) : List Char := cs.map Char.toLower

/-- Reads a float from text as a number constructor would: an optional sign, then
a decimal number, `nan`, `inf` or `infinity` in any case. -/
def readFloat? (cs : List Char) : Option Float :=
  let (neg, body) := match cs with
    | '-' :: r => (true, r)
    | '+' :: r => (false, r)
    | r => (false, r)
  let apply := fun (x : Float) => if neg then -x else x
  match asciiLower body with
  | ['n', 'a', 'n'] => some (0.0 / 0.0)
  | ['i', 'n', 'f'] | ['i', 'n', 'f', 'i', 'n', 'i', 't', 'y'] => some (apply (1.0 / 0.0))
  | _ => (readDecimalParts body).map fun (m, e) => apply (ofDecimal m e)

end SqlMapper.Number
