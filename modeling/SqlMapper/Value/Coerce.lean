import SqlMapper.Value.Show
import SqlMapper.Text.Case
import SqlMapper.Text.Digit

/-!
# Truth and integers of values

Every value counts as true or false: `None`, `False`, zero, and empty text,
bytes and containers are false, everything else is true. The integer of a
value is the integer itself, a boolean as `0` or `1`, a float or a decimal
cut toward zero, or the integer that text writes (blanks around it, an
optional sign, digits with single underscores between them); other values,
NaN and the infinities have none.
-/

namespace SqlMapper

open SqlMapper.Number SqlMapper.Text

/-- Whether a value counts as true. -/
def Value.truthy : Value → Bool
  | .none => false
  | .bool b => b
  | .int n => n ≠ 0
  | .float x => x != 0.0
  | .decimal (.finite _ c _) => c ≠ 0
  | .str s => !s.isEmpty
  | .bytes bs => !bs.isEmpty
  | .tuple xs | .list xs | .set xs => !xs.isEmpty
  | .dict es => !es.isEmpty
  | _ => true

/-- Digits with single underscores between them, as a number. -/
def underscoredDigits? (cs : List Char) : Option Nat :=
  let groups := cs.splitOn '_'
  if groups.all (fun g => !g.isEmpty && g.all Char.isDigit) then
    some ((groups.flatten).foldl (fun n c => n * 10 + (c.toNat - 48)) 0)
  else none

/-- The integer ASCII text writes: ASCII blanks around it, an optional sign,
and digits with single underscores between them. -/
def integerAscii? (cs : List Char) : Option Int :=
  let (neg, body) := match trimAscii cs with
    | '-' :: r => (true, r)
    | '+' :: r => (false, r)
    | r => (false, r)
  (underscoredDigits? body).map fun n => if neg then -(n : Int) else n

/-- The integer a text writes, in the digits and with the blanks of any script. -/
def integerText? (s : String) : Option Int := (numeralAscii? s.toList).bind integerAscii?

/-- An integer cut from a finite float toward zero. -/
def truncateFloat (x : Float) : Option Int :=
  match classify x with
  | .zero _ => some 0
  | .finite neg b =>
    let n : Nat := if b.exponent ≥ 0 then b.mantissa * Nat.pow 2 b.exponent.toNat else b.mantissa / Nat.pow 2 (-b.exponent).toNat
    some (if neg then -(n : Int) else n)
  | _ => none

/-- The elements of a value taken as an iterable: the items of a sequence
or a set, the characters of text, the bytes of a byte string as integers,
the keys of a dictionary. -/
def Value.elements : Value → Except Fault (List Value)
  | .list xs | .tuple xs | .set xs => pure xs
  | .str s => pure (s.toList.map fun c => .str c.toString)
  | .bytes bs => pure (bs.map fun b => .int b.toNat)
  | .dict es => pure (es.map (·.1))
  | v => throw (.badType ("'" ++ v.typeName ++ "' object is not iterable"))

/-- The integer of a value, or the fault of taking it. -/
def Value.toInt : Value → Except Fault Int
  | .int n => pure n
  | .bool b => pure (if b then 1 else 0)
  | .float x =>
    match classify x with
    | .nan => throw (.badValue "cannot convert float NaN to integer")
    | .infinite _ => throw (.database "OverflowError" "cannot convert float infinity to integer")
    | _ => pure ((truncateFloat x).getD 0)
  | .decimal (.finite neg c e) =>
    let n : Nat := if e ≥ 0 then c * Nat.pow 10 e.toNat else c / Nat.pow 10 (-e).toNat
    pure (if neg then -(n : Int) else n)
  | .decimal (.infinite _) => throw (.database "OverflowError" "cannot convert Infinity to integer")
  | .decimal (.nan ..) => throw (.badValue "cannot convert NaN to integer")
  | .str s =>
    match integerText? s with
    | some n => pure n
    | Option.none => throw (.badValue ("invalid literal for int() with base 10: " ++ displayString s))
  | .bytes bs =>
    match integerAscii? (bs.map fun b => Char.ofNat b.toNat) with
    | some n => pure n
    | Option.none => throw (.badValue ("invalid literal for int() with base 10: " ++ displayBytes bs))
  | v => throw (.badType ("int() argument must be a string, a bytes-like object or a real number, not " ++
      displayString v.typeName))

end SqlMapper
