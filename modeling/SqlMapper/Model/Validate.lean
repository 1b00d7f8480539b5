import SqlMapper.Model.Zero
import SqlMapper.Value.Equal
import SqlMapper.Value.SetOrder
import SqlMapper.Calendar.Loose
import SqlMapper.Text.Case
import SqlMapper.Text.Digit

/-!
# Validating values against annotations

Validation takes a value to the class an annotation names, or refuses it.
Leniently, a value of another class is taken when its meaning carries over:
an integer from a boolean, an integral float or decimal, or the text of an
integer; a float from any number or its text; a boolean from `0`, `1` and
words such as `yes` and `off`; text from UTF-8 bytes and bytes from text;
calendar values from lenient ISO text or timestamps; containers from other
sequences, their items validated in turn; a model from a dictionary of its
fields, an absent field taking its default; an enumeration member from its
value. Strictly, only values of the class itself are taken, and integers and
decimals as floats.

Each match says how close it is: the class itself, a strict match, or a
lenient one. A union validates the value against every member and takes the
closest match, the first of equally close ones.
-/

namespace SqlMapper

open SqlMapper.Number SqlMapper.Calendar SqlMapper.Text

mutual

/-- Nesting depth of an annotation. -/
def Ty.depth : Ty → Nat
  | .union args | .pipe args | .generic _ args => Ty.depthList args + 1
  | .tupleOf t | .annotated t _ => t.depth + 1
  | _ => 1

/-- Greatest depth of annotations. -/
def Ty.depthList : List Ty → Nat
  | [] => 0
  | t :: rest => max t.depth (Ty.depthList rest)

end

/-- An optional sign and at least one ASCII digit, as the integer they write. -/
def signedDigits? (cs : List Char) : Option Int :=
  let (neg, body) := match cs with
    | '-' :: r => (true, r)
    | '+' :: r => (false, r)
    | r => (false, r)
  if body.isEmpty || !body.all Char.isDigit then none
  else
    let n : Int := body.foldl (fun n c => n * 10 + (c.toNat - 48)) 0
    some (if neg then -n else n)

/-- Text without its underscores, when it has some and none at either end or
two together. -/
def withoutUnderscores? (cs : List Char) : Option (List Char) :=
  let doubled := (cs.zip cs.tail).any fun (a, b) => a == '_' && b == '_'
  if !cs.contains '_' || cs.head? == some '_' || cs.getLast? == some '_' || doubled then none
  else some (cs.filter (· != '_'))

/-- The text before a point that only zeros, at least one, follow. -/
def beforeZeroFraction? (cs : List Char) : Option (List Char) :=
  match cs.dropWhile (· != '.') with
  | '.' :: zs => if !zs.isEmpty && zs.all (· == '0') then some (cs.takeWhile (· != '.')) else none
  | _ => none

/-- The integer a text writes, `fuel` readings deep: white space around it, an
optional sign and digits; failing that, the text before a fraction of zeros,
or the text without underscores between its digits, is read again. -/
def intOfTextUpTo : Nat → List Char → Option Int
  | 0, _ => none
  | fuel + 1, cs =>
    let t := trimWhiteSpace cs
    match signedDigits? t with
    | some n => some n
    | none =>
      match beforeZeroFraction? t with
      | some r => intOfTextUpTo fuel r
      | none => (withoutUnderscores? t).bind (intOfTextUpTo fuel)

/-- The integer a text writes. -/
def intOfText? (s : String) : Option Int := intOfTextUpTo (s.length + 1) s.toList

/-- The float a text writes, white space around it allowed; failing that, the
text without underscores between its digits. -/
def floatOfText? (s : String) : Option Float :=
  match readFloat? (trimWhiteSpace s.toList) with
  | some x => some x
  | none => (withoutUnderscores? s.toList).bind readFloat?

/-- The boolean a word stands for: `0`, `f`, `n`, `no`, `off`, `false` and
`1`, `t`, `y`, `yes`, `on`, `true`, in any case. -/
def boolOfText? (s : String) : Option Bool :=
  let w := String.ofList (s.toList.map Char.toLower)
  if ["0", "f", "n", "no", "off", "false"].contains w then some false
  else if ["1", "t", "y", "yes", "on", "true"].contains w then some true
  else none

/-- The decimal a text writes: blanks around it and underscores anywhere
dropped, and the digits of any script read as their values. -/
def decimalOfText? (s : String) : Option Decimal := do
  let cs ← (trim s).toList.filter (· != '_') |>.mapM fun c =>
    if c.toNat < 128 then some c else (digitValue? c).map fun d => Char.ofNat (48 + d)
  Decimal.read? cs

/-- The text of UTF-8 bytes. -/
def utf8Text? (bs : List UInt8) : Option String := String.fromUTF8? (ByteArray.mk bs.toArray)

/-- The bytes of a text in UTF-8. -/
def utf8Bytes (s : String) : List UInt8 := s.toUTF8.toList

/-- The integer a float stands for, if it is integral. -/
def integralFloat? (x : Float) : Option Int :=
  match classify x with
  | .zero _ => some 0
  | .finite neg b =>
    let n : Option Nat :=
      if b.exponent ≥ 0 then some (b.mantissa * Nat.pow 2 b.exponent.toNat)
      else if b.mantissa % Nat.pow 2 (-b.exponent).toNat = 0 then some (b.mantissa / Nat.pow 2 (-b.exponent).toNat)
      else none
    n.map fun n => if neg then -(n : Int) else n
  | _ => none

/-- The integer a decimal stands for, if it is integral. -/
def integralDecimal? : Decimal → Option Int
  | .finite neg coeff e =>
    let n : Option Nat :=
      if e ≥ 0 then some (coeff * Nat.pow 10 e.toNat)
      else if coeff % Nat.pow 10 (-e).toNat = 0 then some (coeff / Nat.pow 10 (-e).toNat)
      else none
    n.map fun n => if neg then -(n : Int) else n
  | _ => none

/-- The float nearest an integer. -/
def floatOfInt (n : Int) : Float :=
  let x := Float.ofScientific n.natAbs false 0
  if n < 0 then -x else x

/-- Seconds and microseconds of a float timestamp, the microseconds rounded. -/
def floatSeconds? (x : Float) : Option (Int × Nat) :=
  match classify x with
  | .zero _ => some (0, 0)
  | .finite neg b =>
    let scale := Nat.pow 2 (if b.exponent < 0 then (-b.exponent).toNat else 0)
    let whole : Nat := if b.exponent ≥ 0 then b.mantissa * Nat.pow 2 b.exponent.toNat else b.mantissa / scale
    let frac : Nat := if b.exponent ≥ 0 then 0 else b.mantissa % scale
    let micro := (frac * 2000000 + scale) / (2 * scale)
    let (whole, micro) := if micro ≥ 1000000 then (whole + 1, micro - 1000000) else (whole, micro)
    if neg then
      if micro = 0 then some (-(whole : Int), 0) else some (-(whole : Int) - 1, 1000000 - micro)
    else some (whole, micro)
  | _ => none

/-- The decimal a float shows as. -/
def decimalOfFloat? (x : Float) : Option Decimal := Decimal.read? (displayFloat x).toList

/-- How closely a value matched the class it was validated as: converted
leniently, taken as it is from a related class, or of the class itself. A
union takes the member that matches most closely. -/
inductive Exactness where
  | lax | strict | exact
  deriving DecidableEq, Inhabited

namespace Exactness

/-- The place of an exactness, loosest first. -/
def rank : Exactness → Nat
  | .lax => 0
  | .strict => 1
  | .exact => 2

/-- The looser of two exactnesses. -/
def meet (a b : Exactness) : Exactness := if a.rank ≤ b.rank then a else b

end Exactness

/-- Leniently, the integer of a value; a member gives its value as it is. -/
def laxInt? : Value → Option Value
  | .bool b => some (.int (if b then 1 else 0))
  | .float x => (integralFloat? x).map .int
  | .decimal d => (integralDecimal? d).map .int
  | .str s => (intOfText? s).map .int
  | .bytes bs => ((utf8Text? bs).bind intOfText?).map .int
  | .member _ _ w => some w
  | _ => none

/-- The float of a number taken strictly: an integer that has one, or a decimal. -/
def strictFloat? : Value → Option Float
  | .int n => let x := floatOfInt n; if x.isInf then none else some x
  | .decimal d => some d.toFloat
  | _ => none

/-- Leniently, the float of text or a boolean. -/
def laxFloat? : Value → Option Float
  | .bool b => some (if b then 1.0 else 0.0)
  | .str s => floatOfText? s
  | .bytes bs => (utf8Text? bs).bind floatOfText?
  | _ => none

/-- The truth of a float that is `0` or `1`. -/
def floatBool? (x : Float) : Option Bool :=
  if x == 0.0 then some false else if x == 1.0 then some true else none

/-- Leniently, the boolean of a value. -/
def laxBool? : Value → Option Bool
  | .int 0 => some false
  | .int 1 => some true
  | .float x => floatBool? x
  | .decimal d => floatBool? d.toFloat
  | .str s => boolOfText? s
  | .bytes bs => (utf8Text? bs).bind boolOfText?
  | _ => none

/-- Leniently, the decimal of a value. -/
def laxDecimal? : Value → Option Decimal
  | .int n => some (Decimal.ofInt n)
  | .float x => decimalOfFloat? x
  | .str s => decimalOfText? s
  | _ => none

/-- The date and time of a timestamp value. -/
def timestampOf? : Value → Option DateTime
  | .int n => some (DateTime.ofTimestamp n 0)
  | .float x => (floatSeconds? x).map fun (s, us) => DateTime.ofTimestamp s us
  | .decimal d => (floatSeconds? d.toFloat).map fun (s, us) => DateTime.ofTimestamp s us
  | _ => none

/-- Leniently, the date and time of a value. -/
def laxDateTime? : Value → Option DateTime
  | .str s => DateTime.loose? s
  | .bytes bs => (utf8Text? bs).bind DateTime.loose?
  | v => timestampOf? v

/-- Leniently, the date of a value. -/
def laxDate? : Value → Option Date
  | .datetime dt => if dt.time.isMidnight then some dt.date else none
  | .str s => Date.loose? s
  | .bytes bs => (utf8Text? bs).bind Date.loose?
  | v => (timestampOf? v).bind fun dt => if dt.time.isMidnight then some dt.date else none

/-- The UTC time of day a count of seconds after midnight gives, the
microseconds carried into the seconds. -/
def secondsTime? (secs : Int) (micro : Nat) : Option TimeOfDay :=
  let total := secs + (micro / 1000000 : Nat)
  if secs < 0 || total ≥ 86400 then none
  else
    let n := total.toNat
    some ⟨n / 3600, n / 60 % 60, n % 60, micro % 1000000, some 0⟩

/-- The UTC time of day of a float of seconds after midnight, its fraction
rounded to microseconds. -/
def floatTime? (x : Float) : Option TimeOfDay :=
  if x.isNaN || x.isInf || x < 0.0 then none
  else
    let whole := x.floor
    secondsTime? (integralFloat? whole |>.getD 0) ((x - whole) * 1000000.0).round.toUInt64.toNat

/-- Leniently, the time of day of a value. -/
def laxTime? : Value → Option TimeOfDay
  | .str s => TimeOfDay.loose? s
  | .bytes bs => (utf8Text? bs).bind TimeOfDay.loose?
  | .int n => secondsTime? n 0
  | .float x => floatTime? x
  | .decimal d => floatTime? d.toFloat
  | _ => none

/-- The items of a sequence that a container can be validated from, exactly
when the sequence is of the container's class and leniently from another
sequence; strictly only `exact`. -/
def sequenceItems? (strict : Bool) (exact : Builtin) : Value → Option (List Value × Exactness)
  | .list xs => if exact == .list then some (xs, .exact) else if strict then none else some (xs, .lax)
  | .tuple xs => if exact == .tuple then some (xs, .exact) else if strict then none else some (xs, .lax)
  | .set xs => if exact == .set then some (xs, .exact) else if strict then none else some (xs, .lax)
  | _ => none

/-- A value of a scalar builtin class with how closely it matched: the class
itself exactly; strictly, an integer or decimal as a float; leniently, the
conversions above. -/
def scalar? (strict : Bool) (b : Builtin) (v : Value) : Option (Value × Exactness) :=
  let lax : Option Value → Option (Value × Exactness) := fun w =>
    if strict then none else w.map fun w => (w, .lax)
  match b, v with
  | .int, .int _ | .float, .float _ | .bool, .bool _ | .str, .str _ | .bytes, .bytes _
  | .datetime, .datetime _ | .date, .date _ | .time, .time _ => some (v, .exact)
  | .decimal, .decimal d => if d.isFinite then some (v, .exact) else none
  | .int, _ => lax (laxInt? v)
  | .float, _ =>
    match strictFloat? v with
    | some x => some (.float x, .strict)
    | none => lax ((laxFloat? v).map .float)
  | .bool, _ => lax ((laxBool? v).map .bool)
  | .str, .bytes bs => lax ((utf8Text? bs).map .str)
  | .str, .member _ _ w => lax (some (.str w.text))
  | .bytes, .str s => lax (some (.bytes (utf8Bytes s)))
  | .decimal, _ => lax ((laxDecimal? v |>.filter Decimal.isFinite).map .decimal)
  | .datetime, _ => lax ((laxDateTime? v).map .datetime)
  | .date, _ => lax ((laxDate? v).map .date)
  | .time, _ => lax ((laxTime? v).map .time)
  | _, _ => none

/-- Whether a value is the string `name`. -/
def Value.keyIs (v : Value) (name : String) : Bool :=
  match v with
  | .str s => s == name
  | _ => false

namespace Catalog

/-- Whether class `sub` is class `sup` or extends it. -/
def isSubclass (cat : Catalog) (sub sup : Nat) : Bool := (cat.lineage sub).contains sup

/-- The member of an enumeration whose value equals a value. -/
def memberOf? (cat : Catalog) (c : ClassRef) (v : Value) : Option Value :=
  (cat.members c.id).findSome? fun (name, mv) => if Value.same mv v then some (.member c name mv) else none

/-- The greatest depth of the field annotations of the catalog. -/
def annotationDepth (cat : Catalog) : Nat :=
  cat.decls.foldl (fun acc d =>
    match d.body with
    | .model m => m.fields.foldl (fun a f => max a f.ann.depth) acc
    | _ => acc) 0

/-- The value of each item of `xs` under `f`, if every item has one. -/
def allSome {α β : Type} (f : α → Option β) : List α → Option (List β)
  | [] => some []
  | x :: xs => do
    let y ← f x
    let ys ← allSome f xs
    pure (y :: ys)

/-- The values of `f` at paired items, if the lists have one length and every pair has one. -/
def pairwiseSome {α β γ : Type} (f : α → β → Option γ) : List α → List β → Option (List γ)
  | [], [] => some []
  | a :: as, b :: bs => do
    let c ← f a b
    let cs ← pairwiseSome f as bs
    pure (c :: cs)
  | _, _ => none

/-- The entry of a field in a dictionary of fields by name. -/
def fieldEntry? (entries : List (Value × Value)) (name : String) : Option Value :=
  (entries.find? fun (k, _) => k.keyIs name).map (·.2)

/-- The closest of the matches, the first of equally close ones. -/
def closest : List (Value × Exactness) → Option (Value × Exactness)
  | [] => none
  | m :: rest =>
    match closest rest with
    | some b => if b.2.rank > m.2.rank then some b else some m
    | none => some m

/-- The values of validating each item, with the loosest of their exactnesses. -/
def allMatched {α : Type} (f : α → Option (Value × Exactness)) (floor : Exactness) :
    List α → Option (List Value × Exactness)
  | [] => some ([], floor)
  | x :: xs => do
    let (y, e) ← f x
    let (ys, e') ← allMatched f floor xs
    pure (y :: ys, e.meet e')

/-- Validates a value against an annotation, `fuel` steps deep, with how
closely it matched. -/
def validateUpTo : Nat → Catalog → Bool → Ty → Value → Option (Value × Exactness)
  | 0, _, _, _, _ => none
  | fuel + 1, cat, strict, t, v =>
    match t with
    | .any | .builtin .object => some (v, .exact)
    | .builtin .noneType => match v with
      | .none => some (.none, .exact)
      | _ => none
    | .builtin .dict => match v with
      | .dict _ => some (v, .exact)
      | _ => none
    | .builtin .list => (sequenceItems? strict .list v).map fun (xs, e) => (.list xs, e)
    | .builtin .set => (sequenceItems? strict .set v).map fun (xs, e) => (.set (Value.setItems xs), e)
    | .builtin .tuple => (sequenceItems? strict .tuple v).map fun (xs, e) => (.tuple xs, e)
    | .builtin b => scalar? strict b v
    | .annotated inner _ => validateUpTo fuel cat strict inner v
    | .text name | .ref name =>
      match cat.table? name with
      | some c => validateUpTo fuel cat strict (.cls c) v
      | none => none
    | .cls c =>
      match c.sort with
      | .enum =>
        match v with
        | .member d _ _ => if d == c then some (v, .exact) else none
        | _ => if strict then none else (cat.memberOf? c v).map fun m => (m, .lax)
      | .derived _ => none
      | _ =>
        match v with
        | .object d _ => if cat.isSubclass d.id c.id then some (v, .exact) else none
        | .dict entries =>
          if strict then none else
          (allSome (fun (f : Field) =>
            match fieldEntry? entries f.name with
            | some x => (validateUpTo fuel cat false f.ann x).map fun (y, _) => (f.name, some y)
            | none => f.default.map fun d => (f.name, some d)) (cat.fields c.id)).map fun fs => (.object c fs, .lax)
        | _ => none
    | .union args | .pipe args => closest (args.filterMap fun a => validateUpTo fuel cat strict a v)
    | .generic .list [item] =>
      (sequenceItems? strict .list v).bind fun (xs, e) =>
        (allMatched (validateUpTo fuel cat strict item) e xs).map fun (ys, e) => (.list ys, e)
    | .generic .set [item] =>
      (sequenceItems? strict .set v).bind fun (xs, e) =>
        (allMatched (validateUpTo fuel cat strict item) e xs).map fun (ys, e) => (.set (Value.setItems ys), e)
    | .generic .dict [kt, vt] =>
      match v with
      | .dict entries =>
        (pairwiseSome (fun (k, x) (_ : Unit) => do
          let (k', ek) ← validateUpTo fuel cat strict kt k
          let (x', ex) ← validateUpTo fuel cat strict vt x
          pure ((k', x'), ek.meet ex)) entries (entries.map fun _ => ())).map fun es =>
            (.dict (Value.mergeEntries (es.map (·.1))), es.foldl (fun e p => e.meet p.2) .exact)
      | _ => none
    | .generic .tuple items =>
      (sequenceItems? strict .tuple v).bind fun (xs, e) =>
        (pairwiseSome (fun a x => validateUpTo fuel cat strict a x) items xs).map fun ms =>
          (.tuple (ms.map (·.1)), ms.foldl (fun e m => e.meet m.2) e)
    | .tupleOf item =>
      (sequenceItems? strict .tuple v).bind fun (xs, e) =>
        (allMatched (validateUpTo fuel cat strict item) e xs).map fun (ys, e) => (.tuple ys, e)
    | .generic .. | .object .. => none

/-- Validates a value against an annotation. -/
def validate (cat : Catalog) (t : Ty) (v : Value) : Option Value :=
  (validateUpTo ((v.depth + 2) * (max cat.annotationDepth t.depth + 4)) cat false t v).map (·.1)

/-- An instance of a model class from its fields by name, validated. -/
def instantiate (cat : Catalog) (c : ClassRef) (entries : List (String × Value)) : Option Value :=
  let dict := entries.map fun (k, v) => (Value.str k, v)
  validate cat (.cls c) (.dict dict)

end Catalog

end SqlMapper
