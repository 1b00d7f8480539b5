import SqlMapper.Database.Format
import SqlMapper.Database.Operators

/-!
# Scalar functions

The functions computed from the values of one row. Most give `NULL` for a
`NULL` argument. Text functions see numbers as their text and count
characters as `Characters` does; functions that read their argument as a C
string stop at its first NUL byte.

`abs` fails on the least integer; `round` rounds half away from zero through
the decimal text of the value, and its result is always a real; `sign`,
the rounding functions and the mathematical functions take text only when all
of it is a number. `min` and `max` of several arguments compare them under
the collation of the first that has one, and give `NULL` if any is `NULL`.
-/

namespace SqlMapper.Database

open SqlMapper.Number

/-- The length of a value: characters of text, bytes of a blob, characters of
a number's text. -/
def lengthOf : Datum → Datum
  | .null => .null
  | .blob bs => .integer bs.length
  | d => .integer (charCount d.bytes)

/-- The characters of a code list as text; codes outside Unicode become `U+FFFD`. -/
def charOfCodes (args : List Datum) : Datum :=
  .text (args.flatMap fun d =>
    let x := d.toInteger
    let c := if x < 0 || x > 0x10FFFF then 0xFFFD else x.toNat
    encodeCode c)

/-- The code of the first character of a value's text, `NULL` for empty text. -/
def unicodeOf (d : Datum) : Datum :=
  match d.cText? with
  | none | some [] => .null
  | some bs => .integer (charCode (splitChar bs).1)

/-- An integer cut to 32 bits, as arguments read as `int` are. -/
def int32Of (d : Datum) : Int := toInt32 d.toInteger

/-- `substr(X, start, length)`: characters of text (bytes of a blob) from a
start counted from one, or from the end when negative; a negative length
takes the characters before the start. -/
def substrOf (x : Datum) (start : Datum) (len? : Option Datum) : Datum :=
  if start.isNull || (len?.map Datum.isNull).getD false then .null
  else
    match x with
    | .null => .null
    | _ =>
      let isBlob := match x with
        | .blob _ => true
        | _ => false
      let bytes := if isBlob then x.bytes else cString x.bytes
      let chars : List (List UInt8) := if isBlob then bytes.map ([·]) else charsOf bytes
      let len : Int := chars.length
      let p1 : Int := int32Of start
      let (p2, negP2) : Int × Bool := match len? with
        | some l => let p := int32Of l; if p < 0 then (-p, true) else (p, false)
        | none => (1000000000, false)
      let (p1, p2) : Int × Int :=
        if p1 < 0 then
          let p1 := p1 + len
          if p1 < 0 then (0, max 0 (p2 + p1)) else (p1, p2)
        else if p1 > 0 then (p1 - 1, p2)
        else if p2 > 0 then (p1, p2 - 1)
        else (p1, p2)
      let (p1, p2) : Int × Int :=
        if negP2 then
          let p1 := p1 - p2
          if p1 < 0 then (0, p2 + p1) else (p1, p2)
        else (p1, p2)
      let piece := ((chars.drop p1.toNat).take p2.toNat).flatten
      if isBlob then .blob piece else .text piece

/-- Whether `pattern` starts `bs`. -/
def startsWithBytes (pattern bs : List UInt8) : Bool := bs.take pattern.length == pattern

/-- Replaces every occurrence of a pattern in a text, left to right. -/
def replaceBytes (pattern replacement : List UInt8) : List UInt8 → List UInt8 :=
  let rec go : Nat → List UInt8 → List UInt8
    | 0, bs => bs
    | fuel + 1, bs =>
      match bs with
      | [] => []
      | b :: rest =>
        if bs.length ≥ pattern.length && startsWithBytes pattern bs then
          replacement ++ go fuel (bs.drop pattern.length)
        else b :: go fuel rest
  fun bs => go (bs.length + 1) bs

/-- `replace(X, Y, Z)`: X with every Y replaced by Z; X itself when Y is
empty, a blob then read as text. -/
def replaceOf (x y z : Datum) : Datum :=
  match x.textBytes?, y.textBytes? with
  | some xs, some ys =>
    if (cString ys).isEmpty then
      match x with
      | .blob _ => .text xs
      | _ => x
    else match z.textBytes? with
      | some zs => .text (replaceBytes ys zs xs)
      | none => .null
  | _, _ => .null

/-- `instr(X, Y)`: the position of the first Y in X, counted in characters
(bytes when both are blobs), 1 for an empty Y, 0 when it is missing. -/
def instrOf (x y : Datum) : Datum :=
  if x.isNull || y.isNull then .null
  else
    let needle := y.bytes
    if needle.isEmpty then .integer 1
    else
      let bothBlobs := match x, y with
        | .blob _, .blob _ => true
        | _, _ => false
      let rec go : Nat → Nat → List UInt8 → Nat
        | 0, _, _ => 0
        | fuel + 1, n, hay =>
          if needle.length > hay.length then 0
          else if startsWithBytes needle hay then n
          else
            let rest := hay.drop 1
            let rest := if bothBlobs then rest else rest.dropWhile isContinuation
            go fuel (n + 1) rest
      let hay := x.bytes
      .integer (go (hay.length + 2) 1 hay)

/-- The characters of a trim set, each as its bytes. -/
def trimSet (d : Datum) : List (List UInt8) := charsOf (cString d.bytes)

/-- Drops characters of a set from the start of a text. -/
def trimStart (set : List (List UInt8)) : List UInt8 → List UInt8 :=
  let rec go : Nat → List UInt8 → List UInt8
    | 0, bs => bs
    | fuel + 1, bs =>
      match set.find? fun c => !c.isEmpty && startsWithBytes c bs with
      | some c => if bs.isEmpty then bs else go fuel (bs.drop c.length)
      | none => bs
  fun bs => go (bs.length + 1) bs

/-- Drops characters of a set from the end of a text. -/
def trimEnd (set : List (List UInt8)) (bs : List UInt8) : List UInt8 :=
  (trimStart (set.map List.reverse) bs.reverse).reverse

/-- `trim`, `ltrim` and `rtrim`: the text with characters of a set (a space
by default) taken off its start, its end, or both. -/
def trimOf (start finish : Bool) (x : Datum) (set? : Option Datum) : Datum :=
  match x.textBytes? with
  | none => .null
  | some bs =>
    let set := match set? with
      | some s => if s.isNull then none else some (trimSet s)
      | none => some [[32]]
    match set with
    | none => .null
    | some set =>
      let bs := if start then trimStart set bs else bs
      let bs := if finish then trimEnd set bs else bs
      .text bs

/-- The text of a real as `quote` writes it: fifteen significant digits when
they read back as the same value, else twenty decimals in scientific form. -/
def quotedReal (x : Float) : String :=
  let short := RealFormat.render { style := .general, precision := 15, extended := true } x
  if (readReal (utf8 short)).value == x then short
  else RealFormat.render { style := .scientific, precision := 20, extended := true } x

/-- `quote(X)`: a value as a literal that reads back as it. -/
def quoteOf : Datum → Datum
  | .null => .text (utf8 "NULL")
  | .integer n => .text (utf8 (toString n))
  | .real x => .text (utf8 (quotedReal x))
  | .text bs => .text (39 :: (cString bs).flatMap (fun b => if b == 39 then [b, b] else [b]) ++ [39])
  | .blob bs => .text (utf8 ("X'" ++ hexText bs ++ "'"))

/-- The value of text read as a number when all of it is one, as the
numeric functions take their arguments; none when it is not a number. -/
def numericArgument : Datum → Option Datum
  | .integer n => some (.integer n)
  | .real x => some (.real x)
  | .text bs => match Datum.numericText false bs with
    | .text _ => none
    | d => some d
  | _ => none

/-- `abs(X)`. -/
def absOf : Datum → Except Fault Datum
  | .null => pure .null
  | .integer n =>
    if n == minInteger then throw (operational "integer overflow") else pure (.integer n.natAbs)
  | d => let x := d.toReal; pure (.real (if x < 0.0 then -x else x))

/-- `sign(X)`: -1, 0 or 1 for a number, `NULL` for anything else. -/
def signOf (d : Datum) : Datum :=
  match numericArgument d with
  | some n => let x := n.toReal; .integer (if x < 0.0 then -1 else if x > 0.0 then 1 else 0)
  | none => .null

/-- The integer nearest a double, halves away from zero, by truncating the
value moved half toward its sign. -/
def roundWhole (r : Float) : Float := integerFloat (floatTruncation (r + (if r < 0.0 then -0.5 else 0.5)))

/-- `round(X, N)`: X rounded to N decimals (0 to 30), always a real. -/
def roundOf (x : Datum) (n? : Option Datum) : Datum :=
  match n? with
  | some n =>
    if n.isNull then .null else
    let places := int32Of n
    let places := if places > 30 then 30 else if places < 0 then 0 else places.toNat
    roundTo x places
  | none => roundTo x 0
where
  roundTo (x : Datum) (places : Nat) : Datum :=
    if x.isNull then .null
    else
      let r := x.toReal
      if r < -4503599627370496.0 || r > 4503599627370496.0 then .ofReal r
      else if places == 0 then .ofReal (roundWhole r)
      else
        let s := RealFormat.render { style := .fixed, precision := places } r
        .ofReal (readReal (utf8 s)).value

/-- `min` or `max` of several values under a collation: `NULL` if any is
`NULL`; of equal values `min` takes the last and `max` the first. -/
def extremeOf (isMax : Bool) (c : Collation) (args : List Datum) : Datum :=
  if args.any Datum.isNull then .null
  else match args with
    | [] => .null
    | a :: rest => rest.foldl (fun best x =>
        let o := best.compareWith c x
        if isMax then (if o == .lt then x else best) else (if o != .lt then x else best)) a

/-- `nullif(X, Y)`: `NULL` when X equals Y under the collation, else X. -/
def nullifOf (c : Collation) (x y : Datum) : Datum := if x.compareWith c y == .eq then .null else x

/-- `like(P, X, E)` and `glob(P, X)`: whether X matches the pattern P. -/
def patternOf (isGlob : Bool) (pat x : Datum) (esc? : Option Datum) : Except Fault Datum := do
  if pat.bytes.length > 50000 then throw (operational "LIKE or GLOB pattern too complex")
  let escape ← match esc? with
    | none => pure (some (if isGlob then 91 else 0))
    | some e =>
      match e.cText? with
      | none => pure none
      | some bs =>
        if (charsOf bs).length != 1 then throw (operational "ESCAPE expression must be a single character")
        else pure (some (charCode (splitChar bs).1))
  match escape, pat.cText?, x.cText? with
  | some esc, some p, some t =>
    let rules := if isGlob then globRules else likeRules esc
    pure (.ofBool (matchesPattern rules p t))
  | _, _, _ => pure .null

/-- `hex(X)`: the bytes of a value in upper-case hexadecimal. -/
def hexOf (d : Datum) : Datum := .text (utf8 (hexText d.bytes))

/-- `zeroblob(N)`: a blob of N zero bytes. -/
def zeroblobOf (d : Datum) : Except Fault Datum :=
  let n := d.toInteger
  if n > 1000000000 then throw (dataError "string or blob too big")
  else pure (.blob (List.replicate n.toNat 0))

/-- The functions of one argument of a real, over numbers only. -/
def realFunction? (name : String) : Option (Float → Float) :=
  match name with
  | "exp" => some Float.exp
  | "sin" => some Float.sin
  | "cos" => some Float.cos
  | "tan" => some Float.tan
  | "asin" => some Float.asin
  | "acos" => some Float.acos
  | "atan" => some Float.atan
  | "sinh" => some Float.sinh
  | "cosh" => some Float.cosh
  | "tanh" => some Float.tanh
  | "asinh" => some Float.asinh
  | "acosh" => some Float.acosh
  | "atanh" => some Float.atanh
  | "sqrt" => some Float.sqrt
  | "radians" => some fun x => x * (3.14159265358979323846 / 180.0)
  | "degrees" => some fun x => x * (180.0 / 3.14159265358979323846)
  | _ => none

/-- A double toward zero to a whole number. -/
def truncFloat (x : Float) : Float := if x < 0.0 then x.ceil else x.floor

/-- `ceil`, `floor` and `trunc`: an integer stays, a real is rounded. -/
def roundingOf (f : Float → Float) (d : Datum) : Datum :=
  match numericArgument d with
  | some (.integer n) => .integer n
  | some n => .ofReal (f n.toReal)
  | none => .null

/-- `ln`, `log`, `log10`, `log2` of one argument, and `log(B, X)`. -/
def logOf (name : String) (args : List Datum) : Datum :=
  match args with
  | [a] => match numericArgument a with
    | some n =>
      let x := n.toReal
      if x ≤ 0.0 then .null
      else .ofReal (match name with
        | "ln" => x.log
        | "log2" => x.log2
        | _ => x.log10)
    | none => .null
  | [a, b] => match numericArgument a with
    | some n =>
      let x := n.toReal
      if x ≤ 0.0 then .null
      else
        let base := x.log
        if base ≤ 0.0 then .null
        else
          let y := b.toReal
          if y ≤ 0.0 then .null else .ofReal (y.log / base)
    | none => .null
  | _ => .null

/-- A function of two reals over numbers only. -/
def realPairOf (f : Float → Float → Float) (a b : Datum) : Datum :=
  match numericArgument a, numericArgument b with
  | some x, some y => .ofReal (f x.toReal y.toReal)
  | _, _ => .null

/-- The version of the database. -/
def versionText : String := "3.40.1"

/-- The source identifier of the database. -/
def sourceIdText : String :=
  "2022-12-28 14:03:47 df5c253c0b3dd24916e4ec7cf77d3db5294cc9fd45ae7b9c5e82ad8197f38a24"

/-- The scalar functions that compute from their argument values alone; none
for a name that is not one of them. -/
def scalarOf? (name : String) (c : Collation) (args : List Datum) : Option (Except Fault Datum) :=
  let a := args[0]?.getD .null
  let b := args[1]?.getD .null
  let ok := fun (d : Datum) => some (Except.ok d)
  match name, args.length with
  | "abs", _ => some (absOf a)
  | "char", _ => ok (charOfCodes args)
  | "format", _ | "printf", _ =>
    match args with
    | [] => ok .null
    | f :: rest => match f.textBytes? with
      | some fmt => ok (.text (formatBytes fmt rest))
      | none => ok .null
  | "glob", _ => some (patternOf true a b none)
  | "like", _ => some (patternOf false a b args[2]?)
  | "hex", _ => ok (hexOf a)
  | "instr", _ => ok (instrOf a b)
  | "length", _ => ok (lengthOf a)
  | "likely", _ | "unlikely", _ | "likelihood", _ => ok a
  | "lower", _ => ok (match a.textBytes? with
    | some bs => .text (lowerBytes bs)
    | none => .null)
  | "upper", _ => ok (match a.textBytes? with
    | some bs => .text (upperBytes bs)
    | none => .null)
  | "ltrim", _ => ok (trimOf true false a args[1]?)
  | "rtrim", _ => ok (trimOf false true a args[1]?)
  | "trim", _ => ok (trimOf true true a args[1]?)
  | "max", _ => ok (extremeOf true c args)
  | "min", _ => ok (extremeOf false c args)
  | "nullif", _ => ok (nullifOf c a b)
  | "quote", _ => ok (quoteOf a)
  | "replace", _ => ok (replaceOf a b (args[2]?.getD .null))
  | "round", _ => ok (roundOf a args[1]?)
  | "sign", _ => ok (signOf a)
  | "sqlite_version", _ => ok (.ofString versionText)
  | "sqlite_source_id", _ => ok (.ofString sourceIdText)
  | "sqlite_compileoption_used", _ => ok (if a.isNull then .null else .integer 0)
  | "sqlite_compileoption_get", _ => ok .null
  | "substr", _ | "substring", _ => ok (substrOf a b args[2]?)
  | "typeof", _ => ok (.ofString a.typeName)
  | "unicode", _ => ok (unicodeOf a)
  | "zeroblob", _ => some (zeroblobOf a)
  | "ceil", _ | "ceiling", _ => ok (roundingOf Float.ceil a)
  | "floor", _ => ok (roundingOf Float.floor a)
  | "trunc", _ => ok (roundingOf truncFloat a)
  | "ln", _ | "log", _ | "log10", _ | "log2", _ => ok (logOf name args)
  | "pow", _ | "power", _ => ok (realPairOf Float.pow a b)
  | "atan2", _ => ok (realPairOf Float.atan2 a b)
  | "mod", _ => ok (realPairOf realRemainder a b)
  | "pi", _ => ok (.real 3.14159265358979323846)
  | _, _ => match realFunction? name with
    | some f => ok (match numericArgument a with
      | some n => .ofReal (f n.toReal)
      | none => .null)
    | none => none

end SqlMapper.Database
