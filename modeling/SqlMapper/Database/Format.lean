import SqlMapper.Database.Characters
import SqlMapper.Database.RealText

/-!
# Formatting values into text

`printf(FORMAT, ...)` copies its format, replacing each conversion `%…` by
the next argument in a form the conversion names:

* `d`, `i` a signed integer, `u` an unsigned one, `x`, `X`, `o`, `p` an
  unsigned one in hexadecimal or octal, `r` an ordinal (`1st`, `22nd`);
* `f`, `e`, `E`, `g`, `G` a real (see `RealFormat`);
* `s`, `z` text, `c` the first character of text, `q`, `Q`, `w` text with
  quotes doubled (`Q` also quoted, `NULL` for `NULL`);
* `%` itself; `n` nothing.

Between `%` and the letter stand flags (`-` to the left, `+` or a space
before positive numbers, `#` an alternate form, `!` counts in characters and
more digits, `0` zeros instead of spaces, `,` groups of thousands), a width
and a precision, each possibly `*` to take it from the next argument.
Arguments that are missing read as `0`, `0.0` or `NULL`. A conversion letter
that is not one of these ends the text where it stands; a lone `%` at the end
stands for itself.
-/

namespace SqlMapper.Database

/-- The flags, width and precision of a conversion. -/
structure Conversion where
  leftJustify : Bool := false
  /-- What stands before a positive number: `+`, a space, or nothing. -/
  plusSign : Option UInt8 := none
  alternate : Bool := false
  extended : Bool := false
  zeroPad : Bool := false
  thousands : Bool := false
  width : Nat := 0
  precision : Option Nat := none
  deriving Inhabited

/-- The arguments of a format not yet used. -/
abbrev Arguments := List Datum

/-- Takes the next argument as an integer, `0` when none is left. -/
def Arguments.nextInteger : Arguments → Int × Arguments
  | [] => (0, [])
  | d :: rest => (d.toInteger, rest)

/-- Takes the next argument as a real, `0.0` when none is left. -/
def Arguments.nextReal : Arguments → Float × Arguments
  | [] => (0.0, [])
  | d :: rest => (d.toReal, rest)

/-- Takes the next argument as text up to its first NUL, none for `NULL` or
when none is left. -/
def Arguments.nextText : Arguments → Option (List UInt8) × Arguments
  | [] => (none, [])
  | d :: rest => (d.cText?, rest)

/-- An integer cut to 32 bits, as a signed value. -/
def toInt32 (n : Int) : Int :=
  let m := n % Int.pow 2 32
  if m ≥ Int.pow 2 31 then m - Int.pow 2 32 else m

/-- A width taken from an argument: negative means to the left. -/
def widthOfArgument (n : Int) : Bool × Nat :=
  let w := toInt32 n
  if w < 0 then (true, if w ≥ -2147483647 then w.natAbs else 0) else (false, w.toNat)

/-- A precision taken from an argument: its magnitude, none for the least
32-bit value. -/
def precisionOfArgument (n : Int) : Option Nat :=
  let p := toInt32 n
  if p < 0 then (if p ≥ -2147483647 then some p.natAbs else none) else some p.toNat

/-- Reads decimal digits into a number that wraps at 32 bits and keeps 31. -/
def readCount (bs : List UInt8) : Nat × List UInt8 :=
  let ds := bs.takeWhile isDigitByte
  (ds.foldl (fun n b => (n * 10 + digitValue b) % Nat.pow 2 32) 0 % Nat.pow 2 31, bs.drop ds.length)

/-- Reads the flags, width and precision after a `%`: the conversion read,
the letter that ends it (none at the end of the format), the rest of the
format after the letter, and the arguments left. -/
def readConversion (bs : List UInt8) (args : Arguments) :
    Conversion × Option UInt8 × List UInt8 × Arguments :=
  let rec go : Nat → Conversion → List UInt8 → Arguments → Conversion × Option UInt8 × List UInt8 × Arguments
    | 0, c, _, args => (c, none, [], args)
    | fuel + 1, c, bs, args =>
      match bs with
      | [] => (c, none, [], args)
      | b :: rest =>
        if b == 45 then go fuel { c with leftJustify := true } rest args
        else if b == 43 then go fuel { c with plusSign := some 43 } rest args
        else if b == 32 then go fuel { c with plusSign := some 32 } rest args
        else if b == 35 then go fuel { c with alternate := true } rest args
        else if b == 33 then go fuel { c with extended := true } rest args
        else if b == 48 then go fuel { c with zeroPad := true } rest args
        else if b == 44 then go fuel { c with thousands := true } rest args
        else if b == 108 then
          let rest := match rest with
            | 108 :: r => r
            | r => r
          match rest with
          | [] => (c, none, [], args)
          | l :: r => (c, some l, r, args)
        else if 49 ≤ b && b ≤ 57 then
          let (w, rest) := readCount bs
          let c := { c with width := w }
          match rest with
          | 46 :: _ | 108 :: _ => go fuel c rest args
          | [] => (c, none, [], args)
          | l :: r => (c, some l, r, args)
        else if b == 42 then
          let (n, args) := args.nextInteger
          let (left, w) := widthOfArgument n
          let c := { c with width := w, leftJustify := c.leftJustify || left }
          match rest with
          | 46 :: _ | 108 :: _ => go fuel c rest args
          | [] => (c, none, [], args)
          | l :: r => (c, some l, r, args)
        else if b == 46 then
          let (p, rest, args) := match rest with
            | 42 :: r =>
              let (n, args) := args.nextInteger
              (precisionOfArgument n, r, args)
            | r =>
              let (p, r) := readCount r
              (some p, r, args)
          let c := { c with precision := p }
          match rest with
          | 108 :: _ => go fuel c rest args
          | [] => (c, none, [], args)
          | l :: r => (c, some l, r, args)
        else (c, some b, rest, args)
  go (bs.length + 1) {} bs args

/-- The digits of a natural number in a base, with upper- or lower-case letters. -/
def digitsIn (base : Nat) (upper : Bool) (n : Nat) : List UInt8 :=
  let digit := fun (d : Nat) =>
    if d < 10 then (48 + d).toUInt8 else ((if upper then 55 else 87) + d).toUInt8
  let rec go : Nat → Nat → List UInt8 → List UInt8
    | 0, _, acc => acc
    | fuel + 1, n, acc =>
      let acc := digit (n % base) :: acc
      if n / base = 0 then acc else go fuel (n / base) acc
  go (n + 1) n []

/-- Digits with a comma before each group of three from the right. -/
def groupDigits (ds : List UInt8) : List UInt8 :=
  let n := ds.length
  ds.zipIdx.flatMap fun (d, i) =>
    let place := n - 1 - i
    if place % 3 == 0 && place > 0 then [d, 44] else [d]

/-- The suffix of an ordinal number. -/
def ordinalSuffix (n : Nat) : List UInt8 :=
  let x := n % 10
  let x := if x ≥ 4 || (n / 10) % 10 == 1 then 0 else x
  utf8 (match x with
    | 1 => "st"
    | 2 => "nd"
    | 3 => "rd"
    | _ => "th")

/-- The kinds of integer conversion: the base, whether the value is signed,
whether letters are upper case, the alternate prefix, and whether it is an
ordinal. -/
structure IntegerStyle where
  base : Nat
  signed : Bool
  upper : Bool := true
  altPrefix : List UInt8 := []
  ordinal : Bool := false
  grouped : Bool := false

/-- The integer style of a conversion letter. -/
def integerStyle? : UInt8 → Option IntegerStyle
  | 100 | 105 => some { base := 10, signed := true, grouped := true }
  | 117 => some { base := 10, signed := false, grouped := true }
  | 120 => some { base := 16, signed := false, upper := false, altPrefix := utf8 "0x" }
  | 88 => some { base := 16, signed := false, altPrefix := utf8 "0X" }
  | 111 => some { base := 8, signed := false, altPrefix := utf8 "0" }
  | 112 => some { base := 16, signed := false, altPrefix := utf8 "0x" }
  | 114 => some { base := 10, signed := true, ordinal := true }
  | _ => none

/-- An integer argument in a style. -/
def formatInteger (style : IntegerStyle) (c : Conversion) (n : Int) : List UInt8 :=
  let (magnitude, sign) : Nat × Option UInt8 :=
    if style.signed then (if n < 0 then (n.natAbs, some 45) else (n.toNat, c.plusSign))
    else ((n % Int.pow 2 64).toNat, none)
  let alternate := c.alternate && magnitude != 0
  let signWidth := if sign.isSome then 1 else 0
  let precision : Int := match c.precision with
    | some p => p
    | none => -1
  let precision := if c.zeroPad && precision < (c.width : Int) - signWidth then (c.width : Int) - signWidth
    else precision
  let body := digitsIn style.base style.upper magnitude ++ (if style.ordinal then ordinalSuffix magnitude else [])
  let body := if precision > body.length then List.replicate (precision.toNat - body.length) 48 ++ body else body
  let body := if c.thousands && style.grouped then groupDigits body else body
  let body := (match sign with
    | some s => [s]
    | none => []) ++ body
  if alternate then style.altPrefix ++ body else body

/-- The real format of a conversion letter. -/
def realStyle? : UInt8 → Option (RealStyle × Char)
  | 102 => some (.fixed, 'e')
  | 101 => some (.scientific, 'e')
  | 69 => some (.scientific, 'E')
  | 103 => some (.general, 'e')
  | 71 => some (.general, 'E')
  | _ => none

/-- A real argument in a style. -/
def formatReal (style : RealStyle) (letter : Char) (c : Conversion) (x : Float) : List UInt8 :=
  let f : RealFormat :=
    { style, precision := c.precision.getD 6, exponentLetter := letter, alternate := c.alternate,
      extended := c.extended, plusSign := c.plusSign.map (fun b => Char.ofNat b.toNat),
      zeroFill := if c.zeroPad && !c.leftJustify then some c.width else none, thousands := c.thousands }
  utf8 (f.render x)

/-- The number of continuation bytes in a text. -/
def continuationCount (bs : List UInt8) : Nat := (bs.filter isContinuation).length

/-- The first `n` characters of a text. -/
def takeChars (n : Nat) (bs : List UInt8) : List UInt8 :=
  ((charsOf bs).take n).flatten

/-- Text with a quote character doubled, cut to `limit` bytes or (with `!`)
characters. -/
def escapeQuote (quote : UInt8) (limit : Option Nat) (extended : Bool) (bs : List UInt8) : List UInt8 :=
  let kept := match limit with
    | none => bs
    | some n => if extended then takeChars n bs else bs.take n
  kept.flatMap fun b => if b == quote then [b, b] else [b]

/-- Places a converted text in its width: spaces before it, or after it when
justified to the left. The width counts bytes; with `!` it counts characters. -/
def padToWidth (c : Conversion) (countChars : Bool) (body : List UInt8) : List UInt8 :=
  let width := if countChars && c.width > 0 then c.width + continuationCount body else c.width
  if width > body.length then
    let pad := List.replicate (width - body.length) 32
    if c.leftJustify then body ++ pad else pad ++ body
  else body

/-- The `c` conversion: the first character of the text (a NUL byte for
`NULL` or empty text), repeated `precision` times. -/
def formatChar (c : Conversion) (text : Option (List UInt8)) : List UInt8 :=
  let ch := match text.getD [] with
    | [] => [0]
    | b :: rest =>
      if b &&& 0xC0 == 0xC0 then b :: (rest.takeWhile isContinuation).take 3 else [b]
  match c.precision with
  | some p =>
    if p > 1 then
      let width : Int := (c.width : Int) - (p - 1 : Nat)
      let (lead, width) := if width > 1 && !c.leftJustify then (List.replicate (width - 1).toNat 32, (0 : Int))
        else ([], width)
      let copies := (List.replicate (p - 1) ch).flatten
      let rest := padToWidth { c with width := width.toNat } true ch
      lead ++ copies ++ rest
    else padToWidth c true ch
  | none => padToWidth c true ch

/-- What one conversion writes, and whether the text goes on after it. -/
def convert (letter : UInt8) (c : Conversion) (args : Arguments) : Option (List UInt8) × Arguments :=
  match integerStyle? letter with
  | some style =>
    let (n, args) := args.nextInteger
    (some (padToWidth c false (formatInteger style c n)), args)
  | none =>
  match realStyle? letter with
  | some (style, e) =>
    let (x, args) := args.nextReal
    (some (padToWidth c false (formatReal style e c x)), args)
  | none =>
    if letter == 115 || letter == 122 then
      let (t, args) := args.nextText
      let t := t.getD []
      let body := match c.precision with
        | some p => if c.extended then takeChars p t else t.take p
        | none => t
      (some (padToWidth c c.extended body), args)
    else if letter == 99 then
      let (t, args) := args.nextText
      (some (formatChar c t), args)
    else if letter == 113 || letter == 81 || letter == 119 then
      let (t, args) := args.nextText
      let quote : UInt8 := if letter == 119 then 34 else 39
      let body := match t with
        | none => escapeQuote quote c.precision c.extended (utf8 (if letter == 81 then "NULL" else "(NULL)"))
        | some bs =>
          let e := escapeQuote quote c.precision c.extended bs
          if letter == 81 then quote :: e ++ [quote] else e
      (some (padToWidth c c.extended body), args)
    else if letter == 37 then (some (padToWidth c false [37]), args)
    else if letter == 110 then (some [], args)
    else (none, args)

/-- Writes a format with its arguments. -/
def formatBytes (format : List UInt8) (args : Arguments) : List UInt8 :=
  let rec go : Nat → List UInt8 → Arguments → List UInt8 → List UInt8
    | 0, _, _, acc => acc
    | fuel + 1, bs, args, acc =>
      match bs with
      | [] => acc
      | 37 :: rest =>
        match rest with
        | [] => acc ++ [37]
        | _ =>
          let (c, letter, rest, args) := readConversion rest args
          match letter with
          | none => acc
          | some l =>
            match convert l c args with
            | (some out, args) => go fuel rest args (acc ++ out)
            | (none, _) => acc
      | _ =>
        let plain := bs.takeWhile (· != 37)
        go fuel (bs.drop plain.length) args (acc ++ plain)
  go (format.length + 1) (cString format) args []

end SqlMapper.Database
