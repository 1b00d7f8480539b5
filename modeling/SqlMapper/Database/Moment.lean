import SqlMapper.Database.Format

/-!
# Dates and times

The date and time functions work on a moment held as a Julian day number in
milliseconds, or as a calendar date and a time of day, or both. Text reads as
`YYYY-MM-DD`, optionally followed (after blanks or `T`) by `HH:MM`, `:SS` and
a fraction, and a zone `±HH:MM` or `Z`; or as such a time alone (on
2000-01-01); or as a number, a Julian day. The calendar and the day number
are converted by the usual Julian-day formulas, in doubles where the
formulas divide.

Modifiers then move the moment: `±N unit` (seconds to years; months and
years move the calendar and let its overflow roll over), `±HH:MM[:SS]`,
`start of day|month|year`, `weekday N`, `unixepoch`, `julianday` and `auto`
for a number read before them, and `localtime` and `utc`, here both the
identity, the zone being UTC. A moment outside the years -4713 to 9999 gives
`NULL`.
-/

namespace SqlMapper.Database

/-- A moment: its day number in milliseconds, its calendar fields, and which
of them are known. -/
structure Moment where
  julian : Int := 0
  year : Int := 0
  month : Int := 0
  day : Int := 0
  hour : Int := 0
  minute : Int := 0
  /-- Minutes east of UTC of the zone the text gave. -/
  zone : Int := 0
  second : Float := 0.0
  validJulian : Bool := false
  /-- Whether `second` holds a number read as it was, not yet a moment. -/
  rawNumber : Bool := false
  validDate : Bool := false
  validTime : Bool := false
  validZone : Bool := false
  zoneSet : Bool := false
  failed : Bool := false
  deriving Inhabited

namespace Moment

/-- The moment of an error: every field cleared. -/
def error : Moment := { failed := true }

/-- Whether a day number in milliseconds lies in the years the functions know. -/
def validDayNumber (j : Int) : Bool := 0 ≤ j && j ≤ 464269060799999

/-- A double toward zero as an integer. -/
def truncate (x : Float) : Int := floatTruncation x

/-- Fills in the day number from the calendar fields (2000-01-01 when there
are none). -/
def computeJulian (p : Moment) : Moment :=
  if p.validJulian then p
  else
    let (y, m, d) := if p.validDate then (p.year, p.month, p.day) else (2000, 1, 1)
    if y < -4713 || y > 9999 || p.rawNumber then error
    else
      let (y, m) := if m ≤ 2 then (y - 1, m + 12) else (y, m)
      let a := y.tdiv 100
      let b := 2 - a + a.tdiv 4
      let x1 := (36525 * (y + 4716)).tdiv 100
      let x2 := (306001 * (m + 1)).tdiv 10000
      let base := truncate ((integerFloat (x1 + x2 + d + b) - 1524.5) * 86400000.0)
      let p := { p with julian := base, validJulian := true }
      if p.validTime then
        let j := p.julian + p.hour * 3600000 + p.minute * 60000 + truncate (p.second * 1000.0 + 0.5)
        if p.validZone then
          { p with julian := j - p.zone * 60000, validDate := false, validTime := false, validZone := false }
        else { p with julian := j }
      else p

/-- Fills in the calendar date from the day number. -/
def computeDate (p : Moment) : Moment :=
  if p.validDate then p
  else if !p.validJulian then { p with year := 2000, month := 1, day := 1, validDate := true }
  else if !validDayNumber p.julian then error
  else
    let z := (p.julian + 43200000) / 86400000
    let a := truncate ((integerFloat z - 1867216.25) / 36524.25)
    let a := z + 1 + a - a.tdiv 4
    let b := a + 1524
    let c := truncate ((integerFloat b - 122.1) / 365.25)
    let d := (36525 * (c % 32768)).tdiv 100
    let e := truncate (integerFloat (b - d) / 30.6001)
    let x1 := truncate (30.6001 * integerFloat e)
    let day := b - d - x1
    let month := if e < 14 then e - 1 else e - 13
    let year := if month > 2 then c - 4716 else c - 4715
    { p with year, month, day, validDate := true }

/-- Fills in the time of day from the day number. -/
def computeTime (p : Moment) : Moment :=
  if p.validTime then p
  else
    let p := p.computeJulian
    let s := (p.julian + 43200000) % 86400000
    let secs := integerFloat s / 1000.0
    let whole := truncate secs
    let frac := secs - integerFloat whole
    let hour := whole / 3600
    let rest := whole - hour * 3600
    let minute := rest / 60
    { p with hour, minute, second := frac + integerFloat (rest - minute * 60), rawNumber := false,
             validTime := true }

/-- Fills in both the date and the time. -/
def computeAll (p : Moment) : Moment := p.computeDate.computeTime

/-- Forgets the calendar fields, keeping the day number. -/
def clearFields (p : Moment) : Moment := { p with validDate := false, validTime := false, validZone := false }

/-- A number read as it was: a day number when it is in range. -/
def ofNumber (r : Float) : Moment :=
  let p : Moment := { second := r, rawNumber := true }
  if r ≥ 0.0 && r < 5373484.5 then { p with julian := truncate (r * 86400000.0 + 0.5), validJulian := true } else p

end Moment

/-- Reads `n` digits as a number between bounds, followed by a given byte (none for anything). -/
def readDigitsField (n : Nat) (lo hi : Nat) (next : Option UInt8) (bs : List UInt8) : Option (Nat × List UInt8) :=
  let ds := bs.take n
  if ds.length != n || !ds.all isDigitByte then none
  else
    let v := ds.foldl (fun v b => v * 10 + digitValue b) 0
    let rest := bs.drop n
    if v < lo || v > hi then none
    else match next with
      | some c => match rest with
        | b :: r => if b == c then some (v, r) else none
        | [] => none
      | none => some (v, rest)

/-- Whether a byte is a blank as the date reader skips it. -/
def isDateSpace (b : UInt8) : Bool := isSpaceByte b

/-- Reads a zone after a time: `±HH:MM`, `Z`, or nothing, with blanks
around; whether the text ends there. -/
def readZone (bs : List UInt8) (p : Moment) : Option Moment :=
  let bs := bs.dropWhile isDateSpace
  match bs with
  | [] => some { p with zone := 0 }
  | c :: rest =>
    if c == 90 || c == 122 then
      if (rest.dropWhile isDateSpace).isEmpty then some { p with zone := 0, zoneSet := true } else none
    else if c == 45 || c == 43 then
      match readDigitsField 2 0 14 (some 58) rest with
      | some (h, r) => match readDigitsField 2 0 59 none r with
        | some (m, r) =>
          let z : Int := (if c == 45 then -1 else 1) * ((m : Int) + h * 60)
          if (r.dropWhile isDateSpace).isEmpty then some { p with zone := z, zoneSet := true } else none
        | none => none
      | none => none
    else none

/-- Reads `HH:MM[:SS[.FFF]]` and a zone into a moment. -/
def readClock (bs : List UInt8) (p : Moment) : Option Moment := do
  let (h, r) ← readDigitsField 2 0 24 (some 58) bs
  let (m, r) ← readDigitsField 2 0 59 none r
  let (s, frac, r) ← match r with
    | 58 :: r2 => do
      let (s, r3) ← readDigitsField 2 0 59 none r2
      match r3 with
      | 46 :: d :: r4 =>
        if isDigitByte d then
          let ds := (d :: r4).takeWhile isDigitByte
          let (num, scale) := ds.foldl (fun (n, sc) b => (n * 10.0 + integerFloat (digitValue b), sc * 10.0))
            (0.0, 1.0)
          pure (s, num / scale, (d :: r4).drop ds.length)
        else pure (s, 0.0, r3)
      | _ => pure (s, 0.0, r3)
    | _ => pure (0, 0.0, r)
  let p := { p with validJulian := false, rawNumber := false, validTime := true, hour := h, minute := m,
                    second := integerFloat s + frac }
  let p ← readZone r p
  pure { p with validZone := p.zone != 0 }

/-- Reads `[-]YYYY-MM-DD` with an optional time into a moment. -/
def readCalendar (bs : List UInt8) (p : Moment) : Option Moment := do
  let (negative, bs) := match bs with
    | 45 :: r => (true, r)
    | r => (false, r)
  let (y, r) ← readDigitsField 4 0 14712 (some 45) bs
  let (m, r) ← readDigitsField 2 1 12 (some 45) r
  let (d, r) ← readDigitsField 2 1 31 none r
  let r := r.dropWhile fun b => isDateSpace b || b == 84
  let p ← match readClock r p with
    | some p => some p
    | none => if r.isEmpty then some { p with validTime := false } else none
  let p := { p with validJulian := false, validDate := true, year := if negative then -(y : Int) else y,
                    month := m, day := d }
  pure (if p.validZone then p.computeJulian else p)

/-- How much of a text a real numeral takes: 1 for an integer numeral, 2 for
one with a point or an exponent, 0 or less when it is no numeral. -/
def numeralVerdict (bs : List UInt8) : Int × Float :=
  let r := readReal bs
  match r.form with
  | .integer => (1, r.value)
  | .real => (2, r.value)
  | .realPrefix => (-1, r.value)
  | .none => (0, r.value)

/-- Reads the first argument of a date function from text. -/
def readMoment (bs : List UInt8) : Option Moment :=
  match readCalendar bs {} with
  | some p => some p
  | none => match readClock bs {} with
    | some p => some p
    | none =>
      if lowerBytes bs == utf8 "now" then some (Moment.ofNumber 2451545.0)
      else
        let (verdict, r) := numeralVerdict bs
        if verdict > 0 then some (Moment.ofNumber r) else none

/-- The units of `±N unit` modifiers: name, limit of N, and seconds per unit. -/
def momentUnits : List (String × Float × Float) :=
  [("second", 464269992787968.0, 1.0), ("minute", 7737900007424.0, 60.0), ("hour", 128969998336.0, 3600.0),
   ("day", 5373485.0, 86400.0), ("month", 176546.0, 2592000.0), ("year", 14713.0, 31536000.0)]

/-- Applies a modifier; none when it does not apply. `first` tells whether it
is the first modifier. -/
def applyModifier (p : Moment) (z : List UInt8) (first : Bool) : Option Moment :=
  let lower := lowerBytes z
  match lower with
  | [] => none
  | c :: _ =>
    if lower == utf8 "auto" then
      if !first then none
      else if !p.rawNumber || p.validJulian then some { p with rawNumber := false }
      else if p.second ≥ -210866760000.0 && p.second ≤ 253402300799.0 then
        let r := p.second * 1000.0 + 210866760000000.0
        some { p.clearFields with julian := Moment.truncate (r + 0.5), validJulian := true, rawNumber := false }
      else none
    else if lower == utf8 "julianday" then
      if !first then none
      else if p.validJulian && p.rawNumber then some { p with rawNumber := false } else none
    else if lower == utf8 "localtime" then
      let q := p.computeJulian
      if q.failed then none
      else
        let all := ({ q with validDate := false, validTime := false } : Moment).computeAll
        let ms := q.julian % 1000
        some { all with second := integerFloat (Moment.truncate all.second) + integerFloat ms * 0.001,
                        validJulian := false, rawNumber := false, validZone := false, failed := false }
    else if lower == utf8 "unixepoch" then
      if !p.rawNumber then none
      else if !first then none
      else
        let r := p.second * 1000.0 + 210866760000000.0
        if r ≥ 0.0 && r < 464269060800000.0 then
          some { p.clearFields with julian := Moment.truncate (r + 0.5), validJulian := true, rawNumber := false }
        else none
    else if lower == utf8 "utc" then
      if p.zoneSet then some p
      else
        let q := p.computeJulian
        some { julian := q.julian, validJulian := true, zoneSet := true, failed := q.failed }
    else if lower.take 8 == utf8 "weekday " then
      let (verdict, r) := numeralVerdict (z.drop 8)
      let n := Moment.truncate r
      if verdict > 0 && integerFloat n == r && n ≥ 0 && r < 7.0 then
        let q := ({ p.computeAll with validZone := false, validJulian := false } : Moment).computeJulian
        let day := ((q.julian + 129600000) / 86400000) % 7
        let day := if day > n then day - 7 else day
        some { q with julian := q.julian + (n - day) * 86400000 }.clearFields
      else none
    else if lower.take 9 == utf8 "start of " then
      if !p.validJulian && !p.validDate && !p.validTime then none
      else
        let q := p.computeDate
        let q := { q with validTime := true, hour := 0, minute := 0, second := 0.0, rawNumber := false,
                          validZone := false, validJulian := false }
        let what := lower.drop 9
        if what == utf8 "month" then some { q with day := 1 }
        else if what == utf8 "year" then some { q with month := 1, day := 1 }
        else if what == utf8 "day" then some q
        else none
    else if c == 43 || c == 45 || isDigitByte c then
      let numberPart := c :: ((z.drop 1).takeWhile fun b => b != 58 && !isDateSpace b)
      let (verdict, r) := numeralVerdict numberPart
      if verdict ≤ 0 then none
      else
        let after := z.drop numberPart.length
        match after with
        | 58 :: _ =>
          let clockText := if isDigitByte c then z else z.drop 1
          match readClock clockText {} with
          | none => none
          | some tx =>
            let tx := tx.computeJulian
            let j := tx.julian - 43200000
            let j := j - (j / 86400000) * 86400000
            let j := if c == 45 then -j else j
            let q := p.computeJulian
            some { q.clearFields with julian := q.julian + j }
        | _ =>
          let unit := after.dropWhile isDateSpace
          let n := unit.length
          if n > 10 || n < 3 then none
          else
            let unit := lowerBytes unit
            let unit := if unit.getLast? == some 115 then unit.dropLast else unit
            let q := p.computeJulian
            let rounder := if r < 0.0 then -0.5 else 0.5
            match momentUnits.find? fun (name, limit, _) => utf8 name == unit && r > -limit && r < limit with
            | none => none
            | some (name, _, scale) =>
              let (q, r) :=
                if name == "month" then
                  let q := q.computeAll
                  let month := q.month + Moment.truncate r
                  let x := if month > 0 then (month - 1).tdiv 12 else (month - 12).tdiv 12
                  ({ q with year := q.year + x, month := month - x * 12, validJulian := false },
                    r - integerFloat (Moment.truncate r))
                else if name == "year" then
                  let q := q.computeAll
                  ({ q with year := q.year + Moment.truncate r, validJulian := false },
                    r - integerFloat (Moment.truncate r))
                else (q, r)
              let q := q.computeJulian
              some { q with julian := q.julian + Moment.truncate (r * 1000.0 * scale + rounder) }.clearFields
    else none

/-- The moment of a date function's arguments: the first read, the others
applied as modifiers; none for `NULL`, unreadable text, or a moment out of range. -/
def momentOf (args : List Datum) : Option Moment := do
  let first ← args.head?
  let p ← match first with
    | .integer _ | .real _ => some (Moment.ofNumber first.toReal)
    | d => match d.cText? with
      | some bs => readMoment bs
      | none => none
  let rec go : List Datum → Bool → Moment → Option Moment
    | [], _, p => some p
    | m :: rest, isFirst, p => do
      let bs ← m.cText?
      let p ← applyModifier p bs isFirst
      go rest false p
  let p ← go (args.drop 1) true p
  let p := p.computeJulian
  if p.failed || !Moment.validDayNumber p.julian then none else some p

/-- A number with at least `width` digits, zeros in front, sign first. -/
def padNumber (width : Nat) (n : Int) : String :=
  String.ofList (utf8Chars (formatInteger { base := 10, signed := true } { zeroPad := true, width } n))
where
  utf8Chars (bs : List UInt8) : List Char := bs.map fun b => Char.ofNat b.toNat

/-- The text of a moment's date. -/
def Moment.dateText (p : Moment) : String :=
  padNumber 4 p.year ++ "-" ++ padNumber 2 p.month ++ "-" ++ padNumber 2 p.day

/-- The text of a moment's time of day. -/
def Moment.timeText (p : Moment) : String :=
  padNumber 2 p.hour ++ ":" ++ padNumber 2 p.minute ++ ":" ++ padNumber 2 (Moment.truncate p.second)

/-- Writes a moment by a `strftime` format; none for an unknown conversion. -/
def Moment.strftime (x : Moment) (fmt : List UInt8) : Option (List UInt8) :=
  let rec go : Nat → List UInt8 → List UInt8 → Option (List UInt8)
    | 0, _, acc => some acc
    | fuel + 1, bs, acc =>
      match bs with
      | [] => some acc
      | 37 :: rest =>
        match rest with
        | [] => none
        | c :: rest =>
          let piece : Option String :=
            if c == 100 then some (padNumber 2 x.day)
            else if c == 102 then
              let s := if x.second > 59.999 then 59.999 else x.second
              some (RealFormat.render { style := .fixed, precision := 3, zeroFill := some 6 } s)
            else if c == 72 then some (padNumber 2 x.hour)
            else if c == 87 || c == 106 then
              let y := ({ x with validJulian := false, month := 1, day := 1 } : Moment).computeJulian
              let nDay := (x.julian - y.julian + 43200000) / 86400000
              if c == 87 then
                let wd := ((x.julian + 43200000) / 86400000) % 7
                some (padNumber 2 ((nDay + 7 - wd) / 7))
              else some (padNumber 3 (nDay + 1))
            else if c == 74 then
              some (RealFormat.render { style := .general, precision := 16 } (integerFloat x.julian / 86400000.0))
            else if c == 109 then some (padNumber 2 x.month)
            else if c == 77 then some (padNumber 2 x.minute)
            else if c == 115 then some (toString (x.julian / 1000 - 210866760000))
            else if c == 83 then some (padNumber 2 (Moment.truncate x.second))
            else if c == 119 then some (toString (((x.julian + 129600000) / 86400000) % 7))
            else if c == 89 then some (padNumber 4 x.year)
            else if c == 37 then some "%"
            else none
          match piece with
          | some s => go fuel rest (acc ++ utf8 s)
          | none => none
      | b :: rest => go fuel rest (acc ++ [b])
  go (fmt.length + 1) (cString fmt) []

/-- The date and time functions; none for a name that is not one. -/
def dateFunction? (name : String) (args : List Datum) : Option Datum :=
  let now : List Datum := [.ofString "now"]
  let withNow := fun (xs : List Datum) => if xs.isEmpty then now else xs
  match name with
  | "julianday" => some ((momentOf (withNow args)).map (fun p => Datum.real (integerFloat p.julian / 86400000.0))
      |>.getD .null)
  | "unixepoch" => some ((momentOf (withNow args)).map (fun p => Datum.integer (p.julian / 1000 - 210866760000))
      |>.getD .null)
  | "date" | "current_date" => some ((momentOf (withNow args)).map (fun p => Datum.ofString p.computeAll.dateText)
      |>.getD .null)
  | "time" | "current_time" => some ((momentOf (withNow args)).map (fun p => Datum.ofString p.computeAll.timeText)
      |>.getD .null)
  | "datetime" | "current_timestamp" => some ((momentOf (withNow args)).map (fun p =>
      let q := p.computeAll
      Datum.ofString (q.dateText ++ " " ++ q.timeText)) |>.getD .null)
  | "strftime" =>
    match args with
    | [] => some .null
    | f :: rest => some (match f.textBytes?, momentOf (withNow rest) with
      | some fmt, some p => match p.computeAll.strftime fmt with
        | some bs => .text bs
        | none => .null
      | _, _ => .null)
  | _ => none

end SqlMapper.Database
