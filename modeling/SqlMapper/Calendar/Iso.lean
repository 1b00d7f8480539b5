import SqlMapper.Calendar.Basic
import SqlMapper.Text.Surrogate

/-!
# Reading ISO 8601 text

Dates, times and offsets in the extended and the basic ISO forms. A date is
`YYYY-MM-DD`, `YYYYMMDD` or an ISO week date; a time is `HH`, `HH:MM`,
`HH:MM:SS` or the same without colons, with a fraction after `.` or `,` cut
to microseconds, then `Z` or a signed offset read as a time. A date and a
time are joined by any one byte, found by the form of the date.

The text is read byte by byte as it is held, so that a reading that runs
past the end sees a zero byte, and fields are read before they are checked:
a reading of `24:00` is a time whose hour is out of range, not text that is
not a time.
-/

namespace SqlMapper.Calendar

/-- Reads exactly `n` decimal digits. -/
def readFixed : Nat → List Char → Option (Nat × List Char)
  | 0, cs => some (0, cs)
  | n + 1, c :: rest =>
    if c.isDigit then
      (readFixed n rest).map fun (v, r) => ((c.toNat - 48) * Nat.pow 10 n + v, r)
    else none
  | _ + 1, [] => none

/-- Reads a fraction of a second after the point as microseconds, cutting digits past six. -/
def readFraction (cs : List Char) : Option (Nat × List Char) :=
  let ds := cs.takeWhile Char.isDigit
  if ds.isEmpty then none else
  let six := (ds.take 6) ++ List.replicate (6 - ds.length) '0'
  some (six.foldl (fun n c => n * 10 + (c.toNat - 48)) 0, cs.dropWhile Char.isDigit)

/-- Reads `YYYY-MM-DD`. -/
def readDateText (cs : List Char) : Option (Date × List Char) := do
  let (y, r1) ← readFixed 4 cs
  let r1 ← match r1 with
    | '-' :: r => some r
    | _ => none
  let (m, r2) ← readFixed 2 r1
  let r2 ← match r2 with
    | '-' :: r => some r
    | _ => none
  let (d, r3) ← readFixed 2 r2
  let date : Date := ⟨y, m, d⟩
  if date.isValid then some (date, r3) else none

/-- Reads `HH[:MM[:SS[.fff]]]`, giving hour, minute, second and microseconds. -/
def readClock (cs : List Char) : Option ((Nat × Nat × Nat × Nat) × List Char) := do
  let (h, r1) ← readFixed 2 cs
  match r1 with
  | ':' :: r1' =>
    let (m, r2) ← readFixed 2 r1'
    match r2 with
    | ':' :: r2' =>
      let (s, r3) ← readFixed 2 r2'
      match r3 with
      | '.' :: r3' =>
        let (us, r4) ← readFraction r3'
        some ((h, m, s, us), r4)
      | _ => some ((h, m, s, 0), r3)
    | _ => some ((h, m, 0, 0), r2)
  | _ => some ((h, 0, 0, 0), r1)

/-- Reads an offset to its end: `Z`, or a sign and a clock reading. -/
def readOffset (cs : List Char) : Option (Option Int) :=
  match cs with
  | [] => some none
  | ['Z'] => some (some 0)
  | s :: rest =>
    if s == '+' || s == '-' then do
      let ((h, m, sec, us), r) ← readClock rest
      if !r.isEmpty || m ≥ 60 || sec ≥ 60 then none else
      let total : Int := (((h * 60 + m) * 60 + sec) * 1000000 + us : Nat)
      some (some (if s == '-' then -total else total))
    else none

/-- Reads a whole time of day with its optional offset. -/
def readTimeText (cs : List Char) : Option TimeOfDay := do
  let ((h, m, s, us), r) ← readClock cs
  let off ← readOffset r
  let t : TimeOfDay := ⟨h, m, s, us, off⟩
  if t.isValid then some t else none

/-- Why text gives no calendar value: it is not ISO text, or a field it
gives is out of range, with the message that says which. -/
inductive IsoError where
  | malformed
  | outOfRange (message : String)
  deriving Inhabited

/-- The byte at a position of text: zero at its end and past it, as after a
terminator. -/
def byteAt (bs : Array UInt8) (i : Nat) : UInt8 := bs.getD i 0

/-- Whether a byte is an ASCII digit. -/
def isDigitByte (b : UInt8) : Bool := 48 ≤ b && b ≤ 57

/-- Reads exactly `n` ASCII digits from a position onto a value: the value
and the position after them. -/
def digitsAt (bs : Array UInt8) : Nat → Nat → Nat → Option (Nat × Nat)
  | 0, i, v => some (v, i)
  | n + 1, i, v =>
    let b := byteAt bs i
    if isDigitByte b then digitsAt bs n (i + 1) (v * 10 + (b.toNat - 48)) else none

/-- The ordinal of a date: 1 for 0001-01-01. -/
def Date.ordinal (d : Date) : Int := d.toEpochDays + 719163

/-- The date of an ordinal. -/
def Date.ofOrdinal (n : Int) : Date := Date.ofEpochDays (n - 719163)

/-- The date of an ISO week date: the Monday of week 1 is the Monday of the
week that holds the year's first Thursday. Week 53 exists only in years that
start on a Thursday, or leap years that start on a Wednesday. -/
def Date.ofIsoWeek? (year week day : Nat) : Option Date :=
  let first := (Date.mk year 1 1).ordinal
  let weekday := Int.tmod (first + 6) 7
  let longYear := weekday == 3 || (weekday == 2 && isLeap year)
  if (week == 0 || week ≥ 53) && !(week == 53 && longYear) then none
  else if day == 0 || day ≥ 8 then none
  else
    let monday := first - weekday + (if weekday > 3 then 7 else 0)
    some (Date.ofOrdinal (monday + ((week : Int) - 1) * 7 + (day : Int) - 1))

/-- Reads a date from the start of text whose date part has `len` bytes:
`YYYY-MM-DD`, `YYYYMMDD`, or a week date `YYYY-Www[-D]`, `YYYYWww[D]` (day 1
when it has none). Month and day are read, not checked. -/
def readIsoDate (bs : Array UInt8) (len : Nat) : Option (Nat × Nat × Nat) := do
  let (year, p) ← digitsAt bs 4 0 0
  let separated := byteAt bs p == 45
  let p := if separated then p + 1 else p
  if byteAt bs p == 87 then
    let (week, p) ← digitsAt bs 2 (p + 1) 0
    let day ← if p < len then do
        if separated && byteAt bs p != 45 then none
        let q := if separated then p + 1 else p
        pure (← digitsAt bs 1 q 0).1
      else pure 1
    let d ← Date.ofIsoWeek? year week day
    pure (d.year, d.month, d.day)
  else
    let (month, p) ← digitsAt bs 2 p 0
    if separated && byteAt bs p != 45 then none
    let p := if separated then p + 1 else p
    let (day, _) ← digitsAt bs 2 p 0
    pure (year, month, day)

/-- The position of the byte between the date and the time of a date and
time, told by the form of the date: the bytes at 4 and 5 show whether it
has dashes and whether it is a week date, and a week date without dashes
ends where its run of digits says. -/
def isoSeparator (bs : Array UInt8) : Nat :=
  let len := bs.size
  if len == 7 then 7
  else if byteAt bs 4 == 45 then
    if byteAt bs 5 == 87 then
      if len > 8 && byteAt bs 8 == 45 then
        if len > 10 && isDigitByte (byteAt bs 10) then 8 else 10
      else 8
    else 10
  else if byteAt bs 4 == 87 then
    let run := ((List.range (len - min len 7)).map (· + 7)).takeWhile fun i => isDigitByte (byteAt bs i)
    let stop := 7 + run.length
    if stop < 9 then stop else if stop % 2 == 0 then 7 else 8
  else 8

/-- Hours, minutes, seconds and microseconds read from a clock. -/
structure ClockFields where
  hour : Nat := 0
  minute : Nat := 0
  second : Nat := 0
  micro : Nat := 0

/-- Reads `HH[:MM[:SS]]` or `HH[MM[SS]]`, then a fraction after `.` or `,`,
from a position before `stop`; the fields, and whether a byte other than the
end follows. The fraction takes up to six digits before `stop` and passes
over the digits after them. -/
def readIsoClock (bs : Array UInt8) (start stop : Nat) : Option (ClockFields × Bool) :=
  let fraction := fun (f : ClockFields) (p : Nat) => do
    let count := min (stop - p) 6
    let (us, p) ← digitsAt bs count p 0
    let us := us * Nat.pow 10 (6 - count)
    let rest := ((List.range (bs.size - min bs.size p)).map (· + p)).dropWhile fun i => isDigitByte (byteAt bs i)
    pure ({ f with micro := us }, byteAt bs (rest.head?.getD bs.size) != 0)
  let rec fields : Nat → Nat → Bool → ClockFields → Option (ClockFields × Bool)
    | 0, p, _, f => fraction f p
    | k + 1, p, separated, f => do
      let (v, q) ← digitsAt bs 2 p 0
      let f := match k with
        | 2 => { f with hour := v }
        | 1 => { f with minute := v }
        | _ => { f with second := v }
      let c := byteAt bs q
      let separated := if k == 2 then c == 58 else separated
      if q + 1 ≥ stop then pure (f, c != 0)
      else if separated && c == 58 then fields k (q + 1) separated f
      else if c == 46 || c == 44 then fraction f (q + 1)
      else if !separated then fields k q separated f
      else none
  fields 3 start true {}

/-- A clock reading and its offset from UTC, in seconds and microseconds,
when it has one. -/
structure IsoTime where
  clock : ClockFields
  offset : Option (Int × Int)

/-- Reads a time of `len` bytes from a position: a clock reading, then `Z` or
a signed offset read as a clock. The offset starts at the first `Z`, `+` or
`-`. -/
def readIsoTime (bs : Array UInt8) (start len : Nat) : Option IsoTime := do
  let stop := start + len
  let isZone := fun (b : UInt8) => b == 90 || b == 43 || b == 45
  let zone := if isZone (byteAt bs start) then start
    else (((List.range (len - min len 1)).map (· + start + 1)).find? fun i => isZone (byteAt bs i)).getD
      (max stop (start + 1))
  let (clock, more) ← readIsoClock bs start zone
  if zone == stop then
    if more then none else pure { clock, offset := none }
  else if byteAt bs zone == 90 then
    if byteAt bs (zone + 1) != 0 then none else pure { clock, offset := some (0, 0) }
  else
    let sign : Int := if byteAt bs zone == 45 then -1 else 1
    let (z, zmore) ← readIsoClock bs (zone + 1) stop
    if zmore then none
    else pure { clock, offset := some (sign * ((z.hour * 3600 + z.minute * 60 + z.second : Nat) : Int), sign * z.micro) }

/-- How a span of time reads back as a value: its days, seconds and
microseconds, the zero ones left out. -/
def spanRepr (micros : Int) : String :=
  let days := micros / 86400000000
  let rest := micros % 86400000000
  let seconds := rest / 1000000
  let us := rest % 1000000
  let parts := (if days != 0 then ["days=" ++ toString days] else []) ++
    (if seconds != 0 then ["seconds=" ++ toString seconds] else []) ++
    (if us != 0 then ["microseconds=" ++ toString us] else [])
  "datetime.timedelta(" ++ (if parts.isEmpty then "0" else ", ".intercalate parts) ++ ")"

/-- The offset of a reading in microseconds: none without one, zero when
its seconds are zero, and refused unless it is within a day either way. -/
def isoOffset (offset : Option (Int × Int)) : Except IsoError (Option Int) :=
  match offset with
  | none => pure none
  | some (seconds, micros) =>
    if seconds == 0 then pure (some 0)
    else
      let total := seconds * 1000000 + micros
      if total ≤ -86400000000 || total ≥ 86400000000 then
        throw (.outOfRange ("offset must be a timedelta strictly between -timedelta(hours=24) and " ++
          "timedelta(hours=24), not " ++ spanRepr total ++ "."))
      else pure (some total)

/-- Checks the fields of a date, year first. -/
def checkDate (year month day : Nat) : Except IsoError Date :=
  if year == 0 || year > 9999 then throw (.outOfRange ("year " ++ toString year ++ " is out of range"))
  else if month == 0 || month > 12 then throw (.outOfRange "month must be in 1..12")
  else if day == 0 || day > daysInMonth year month then throw (.outOfRange "day is out of range for month")
  else pure ⟨year, month, day⟩

/-- Checks the fields of a clock reading, hour first. -/
def checkClock (c : ClockFields) (offset : Option Int) : Except IsoError TimeOfDay :=
  if c.hour > 23 then throw (.outOfRange "hour must be in 0..23")
  else if c.minute > 59 then throw (.outOfRange "minute must be in 0..59")
  else if c.second > 59 then throw (.outOfRange "second must be in 0..59")
  else pure ⟨c.hour, c.minute, c.second, c.micro, offset⟩

/-- A date from ISO text of 7, 8 or 10 bytes. -/
def Date.readIso (s : String) : Except IsoError Date := do
  let bs := s.toUTF8.data
  if !(bs.size == 7 || bs.size == 8 || bs.size == 10) then throw .malformed
  match readIsoDate bs bs.size with
  | some (y, m, d) => checkDate y m d
  | none => throw .malformed

/-- A time of day from ISO text, optionally after a `T`. -/
def TimeOfDay.readIso (s : String) : Except IsoError TimeOfDay := do
  let bs := s.toUTF8.data
  let start := if byteAt bs 0 == 84 then 1 else 0
  match readIsoTime bs start (bs.size - start) with
  | some t => checkClock t.clock (← isoOffset t.offset)
  | none => throw .malformed

/-- The text a date and time is read from: a lone surrogate at the eighth,
ninth or eleventh character, where a separator can stand, is read as `T`;
none when a lone surrogate remains, since such text has no bytes. -/
def isoText? (s : String) : Option String :=
  let cs := s.toList
  let cs := match [7, 8, 10].find? (fun i => (cs[i]?.bind Text.surrogate?).isSome) with
    | some i => cs.set i 'T'
    | none => cs
  if cs.any (fun c => (Text.surrogate? c).isSome) then none else some (String.ofList cs)

/-- The number of bytes of the character whose first byte is given, as its
high bits tell it. -/
def separatorWidth (b : UInt8) : Nat :=
  if b &&& 0x80 == 0 then 1
  else if b &&& 0xF0 == 0xE0 then 3
  else if b &&& 0xF0 == 0xF0 then 4
  else 2

/-- A date and time from ISO text of at least seven characters: a date, then
any one character and a time; a date alone is midnight. The offset is checked
before the date, and the date before the clock. -/
def DateTime.readIso (s : String) : Except IsoError DateTime := do
  if s.length < 7 then throw .malformed
  let bs ← match isoText? s with
    | some t => pure t.toUTF8.data
    | none => throw .malformed
  let sep := isoSeparator bs
  let (y, m, d) ← match readIsoDate bs sep with
    | some r => pure r
    | none => throw .malformed
  let start := sep + separatorWidth (bs[sep]?.getD 0)
  let t ← if bs.size > sep then
      match readIsoTime bs start (bs.size - start) with
      | some t => pure t
      | none => throw .malformed
    else pure { clock := {}, offset := none }
  let offset ← isoOffset t.offset
  let date ← checkDate y m d
  pure ⟨date, ← checkClock t.clock offset⟩

end SqlMapper.Calendar
