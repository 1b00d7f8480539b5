/-!
# Calendar values

Dates of the proleptic Gregorian calendar, times of day to the microsecond
with an optional offset from UTC, and their combination. Their text is ISO
8601: `2024-01-02`, `03:04:05.500000+02:00`, the date and the time joined by
a separator. Days are counted from 1970-01-01 to turn timestamps into dates.
-/

namespace SqlMapper.Calendar

/-- A calendar date. -/
structure Date where
  year : Nat
  month : Nat
  day : Nat
  deriving DecidableEq, Repr, Inhabited

/-- A time of day, with its offset from UTC in microseconds when it is aware. -/
structure TimeOfDay where
  hour : Nat
  minute : Nat
  second : Nat
  micro : Nat
  offset : Option Int
  deriving DecidableEq, Repr, Inhabited

/-- A date and a time of day. -/
structure DateTime where
  date : Date
  time : TimeOfDay
  deriving DecidableEq, Repr, Inhabited

/-- Leap years of the Gregorian calendar. -/
def isLeap (y : Nat) : Bool := y % 4 == 0 && (y % 100 != 0 || y % 400 == 0)

/-- Number of days of a month. -/
def daysInMonth (y m : Nat) : Nat :=
  match m with
  | 1 | 3 | 5 | 7 | 8 | 10 | 12 => 31
  | 4 | 6 | 9 | 11 => 30
  | 2 => if isLeap y then 29 else 28
  | _ => 0

/-- A date that the calendar has. -/
def Date.isValid (d : Date) : Bool :=
  1 ≤ d.year && d.year ≤ 9999 && 1 ≤ d.month && d.month ≤ 12 && 1 ≤ d.day && d.day ≤ daysInMonth d.year d.month

/-- A time of day on the clock. -/
def TimeOfDay.isValid (t : TimeOfDay) : Bool :=
  t.hour < 24 && t.minute < 60 && t.second < 60 && t.micro < 1000000 &&
    (t.offset.map fun o => decide (o.natAbs < 86400000000)).getD true

/-- The date `days` days after 1970-01-01 (negative before it). -/
def Date.ofEpochDays (days : Int) : Date :=
  let z := days + 719468
  let era := (if z ≥ 0 then z else z - 146096) / 146097
  let doe := z - era * 146097
  let yoe := (doe - doe / 1460 + doe / 36524 - doe / 146096) / 365
  let y := yoe + era * 400
  let doy := doe - (365 * yoe + yoe / 4 - yoe / 100)
  let mp := (5 * doy + 2) / 153
  let d := doy - (153 * mp + 2) / 5 + 1
  let m := if mp < 10 then mp + 3 else mp - 9
  ⟨(if m ≤ 2 then y + 1 else y).toNat, m.toNat, d.toNat⟩

/-- Days from 1970-01-01 to a date (negative before it). -/
def Date.toEpochDays (d : Date) : Int :=
  let y : Int := if d.month ≤ 2 then (d.year : Int) - 1 else d.year
  let era := (if y ≥ 0 then y else y - 399) / 400
  let yoe := y - era * 400
  let m : Int := d.month
  let mp := if m > 2 then m - 3 else m + 9
  let doy := (153 * mp + 2) / 5 + (d.day : Int) - 1
  let doe := yoe * 365 + yoe / 4 - yoe / 100 + doy
  era * 146097 + doe - 719468

/-- Microseconds since midnight of a clock reading, its offset aside. -/
def TimeOfDay.micros (t : TimeOfDay) : Int :=
  (((t.hour * 60 + t.minute) * 60 + t.second) * 1000000 + t.micro : Nat)

/-- Microseconds from the epoch to a date and time read on a clock of its offset. -/
def DateTime.localMicros (dt : DateTime) : Int := dt.date.toEpochDays * 86400000000 + dt.time.micros

/-- Zero-padded decimal digits of `n`. -/
def padded (width n : Nat) : String :=
  let ds := Nat.toDigits 10 n
  String.ofList (List.replicate (width - ds.length) '0' ++ ds)

/-- ISO text of a date. -/
def Date.iso (d : Date) : String := padded 4 d.year ++ "-" ++ padded 2 d.month ++ "-" ++ padded 2 d.day

/-- ISO text of an offset: `+HH:MM`, with seconds and microseconds when present. -/
def offsetIso (o : Int) : String :=
  let a := o.natAbs
  let secs := a / 1000000
  let micro := a % 1000000
  let base := (if o < 0 then "-" else "+") ++ padded 2 (secs / 3600) ++ ":" ++ padded 2 (secs / 60 % 60)
  if micro ≠ 0 then base ++ ":" ++ padded 2 (secs % 60) ++ "." ++ padded 6 micro
  else if secs % 60 ≠ 0 then base ++ ":" ++ padded 2 (secs % 60)
  else base

/-- ISO text of a time of day: microseconds when there are any, then the offset. -/
def TimeOfDay.iso (t : TimeOfDay) : String :=
  padded 2 t.hour ++ ":" ++ padded 2 t.minute ++ ":" ++ padded 2 t.second ++
    (if t.micro = 0 then "" else "." ++ padded 6 t.micro) ++
    (t.offset.map offsetIso).getD ""

/-- The same clock reading without an offset. -/
def TimeOfDay.naive (t : TimeOfDay) : TimeOfDay := ⟨t.hour, t.minute, t.second, t.micro, none⟩

/-- ISO text of a date and time with a separator. -/
def DateTime.iso (dt : DateTime) (sep : String) : String := dt.date.iso ++ sep ++ dt.time.iso

/-- The UTC date and time `seconds` and `micro` microseconds after the epoch. -/
def DateTime.ofEpoch (seconds : Int) (micro : Nat) : DateTime :=
  let days := seconds / 86400
  let rest := (seconds % 86400).toNat
  ⟨Date.ofEpochDays days, ⟨rest / 3600, rest / 60 % 60, rest % 60, micro, some 0⟩⟩

end SqlMapper.Calendar
