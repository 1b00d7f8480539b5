import SqlMapper.Calendar.Iso

/-!
# Reading calendar values leniently

How validation reads calendar values from text and numbers. A date is
`YYYY-MM-DD`; a time is `HH:MM` with optional seconds, a fraction after `.`
or `,` cut to microseconds, and `Z` or a signed `HH:MM` or `HHMM` offset. A
date and time are joined by `T`, `t`, `_` or a blank, and a date alone is
midnight. A number, for a date and time, is a Unix timestamp in seconds, or in
milliseconds beyond `2·10^10`, and gives an aware UTC time.
-/

namespace SqlMapper.Calendar

/-- Reads `HH:MM[:SS[.fff]]`, giving hour, minute, second and microseconds. -/
def readLooseClock (cs : List Char) : Option ((Nat × Nat × Nat × Nat) × List Char) := do
  let (h, r1) ← readFixed 2 cs
  let r1 ← match r1 with
    | ':' :: r => some r
    | _ => none
  let (m, r2) ← readFixed 2 r1
  match r2 with
  | ':' :: r2' =>
    let (s, r3) ← readFixed 2 r2'
    match r3 with
    | '.' :: r3' | ',' :: r3' =>
      let (us, r4) ← readFraction r3'
      some ((h, m, s, us), r4)
    | _ => some ((h, m, s, 0), r3)
  | _ => some ((h, m, 0, 0), r2)

/-- Reads an offset to its end: nothing, `Z`, or a sign, hours and minutes with an optional colon. -/
def readLooseOffset (cs : List Char) : Option (Option Int) :=
  match cs with
  | [] => some none
  | ['Z'] | ['z'] => some (some 0)
  | s :: rest =>
    if s == '+' || s == '-' then do
      let (h, r1) ← readFixed 2 rest
      let r1 := match r1 with
        | ':' :: r => r
        | r => r
      let (m, r2) ← readFixed 2 r1
      if !r2.isEmpty || h ≥ 24 || m ≥ 60 then none else
      let total : Int := ((h * 60 + m) * 60 * 1000000 : Nat)
      some (some (if s == '-' then -total else total))
    else none

/-- Reads a whole time of day with its optional offset. -/
def readLooseTime (cs : List Char) : Option TimeOfDay := do
  let ((h, m, s, us), r) ← readLooseClock cs
  let off ← readLooseOffset r
  let t : TimeOfDay := ⟨h, m, s, us, off⟩
  if t.isValid then some t else none

/-- A number written as text: an optional sign, digits, and an optional fraction,
as seconds and microseconds. -/
def readTimestamp (cs : List Char) : Option (Int × Nat) :=
  let (neg, body) := match cs with
    | '-' :: r => (true, r)
    | '+' :: r => (false, r)
    | r => (false, r)
  let whole := body.takeWhile Char.isDigit
  let rest := body.dropWhile Char.isDigit
  if whole.isEmpty then none else
  let frac := match rest with
    | '.' :: ds => if ds.all Char.isDigit then some ds else none
    | [] => some []
    | _ => none
  frac.map fun ds =>
    let secs : Int := whole.foldl (fun n c => n * 10 + (c.toNat - 48)) 0
    let micro := ((ds.take 6) ++ List.replicate (6 - min 6 ds.length) '0').foldl
      (fun n c => n * 10 + (c.toNat - 48)) 0
    if neg then (if micro = 0 then (-secs, 0) else (-secs - 1, 1000000 - micro)) else (secs, micro)

/-- The UTC date and time of a timestamp, in milliseconds when its size says so. -/
def DateTime.ofTimestamp (secs : Int) (micro : Nat) : DateTime :=
  if secs.natAbs > 20000000000 then
    let total : Int := secs * 1000000 + micro
    let us := total / 1000
    DateTime.ofEpoch (us / 1000000) (us % 1000000).toNat
  else DateTime.ofEpoch secs micro

/-- A date and time from lenient text. -/
def DateTime.loose? (s : String) : Option DateTime :=
  let cs := s.toList
  match readTimestamp cs with
  | some (secs, micro) => some (DateTime.ofTimestamp secs micro)
  | none =>
    match readDateText cs with
    | some (d, []) => some ⟨d, ⟨0, 0, 0, 0, none⟩⟩
    | some (d, sep :: rest) =>
      if sep == 'T' || sep == 't' || sep == ' ' || sep == '_' then
        (readLooseTime rest).map fun t => ⟨d, t⟩
      else none
    | none => none

/-- Whether a time of day is midnight exactly. -/
def TimeOfDay.isMidnight (t : TimeOfDay) : Bool := t.hour == 0 && t.minute == 0 && t.second == 0 && t.micro == 0

/-- A date from lenient text: a date, or a date and time at midnight. -/
def Date.loose? (s : String) : Option Date :=
  match readDateText s.toList with
  | some (d, []) => some d
  | _ =>
    match DateTime.loose? s with
    | some dt => if dt.time.isMidnight then some dt.date else none
    | none => none

/-- A time of day from lenient text. -/
def TimeOfDay.loose? (s : String) : Option TimeOfDay := readLooseTime s.toList

end SqlMapper.Calendar
