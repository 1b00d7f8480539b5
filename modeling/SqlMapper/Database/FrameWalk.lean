import SqlMapper.Database.Operators
import SqlMapper.Database.Sorting

/-!
# Walking a window frame through a partition

An aggregate used as a window function keeps one running state per
partition. Rows enter the state as the frame's end reaches them, leave it as
the frame's start passes them, and each row takes the state's value when
its frame is in place. Three cursors walk the partition for this: one at
the frame's start, one at the row whose value is due, one at the frame's
end. A frame counted in groups or by value moves its cursors a peer group
at a time.

The cursors move as the rows of the partition arrive one by one: each
arrival (of a new peer group, unless the frame counts rows) advances them
as far as the rows seen allow, and when the partition ends the rest is
walked. An offset in rows or groups is a countdown: a cursor waits that many
turns before it starts to move. An offset by value is a test between the
keys under two cursors, the offset added to (or, descending, taken from) a
numeric key. The order of the moves matters to an aggregate whose state
keeps more than its frame's values, as joining text does: a row may leave
before the next one enters, and a frame that starts after its row lets rows
in and out before the first value is due.

`FrameWalk.events` gives the moves in order; the running state folds them.
-/

namespace SqlMapper.Database

/-- One end of a window frame with its offset evaluated. -/
inductive FrameEdge where
  | unboundedPreceding
  | preceding (d : Datum)
  | currentRow
  | following (d : Datum)
  | unboundedFollowing
  deriving Inhabited

/-- Whether a frame end carries an offset. -/
def FrameEdge.hasOffset : FrameEdge → Bool
  | .preceding _ | .following _ => true
  | _ => false

/-- The offset of a frame end, `NULL` for an end without one. -/
def FrameEdge.offset : FrameEdge → Datum
  | .preceding d | .following d => d
  | _ => .null

/-- A window frame with its offsets evaluated. -/
structure FrameValue where
  unit : FrameUnit := .range
  start : FrameEdge := .unboundedPreceding
  finish : FrameEdge := .currentRow
  exclude : FrameExclude := .unstated
  deriving Inhabited

/-- The places of the rows of one partition: for each row its peer group,
and for each peer group its first and last row. -/
structure Peers where
  groupOf : Array Nat
  firsts : Array Nat
  lasts : Array Nat
  deriving Inhabited

/-- The peer groups of rows given their ordering keys, peers being rows whose keys are equal. -/
def Peers.ofKeys (specs : List OrderSpec) (keys : Array (List Datum)) : Peers := Id.run do
  let mut groupOf : Array Nat := #[]
  let mut firsts : Array Nat := #[]
  let mut lasts : Array Nat := #[]
  for i in [0:keys.size] do
    let fresh := i == 0 || compareKeys specs (keys[i - 1]?.getD []) (keys[i]?.getD []) != .eq
    if fresh then
      firsts := firsts.push i
      lasts := lasts.push i
    else
      lasts := lasts.set! (lasts.size - 1) i
    groupOf := groupOf.push (firsts.size - 1)
  pure { groupOf, firsts, lasts }

/-- A value as an integer when it is one after numeric conversion. -/
def integerValue? (d : Datum) : Option Int :=
  match d.withAffinity .numeric with
  | .integer n => some n
  | _ => none

/-- The offset of a frame end counted in rows or groups: a non-negative integer. -/
def countOffset (starting : Bool) (d : Datum) : Except Fault Nat :=
  match integerValue? d with
  | some n => if n ≥ 0 then pure n.toNat else throw (offsetFault starting)
  | none => throw (offsetFault starting)
where
  offsetFault (starting : Bool) : Fault :=
    operational ("frame " ++ (if starting then "starting" else "ending") ++ " offset must be a non-negative integer")

/-- The offset of a frame end counted by value: a non-negative number, as a number. -/
def rangeOffsetValue (starting : Bool) (d : Datum) : Except Fault Datum :=
  let fault := operational ("frame " ++ (if starting then "starting" else "ending") ++
    " offset must be a non-negative number")
  match d.withAffinity .numeric with
  | .integer n => if n ≥ 0 then pure (.integer n) else throw fault
  | .real x => if x ≥ 0.0 then pure (.real x) else throw fault
  | _ => throw fault

/-- The offset of a frame end counted by value, as a double. -/
def rangeOffset (starting : Bool) (d : Datum) : Except Fault Float := do
  pure (← rangeOffsetValue starting d).toReal

/-- What the walk does with a row: lets it into the running state, lets it
out, or gives it the state's value. -/
inductive FrameEvent where
  | enter (row : Nat)
  | leave (row : Nat)
  | give (row : Nat)
  deriving Inhabited, DecidableEq

/-- The tests of a frame counted by value between two keys. -/
inductive KeyTest where
  | atLeast | above | atMost | below
  deriving Inhabited, DecidableEq

/-- The test that holds of the keys taken the other way round, as a descending order reads them. -/
def KeyTest.mirror : KeyTest → KeyTest
  | .atLeast => .atMost
  | .above => .below
  | .atMost => .atLeast
  | .below => .above

/-- Whether a test holds of an ordering. -/
def KeyTest.holds (t : KeyTest) (o : Ordering) : Bool :=
  match t with
  | .atLeast => o != .lt
  | .above => o == .gt
  | .atMost => o != .gt
  | .below => o == .lt

/-- A partition as the walk sees it, with the frame's shape: the offsets
are counts for a frame in rows or groups and numbers for one by value. -/
structure FrameWalk where
  size : Nat
  peers : Peers
  /-- The first ordering key of each row. -/
  keys : Array Datum
  /-- The first ordering term. -/
  spec : OrderSpec
  unit : FrameUnit
  start : FrameEdge
  finish : FrameEdge
  startCount : Nat := 0
  finishCount : Nat := 0
  deriving Inhabited

/-- The cursors of a walk, the countdowns left, and the moves made so far. -/
structure FrameCursors where
  start : Nat := 0
  current : Nat := 0
  finish : Nat := 0
  startWait : Nat := 0
  finishWait : Nat := 0
  events : Array FrameEvent := #[]
  deriving Inhabited

/-- Which countdown a move waits on. -/
inductive Countdown where
  | none | start | finish
  deriving Inhabited, DecidableEq

namespace FrameWalk

/-- The row after the unit that starts at a row: the next row, or past its peer group. -/
def unitEnd (w : FrameWalk) (c : Nat) : Nat :=
  if w.unit == .rows then c + 1
  else
    let g := w.peers.groupOf[c]?.getD 0
    (w.peers.lasts[g]?.getD c) + 1

/-- The rows of the unit that starts at a row. -/
def unitRows (w : FrameWalk) (c : Nat) : List Nat :=
  (List.range (w.unitEnd c - c)).map (c + ·)

/-- The key under a cursor, `NULL` past the last row. -/
def keyAt (w : FrameWalk) (c : Nat) : Datum := w.keys[c]?.getD .null

/-- Compares two keys as the walk's tests do: `NULL` equals `NULL` and is
below any other value; others compare under the ordering's collation. -/
def compareKeys (w : FrameWalk) (a b : Datum) : Ordering :=
  match a.isNull, b.isNull with
  | true, true => .eq
  | true, false => .lt
  | false, true => .gt
  | false, false => a.compareWith w.spec.collation b

/-- Whether the key under cursor `c1`, moved by an offset, passes a test
against the key under `c2`. A descending order subtracts the offset and
reads the test the other way round; text and blobs do not move. When the
ordering puts `NULL` on the side opposite its usual one, `NULL` counts as
the greatest key. -/
def keyTest (w : FrameWalk) (test : KeyTest) (c1 : Nat) (offset : Datum) (c2 : Nat) : Bool :=
  let descending := w.spec.descending
  let test := if descending then test.mirror else test
  let bigNull := w.spec.nullsFirst == descending
  let k1 := w.keyAt c1
  let k2 := w.keyAt c2
  if bigNull && (k1.isNull || k2.isNull) then
    if k1.isNull then
      match test with
      | .atLeast => true
      | .above => !k2.isNull
      | .atMost => k2.isNull
      | .below => false
    else test == .atMost || test == .below
  else
    let fixed := match k1 with
      | .text _ | .blob _ => true
      | _ => false
    let early := !fixed && !k1.isNull && !k2.isNull &&
      ((test == .atLeast && !descending) || (test == .atMost && descending)) &&
      test.holds (k1.compare k2)
    if early then true
    else
      let moved := if fixed || k1.isNull then k1
        else if offset.isNull then .null
        else arithmetic (if descending then .sub else .add) k1 offset
      test.holds (w.compareKeys moved k2)

/-- Whether both ends of the frame are offsets on the same side, counted by value. -/
def sameSidedRange (w : FrameWalk) : Bool :=
  w.unit == .range &&
    (match w.start, w.finish with
     | .preceding _, .preceding _ | .following _, .following _ => true
     | _, _ => false)

/-- Lets the unit at the end cursor in. -/
def enterUnit (w : FrameWalk) (m : FrameCursors) : FrameCursors :=
  if m.finish < w.size then
    { m with finish := w.unitEnd m.finish, events := m.events ++ ((w.unitRows m.finish).map .enter).toArray }
  else m

/-- Lets the unit at the start cursor out. -/
def leaveUnit (w : FrameWalk) (m : FrameCursors) : FrameCursors :=
  if m.start < w.size then
    { m with start := w.unitEnd m.start, events := m.events ++ ((w.unitRows m.start).map .leave).toArray }
  else m

/-- Gives the unit at the current cursor its value. -/
def giveUnit (w : FrameWalk) (m : FrameCursors) : FrameCursors :=
  if m.current < w.size then
    { m with current := w.unitEnd m.current, events := m.events ++ ((w.unitRows m.current).map .give).toArray }
  else m

/-- Lets units in at the end cursor: one, or (waiting on the end's offset)
one after its countdown, or, by value, as many as lie within the offset of
the current row. `arrived` is the row that has just arrived, which the end
may not reach when both ends are offsets on one side. The flag says that
the end cursor ran past the last row, when asked to watch for it. -/
def enterMove (w : FrameWalk) (wait : Bool) (arrived : Option Nat) (watchEnd : Bool) (m : FrameCursors) :
    FrameCursors × Bool :=
  if !wait then
    let m := w.enterUnit m
    (m, watchEnd && m.finish ≥ w.size)
  else if w.unit != .range then
    if m.finishWait > 0 then ({ m with finishWait := m.finishWait - 1 }, false)
    else
      let m := w.enterUnit m
      (m, watchEnd && m.finish ≥ w.size)
  else loop (w.size + 1) m
where
  loop : Nat → FrameCursors → FrameCursors × Bool
    | 0, m => (m, false)
    | fuel + 1, m =>
      if w.keyTest .above m.finish w.finish.offset m.current then (m, false)
      else if w.sameSidedRange && (match arrived with
          | some r => m.finish ≥ r
          | none => false) then (m, false)
      else if m.finish ≥ w.size then (m, watchEnd)
      else
        let m := w.enterUnit m
        if m.finish ≥ w.size then (m, watchEnd) else loop fuel m

/-- Lets units out at the start cursor: none when the frame starts at the
partition's first row; else one, or one after its countdown, or, by value,
as many as lie before the frame of the current row. -/
def leaveMove (w : FrameWalk) (wait : Bool) (watchEnd : Bool) (m : FrameCursors) : FrameCursors × Bool :=
  match w.start with
  | .unboundedPreceding => (m, false)
  | _ =>
    if !wait then
      let m := w.leaveUnit m
      (m, watchEnd && m.start ≥ w.size)
    else if w.unit != .range then
      if m.startWait > 0 then ({ m with startWait := m.startWait - 1 }, false)
      else
        let m := w.leaveUnit m
        (m, watchEnd && m.start ≥ w.size)
    else loop (w.size + 1) m
where
  loop : Nat → FrameCursors → FrameCursors × Bool
    | 0, m => (m, false)
    | fuel + 1, m =>
      let done := match w.start with
        | .following d => w.keyTest .atMost m.current d m.start
        | s => w.keyTest .atLeast m.start s.offset m.current
      if done then (m, false)
      else if w.sameSidedRange && m.start ≥ m.finish then (m, false)
      else if m.start ≥ w.size then (m, watchEnd)
      else
        let m := w.leaveUnit m
        if m.start ≥ w.size then (m, watchEnd) else loop fuel m

/-- Gives the unit at the current cursor its value, unless a countdown still waits. -/
def giveMove (w : FrameWalk) (wait : Countdown) (watchEnd : Bool) (m : FrameCursors) : FrameCursors × Bool :=
  match wait with
  | .finish =>
    if m.finishWait > 0 then ({ m with finishWait := m.finishWait - 1 }, false) else once m
  | .start =>
    if m.startWait > 0 then ({ m with startWait := m.startWait - 1 }, false) else once m
  | .none => once m
where
  once (m : FrameCursors) : FrameCursors × Bool :=
    let m := w.giveUnit m
    (m, watchEnd && m.current ≥ w.size)

/-- Gives the values due while the end of the frame of the current row has
been let in: by value, as long as the key of the row at the end cursor lies
past the current row's frame, each value followed by letting out what leaves. -/
def giveWhileReady (w : FrameWalk) (leaveFirst : Bool) : Nat → FrameCursors → FrameCursors
  | 0, m => m
  | fuel + 1, m =>
    if w.keyTest .atLeast m.current w.finish.offset m.finish then m
    else if m.current ≥ w.size then m
    else
      let m := if leaveFirst then
          (w.giveMove .none false (w.leaveMove true false m).1).1
        else (w.leaveMove w.start.hasOffset false (w.giveMove .none false m).1).1
      giveWhileReady w leaveFirst fuel m

/-- Whether the frame starts after its row. -/
def startsAhead (w : FrameWalk) : Bool :=
  match w.start with
  | .following _ => true
  | _ => false

/-- Whether the frame ends before its row. -/
def endsBehind (w : FrameWalk) : Bool :=
  match w.finish with
  | .preceding _ => true
  | _ => false

/-- Whether the frame runs to the partition's last row. -/
def runsToEnd (w : FrameWalk) : Bool :=
  match w.finish with
  | .unboundedFollowing => true
  | _ => false

/-- Whether a frame by value has both ends before its row, so that rows
enter before others leave. -/
def entersFirst (w : FrameWalk) : Bool :=
  w.unit == .range &&
    (match w.start with
     | .preceding _ => true
     | _ => false)

/-- The moves made when a row (of a new peer group, unless the frame counts rows) arrives. -/
def arrive (w : FrameWalk) (r : Nat) (m : FrameCursors) : FrameCursors :=
  if w.startsAhead then
    let (m, _) := w.enterMove false (some r) false m
    if w.runsToEnd then m
    else if w.unit == .range then w.giveWhileReady true (w.size + 1) m
    else
      let (m, _) := w.giveMove .finish false m
      (w.leaveMove true false m).1
  else if w.endsBehind then
    let (m, _) := w.enterMove true (some r) false m
    let m := if w.entersFirst then (w.leaveMove true false m).1 else m
    let (m, _) := w.giveMove .none false m
    if w.entersFirst then m else (w.leaveMove true false m).1
  else
    let (m, _) := w.enterMove false (some r) false m
    if w.runsToEnd then m
    else if w.unit == .range then
      if w.finish.hasOffset then w.giveWhileReady false (w.size + 1) m
      else (w.leaveMove w.start.hasOffset false (w.giveMove .none false m).1).1
    else if w.finish.hasOffset && m.finishWait > 0 then { m with finishWait := m.finishWait - 1 }
    else (w.leaveMove w.start.hasOffset false (w.giveMove .none false m).1).1

/-- Gives the values still due at the end of the partition, each without moves between them. -/
def giveRest : Nat → FrameWalk → FrameCursors → FrameCursors
  | 0, _, m => m
  | fuel + 1, w, m =>
    let (m, ended) := w.giveMove .none true m
    if ended || m.current ≥ w.size then m else giveRest fuel w m

/-- Alternates giving values and letting rows out until the rows run out:
`leaveFirst` lets out before each value, `giveWait` and `leaveWait` are the
countdowns the two moves wait on. When the start runs out first, the
remaining values are given without moves between them. -/
def alternate (w : FrameWalk) (leaveFirst : Bool) (giveWait : Countdown) (leaveWait : Bool) :
    Nat → FrameCursors → FrameCursors
  | 0, m => m
  | fuel + 1, m =>
    -- while both countdowns wait, a turn only runs both down by one
    let m := if !leaveFirst && giveWait == .finish && leaveWait && w.unit != .range then
        let k := min m.finishWait m.startWait
        { m with finishWait := m.finishWait - k, startWait := m.startWait - k }
      else m
    if leaveFirst then
      let (m, out) := w.leaveMove leaveWait true m
      if out then giveRest (w.size + 1) w m
      else
        let (m, ended) := w.giveMove giveWait true m
        if ended then m else alternate w leaveFirst giveWait leaveWait fuel m
    else
      let (m, ended) := w.giveMove giveWait true m
      if ended then m
      else
        let (m, out) := w.leaveMove leaveWait true m
        if out then giveRest (w.size + 1) w m
        else alternate w leaveFirst giveWait leaveWait fuel m

/-- The moves made when the partition ends. -/
def finishPartition (w : FrameWalk) (m : FrameCursors) : FrameCursors :=
  let fuel := 2 * w.size + 4
  if w.endsBehind then
    let (m, _) := w.enterMove true none false m
    let m := if w.entersFirst then (w.leaveMove true false m).1 else m
    (w.giveMove .none false m).1
  else if w.startsAhead then
    let (m, _) := w.enterMove false none false m
    if w.unit == .range then w.alternate true .none true fuel m
    else if w.runsToEnd then w.alternate false .start false fuel m
    else w.alternate false .finish true fuel m
  else
    let (m, _) := w.enterMove false none false m
    loop fuel m
where
  loop : Nat → FrameCursors → FrameCursors
    | 0, m => m
    | fuel + 1, m =>
      let (m, ended) := w.giveMove .none true m
      if ended then m
      else loop fuel (w.leaveMove w.start.hasOffset false m).1

/-- Whether the frame is empty for every row: both ends offsets on one side
of the row, in rows or groups, the end before the start. -/
def alwaysEmpty (w : FrameWalk) : Bool :=
  w.unit != .range &&
    (match w.start, w.finish with
     | .preceding _, .preceding _ => w.finishCount > w.startCount
     | .following _, .following _ => w.finishCount < w.startCount
     | _, _ => false)

/-- The moves of the walk over the partition, in order. -/
def events (w : FrameWalk) : List FrameEvent :=
  if w.size == 0 then []
  else if w.alwaysEmpty then (List.range w.size).map .give
  else
    let startWait := match w.start, w.finish with
      | .following _, .following _ => if w.unit == .range then w.startCount else w.finishCount - w.startCount
      | _, _ => w.startCount
    let m : FrameCursors := { startWait, finishWait := w.finishCount }
    let arrivals := (List.range w.size).drop 1 |>.filter fun r =>
      w.unit == .rows || w.peers.groupOf[r]? != w.peers.groupOf[r - 1]?
    let m := arrivals.foldl (fun m r => w.arrive r m) m
    (w.finishPartition m).events.toList

end FrameWalk

end SqlMapper.Database
