import SqlMapper.Database.FrameWalk
import SqlMapper.Database.Running

/-!
# Window functions

A window function gives each row a value computed from the rows of its
partition: the rows with the same partition keys, in the order of the
window's ordering terms. Rows whose ordering keys are equal are peers, and
the peers of a row form its peer group.

Ranking functions read the row's place: `row_number` counts rows, `rank`
the rows before its peer group, `dense_rank` the peer groups, and
`percent_rank`, `cume_dist` and `ntile` scale those to the partition's size.
`lag` and `lead` read a row a given distance before or after it.

The other functions read the row's frame. A frame runs from a start to a
finish, counted in rows, in peer groups, or (`RANGE`) by the value of the
one ordering key; the default runs from the partition's first row to the
row's last peer. `EXCLUDE` leaves out the row, its peer group, or its peers
only. `first_value`, `last_value` and `nth_value` read the frame's rows by
position, and an aggregate folds the frame's rows its filter takes.
-/

namespace SqlMapper.Database

/-- A row as a window pass sees it: its partition keys, its ordering keys,
and for each function of the pass its arguments (each with whether it is
JSON text) and whether its filter takes the row. -/
structure WindowRow where
  partition : List Datum
  order : List Datum
  args : List (List (Datum × Bool))
  taken : List Bool
  deriving Inhabited

/-- A function of a window pass: its name and the collation its comparisons use. -/
structure WindowCall where
  name : String
  collation : Collation
  deriving Inhabited

/-- The first and last row of a frame of a partition of `n` rows, for the
row at `i`; an empty frame when the first is past the last. -/
def frameBounds (specs : List OrderSpec) (frame : FrameValue) (rows : Array WindowRow) (peers : Peers)
    (i : Nat) : Except Fault (Int × Int) := do
  let n := rows.size
  let g := peers.groupOf[i]?.getD 0
  let groups := peers.firsts.size
  let firstOf := fun (k : Int) => (peers.firsts[k.toNat]?.getD n : Int)
  let lastOf := fun (k : Int) => (peers.lasts[k.toNat]?.getD n : Int)
  let key : Option Datum := (rows[i]?.bind (·.order.head?))
  let descending := (specs.head?.map (·.descending)).getD false
  -- rows whose key lies within a bound of the row's key, by value
  let within := fun (lo : Bool) (bound : Float) =>
    (List.range n).filter fun j =>
      match (rows[j]?.bind (·.order.head?)) with
      | some v =>
        if v.isNull || !v.isNumber then false
        else if lo then v.toReal ≥ bound else v.toReal ≤ bound
      | none => false
  let numericKey := match key with
    | some v => !v.isNull && v.isNumber
    | none => false
  let v := (key.map Datum.toReal).getD 0.0
  let lo : Int ← match frame.start with
    | .unboundedPreceding => pure 0
    | .currentRow => pure (if frame.unit == .rows then i else firstOf g)
    | .preceding d => match frame.unit with
      | .rows => do pure ((i : Int) - (← countOffset true d))
      | .groups => do
        let k ← countOffset true d
        pure (firstOf (max 0 ((g : Int) - k)))
      | .range => do
        let k ← rangeOffset true d
        if !numericKey then pure (firstOf g)
        else
          let js := within (!descending) (if descending then v + k else v - k)
          pure ((js.head?.map (Int.ofNat ·)).getD n)
    | .following d => match frame.unit with
      | .rows => do pure ((i : Int) + (← countOffset true d))
      | .groups => do
        let k ← countOffset true d
        pure (if (g : Int) + k ≥ groups then n else firstOf ((g : Int) + k))
      | .range => do
        let k ← rangeOffset true d
        if !numericKey then pure (firstOf g)
        else
          let js := within (!descending) (if descending then v - k else v + k)
          pure ((js.head?.map (Int.ofNat ·)).getD n)
    | .unboundedFollowing => pure n
  let hi : Int ← match frame.finish with
    | .unboundedFollowing => pure ((n : Int) - 1)
    | .currentRow => pure (if frame.unit == .rows then i else lastOf g)
    | .following d => match frame.unit with
      | .rows => do pure ((i : Int) + (← countOffset false d))
      | .groups => do
        let k ← countOffset false d
        pure (lastOf (min ((groups : Int) - 1) ((g : Int) + k)))
      | .range => do
        let k ← rangeOffset false d
        if !numericKey then pure (lastOf g)
        else
          let js := within descending (if descending then v - k else v + k)
          pure ((js.getLast?.map (Int.ofNat ·)).getD (-1))
    | .preceding d => match frame.unit with
      | .rows => do pure ((i : Int) - (← countOffset false d))
      | .groups => do
        let k ← countOffset false d
        pure (if (g : Int) - k < 0 then -1 else lastOf ((g : Int) - k))
      | .range => do
        let k ← rangeOffset false d
        if !numericKey then pure (lastOf g)
        else
          let js := within descending (if descending then v + k else v - k)
          pure ((js.getLast?.map (Int.ofNat ·)).getD (-1))
    | .unboundedPreceding => pure (-1)
  pure (max lo 0, min hi ((n : Int) - 1))

/-- The rows of a frame for the row at `i`, with the rows its exclusion leaves out taken away. -/
def frameRows (specs : List OrderSpec) (frame : FrameValue) (rows : Array WindowRow) (peers : Peers)
    (i : Nat) : Except Fault (List Nat) := do
  let (lo, hi) ← frameBounds specs frame rows peers i
  let all := if lo > hi then [] else (List.range (hi - lo + 1).toNat).map (· + lo.toNat)
  let g := peers.groupOf[i]?
  pure (match frame.exclude with
    | .unstated | .noOthers => all
    | .currentRow => all.filter (· != i)
    | .group => all.filter fun j => peers.groupOf[j]? != g
    | .ties => all.filter fun j => j == i || peers.groupOf[j]? != g)

/-- The arguments of a function at a row. -/
def WindowRow.argsOf (r : WindowRow) (k : Nat) : List (Datum × Bool) := r.args[k]?.getD []

/-- An argument of a function at a row. -/
def WindowRow.arg (r : WindowRow) (k j : Nat) : Datum := ((r.argsOf k)[j]?.map (·.1)).getD .null

/-- The value of the function at position `k` of a pass, for the row at `i` of a partition. -/
def windowValue (specs : List OrderSpec) (frame : FrameValue) (rows : Array WindowRow) (peers : Peers)
    (call : WindowCall) (k i : Nat) : Except Fault Datum := do
  let n := rows.size
  let row := rows[i]?.getD default
  let g := peers.groupOf[i]?.getD 0
  let first := peers.firsts[g]?.getD i
  let last := peers.lasts[g]?.getD i
  match call.name with
  | "row_number" => pure (.integer (i + 1))
  | "rank" => pure (.integer (first + 1))
  | "dense_rank" => pure (.integer (g + 1))
  | "percent_rank" =>
    pure (.real (if n ≤ 1 then 0.0 else integerFloat first / integerFloat (n - 1)))
  | "cume_dist" => pure (.real (integerFloat (last + 1) / integerFloat n))
  | "ntile" =>
    let parts := (row.arg k 0).toInteger
    if parts ≤ 0 then throw (operational "argument of ntile must be a positive integer")
    let size := (n : Int) / parts
    let large := (n : Int) - parts * size
    let small := large * (size + 1)
    let iRow : Int := i
    pure (.integer (if size == 0 then iRow + 1
      else if iRow < small then iRow / (size + 1) + 1
      else large + (iRow - small) / size + 1))
  | "lag" | "lead" =>
    let args := row.argsOf k
    let fallback := (args[2]?.map (·.1)).getD .null
    let distance : Option Int := if args.length < 2 then some 1 else
      match args[1]? with
      | some (d, _) => integerValue? d
      | none => some 1
    match distance with
    | none => pure fallback
    | some dist =>
      let j : Int := if call.name == "lag" then (i : Int) - dist else (i : Int) + dist
      if j < 0 || j ≥ n then pure fallback
      else pure ((rows[j.toNat]?.map (·.arg k 0)).getD .null)
  | "first_value" => do
    let fr ← frameRows specs frame rows peers i
    pure ((fr.head?.bind fun j => rows[j]?.map (·.arg k 0)).getD .null)
  | "last_value" => do
    let fr ← frameRows specs frame rows peers i
    pure ((fr.getLast?.bind fun j => rows[j]?.map (·.arg k 0)).getD .null)
  | "nth_value" => do
    let nth := (integerValue? (row.arg k 1)).getD 0
    if nth ≤ 0 then throw (operational "second argument to nth_value must be a positive integer")
    let fr ← frameRows specs frame rows peers i
    pure ((fr[nth.toNat - 1]?.bind fun j => rows[j]?.map (·.arg k 0)).getD .null)
  | name => do
    let fr ← frameRows specs frame rows peers i
    let t ← fr.foldlM (fun (t : Tally) j => do
      let r := rows[j]?.getD default
      if (r.taken[k]?.getD true) then pure (← Tally.step name call.collation t (r.argsOf k)).1
      else pure t) {}
    Tally.finish name t

/-- The walk of a frame through a partition, with the frame's offsets
checked: counts in rows or groups, numbers by value, the start's first. -/
def frameWalk (specs : List OrderSpec) (frame : FrameValue) (rows : Array WindowRow) (peers : Peers) :
    Except Fault FrameWalk := do
  let checked := fun (starting : Bool) (e : FrameEdge) => do
    if frame.unit == .range then
      match e with
      | .preceding d => pure (FrameEdge.preceding (← rangeOffsetValue starting d), 0)
      | .following d => pure (FrameEdge.following (← rangeOffsetValue starting d), 0)
      | e => pure (e, 0)
    else
      match e with
      | .preceding d => pure (e, ← countOffset starting d)
      | .following d => pure (e, ← countOffset starting d)
      | e => pure (e, 0)
  let (start, startCount) ← checked true frame.start
  let (finish, finishCount) ← checked false frame.finish
  pure { size := rows.size, peers, keys := rows.map fun r => r.order.head?.getD .null,
         spec := specs.head?.getD {}, unit := frame.unit, start, finish, startCount, finishCount }

/-- The values of an aggregate whose frames slide, for the rows of a
partition: the running state folds the walk's moves, each row taken by
the function's filter entering and leaving it. -/
def slidingValues (call : WindowCall) (k : Nat) (rows : Array WindowRow) (events : List FrameEvent) :
    Except Fault (Array Datum) := do
  let args := fun (j : Nat) => (rows[j]?.map (·.argsOf k)).getD []
  let taken := fun (j : Nat) => (rows[j]?.bind (·.taken[k]?)).getD true
  let (_, values) ← events.foldlM (fun ((s : Running), (vs : Array Datum)) e =>
    match e with
    | .enter j => do
      if taken j then pure (← s.enter call.name (args j), vs) else pure (s, vs)
    | .leave j => pure (if taken j then s.leave call.name (args j) else s, vs)
    | .give j => do pure (s, vs.set! j (← s.value call.name)))
    (({} : Running), Array.replicate rows.size Datum.null)
  pure values

/-- The values of the functions of a pass for the rows of one partition, in
order. Aggregates that keep a running state slide along the frame unless an
`EXCLUDE` clause is given; the others are computed for each row. -/
def partitionValues (calls : List WindowCall) (specs : List OrderSpec) (frame : FrameValue)
    (rows : Array WindowRow) : Except Fault (List (List Datum)) := do
  let peers := Peers.ofKeys specs (rows.map (·.order))
  let sliding := fun (call : WindowCall) => slides call.name && frame.exclude == .unstated
  let events ← if rows.size > 0 && calls.any sliding then do
      pure (← frameWalk specs frame rows peers).events
    else pure []
  let columns ← calls.zipIdx.mapM fun (call, k) => do
    if sliding call then slidingValues call k rows events
    else ((List.range rows.size).mapM fun i => windowValue specs frame rows peers call k i).map List.toArray
  pure ((List.range rows.size).map fun i => columns.map fun col => col[i]?.getD .null)

/-- The values of the functions of a pass for rows already sorted by their
partition and ordering keys: each partition a run of rows with the same
partition keys. -/
def passValues (calls : List WindowCall) (partColls : List Collation) (specs : List OrderSpec)
    (frame : FrameValue) (rows : List WindowRow) : Except Fault (List (List Datum)) := do
  let parts := runs (fun a b => sameRow partColls a.partition b.partition) rows
  let vals ← parts.mapM fun p => partitionValues calls specs frame p.toArray
  pure vals.flatten

end SqlMapper.Database
