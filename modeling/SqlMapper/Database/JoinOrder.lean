import SqlMapper.Database.AccessPath

/-!
# The order of the loops

A select reads its sources in nested loops, one loop per source. The planner
builds the nest outward in: it extends the best few partial nests by every
loop whose sources are already read, and keeps the cheapest by estimated cost,
the rows they give, and a small bias toward nests whose rows already come in
the wanted order. A nest whose rows come out of order pays for a sort of its
rows.

Whether rows come in order is read loop by loop: a loop keeps the order of
the loops outside it when each of their rows gives it distinct values of the
ordering terms, and a loop gives rows in the order of its index's key, or
the reverse, one term after the other, skipping the columns it holds equal.
A term whose column is held equal to a value known before the loop orders
nothing and is met at once.

The result is a scan plan: the sources in the order of the loops, each read
in the order of its row numbers or of an index's key, forward or backward.
-/

namespace SqlMapper.Database

/-- A term the rows are wanted in the order of, as the planner reads it. -/
structure SortTerm where
  /-- The column of a source the term is, when it is one. -/
  column : Option (Nat × Slot)
  /-- The sources it reads. -/
  reads : Nat
  constant : Bool
  collation : Collation
  descending : Bool := false
  /-- Whether it puts `NULL` on the side its direction does not. -/
  nullsAside : Bool := false
  deriving Inhabited

/-- How an order is checked: for a `GROUP BY`, where the direction does not
matter; for a `DISTINCT`, where any term may come next; or only for the
innermost loop, where a column held to a set of values is held equal. -/
structure OrderCheck where
  grouping : Bool := false
  distinct : Bool := false
  innerOnly : Bool := false

/-- The bit of a place in a mask. -/
def bitAt (i : Nat) : Nat := 1 <<< i

/-- Whether a mask has the bit of a place. -/
def hasBit (m i : Nat) : Bool := m &&& bitAt i != 0

namespace LoopInput

/-- The clause that holds a column of a source to a value known from the
sources read: one needing none of them and saying `=` or `IS` first, else
the first found. -/
def equalityFor (li : LoopInput) (src : Nat) (slot : Slot) (ready : Nat) (accept : Bound → Bool) :
    Option Nat :=
  let found := (scanClauses li.clauses src slot accept none).filter fun k => maskCovers ready (li.clause k).others
  (found.find? fun k =>
    let c := li.clause k
    c.others == 0 && (c.bound.map Bound.isEquality).getD false) <|> found.head?

/-- How many of the leading ordering terms a nest of loops with one more loop
gives in order, with the loops it reads backward: all of them, or how many
lead when the order is lost for good, or -1 when later loops may still keep
it. -/
def satisfies (li : LoopInput) (terms : List SortTerm) (chk : OrderCheck) (path : List Loop) (last : Loop) :
    Int × Nat := Id.run do
  let n := terms.length
  if n > 63 then return (0, 0)
  let done := bitAt n - 1
  let loops := path ++ [last]
  let held := fun (b : Bound) => b.isEquality || b == .isNull || (chk.innerOnly && b.isMembership)
  let mut met : Nat := 0
  let mut distinctRows := true
  let mut distinctMask : Nat := 0
  let mut ready : Nat := 0
  let mut rev : Nat := 0
  let mut prev : Option Loop := none
  for (l, iLoop) in loops.zipIdx do
    if !(distinctRows && met < done) then break
    if let some p := prev then ready := ready ||| sourceBit p.source
    prev := some l
    if iLoop < path.length && chk.innerOnly then continue
    let src := l.source
    let t := (li.shape src).info
    for (o, i) in terms.zipIdx do
      if hasBit met i then continue
      match o.column with
      | some (s, slot) =>
        if s != src then continue
        match li.equalityFor src slot ready held with
        | none => continue
        | some k =>
          let c := li.clause k
          let b := c.bound.getD .eq
          if b.isMembership && !l.clauses.contains k then continue
          if b.isEquality && slot != .rowid && o.collation != c.comparer.collation then continue
          met := met ||| bitAt i
      | none => continue
    if !l.oneRow then
      let (keys, keyCount) : List (Slot × Bool × Collation) × Nat := match l.access with
        | .table => ([(.rowid, false, .binary)], 0)
        | .index s =>
          (s.keys.map (fun (k, coll, desc) => (if t.rowidColumn == some k then .rowid else .column k, desc, coll)) ++
            [(.rowid, false, .binary)], s.keys.length)
        | .automatic => ([], 0)
      if l.automatic then return (0, rev)
      if let .index s := l.access then distinctRows := s.unique
      let mut revSet := false
      let mut backward := false
      let mut distinctColumns := false
      for ((slot, revIdx, coll), j) in keys.zipIdx do
        if j < l.eqCount then
          let b := ((l.clauses[j]?.map li.clause).bind (·.bound)).getD .eq
          if held b then
            if b == .isNull || b == .is then distinctRows := false
            continue
        if distinctRows then
          match slot with
          | .column k => if j ≥ l.eqCount && (t.column k).notNull.isNone then distinctRows := false
          | .rowid => pure ()
        let mut found : Option (Nat × SortTerm) := none
        let mut once := true
        for (o, i) in terms.zipIdx do
          if !once then break
          if hasBit met i then continue
          if !(chk.grouping || chk.distinct) then once := false
          if o.column != some (src, slot) then continue
          if slot != .rowid && o.collation != coll then continue
          found := some (i, o)
          break
        let mut matched := found
        if let some (_, o) := found then
          if !chk.grouping then
            if revSet then
              if (backward != revIdx) != o.descending then matched := none
            else
              backward := revIdx != o.descending
              if backward then rev := rev ||| bitAt iLoop
              revSet := true
        if let some (_, o) := matched then
          if o.nullsAside && j != l.eqCount then matched := none
        match matched with
        | some (i, _) =>
          if slot == .rowid then distinctColumns := true
          met := met ||| bitAt i
        | none =>
          if j == 0 || j < keyCount then distinctRows := false
          break
      if distinctColumns then distinctRows := true
    if distinctRows then
      distinctMask := distinctMask ||| sourceBit src
      for (o, i) in terms.zipIdx do
        if hasBit met i then continue
        if o.reads == 0 && !o.constant then continue
        if maskCovers distinctMask o.reads then met := met ||| bitAt i
  if met == done then return (n, rev)
  if !distinctRows then
    for i in (List.range n).reverse do
      if i == 0 then break
      let m := bitAt i - 1
      if met &&& m == m then return (i, rev)
    return (0, rev)
  return (-1, rev)

end LoopInput

/-- What choosing a nest of loops reads besides the loops: the ordering terms
and how they are checked, how many result columns a sort carries, the
estimate of the `LIMIT` when a constant one caps the rows, and whether the
select keeps its rows distinct. -/
structure NestInput where
  input : LoopInput
  loops : Array Loop
  terms : List SortTerm
  check : OrderCheck
  resultCount : Nat
  limit : Option Int
  distinct : Bool

/-- A partial nest of loops: the sources it reads, those it reads backward by
place, its rows, cost and cost without sorting, how many ordering terms it
gives in order (-1 when still open), and its loops, outermost first. -/
structure Nest where
  mask : Nat := 0
  rev : Nat := 0
  rows : Int := 0
  cost : Int := 0
  unsorted : Int := 0
  ordered : Int := 0
  loops : List Loop := []
  deriving Inhabited

namespace NestInput

/-- The cost of sorting rows of an estimate when some leading terms already come in order. -/
def sortCost (ni : NestInput) (rowEst : Int) (count sorted : Nat) : Int :=
  let cost := rowEst + logEst ((ni.resultCount + 59) / 30)
  let cost := if sorted > 0 then cost + logEst ((count - sorted) * 100 / count) - 66 else cost
  let (cost, rows) := match ni.limit with
    | some lim => (cost + 10 + (if sorted != 0 then 6 else 0), min lim rowEst)
    | none => (cost, if ni.distinct && rowEst > 10 then rowEst - 10 else rowEst)
  cost + estLog rows

/-- Extends the kept nests by one loop each way, keeping the best few. -/
def extend (ni : NestInput) (rowEst : Int) (count keep : Nat) (nests : List Nest) : List Nest := Id.run do
  let mut next : Array Nest := #[]
  let mut worst := 0
  let mut worstCost : Int := 0
  let mut worstUnsorted : Int := 0
  for from_ in nests do
    for l in ni.loops do
      if !maskCovers from_.mask l.prereq then continue
      if from_.mask &&& sourceBit l.source != 0 then continue
      if l.automatic && from_.rows < 3 then continue
      let unsorted := logEstAdd (logEstAdd l.setup (l.run + from_.rows)) from_.unsorted
      let rows := from_.rows + l.rows
      let mask := from_.mask ||| sourceBit l.source
      let (ordered, rev) := if from_.ordered < 0 then ni.input.satisfies ni.terms ni.check from_.loops l
        else (from_.ordered, from_.rev)
      let (cost, unsorted) := if 0 ≤ ordered && ordered < count then
          (logEstAdd unsorted (ni.sortCost rowEst count ordered.toNat) + 3, unsorted)
        else (unsorted, unsorted - 2)
      let nest : Nest := { mask, rev, rows, cost, unsorted, ordered, loops := from_.loops ++ [l] }
      match next.findIdx? (fun p => p.mask == mask && (p.ordered < 0) == (ordered < 0)) with
      | none =>
        if next.size ≥ keep && (cost > worstCost || (cost == worstCost && unsorted ≥ worstUnsorted)) then continue
        next := if next.size < keep then next.push nest else next.setIfInBounds worst nest
      | some jj =>
        let p := next[jj]?.getD default
        if p.cost < cost || (p.cost == cost && (p.rows < rows || (p.rows == rows && p.unsorted ≤ unsorted))) then
          continue
        next := next.setIfInBounds jj nest
      if next.size ≥ keep then
        worst := 0
        worstCost := (next[0]?.getD default).cost
        worstUnsorted := (next[0]?.getD default).rows
        for jj in [1:keep] do
          let p := next[jj]?.getD default
          if p.cost > worstCost || (p.cost == worstCost && p.unsorted > worstUnsorted) then
            worstCost := p.cost
            worstUnsorted := p.unsorted
            worst := jj
  return next.toList

/-- The cheapest full nest, built with a sort's rows estimated as given (no
ordering is weighed when the estimate is 0). -/
def solve (ni : NestInput) (sources : Nat) (rowEst : Int) : Option Nest :=
  let count := if rowEst == 0 then 0 else ni.terms.length
  let keep := if sources ≤ 1 then 1 else if sources == 2 then 5 else 10
  let start : Nest := { ordered := if count > 0 then -1 else 0 }
  let nests := (List.range sources).foldl (fun nests _ => ni.extend rowEst count keep nests) [start]
  nests.foldl (fun best n => match best with
    | some b => if b.cost > n.cost then some n else best
    | none => some n) none

end NestInput

/-- How a scan reads a source's rows: in the order of their row numbers, or
of an index's key, each column with its collation and direction. -/
inductive RowOrder where
  | stored
  | byKey (keys : List (Slot × Collation × Bool))
  deriving Inhabited

/-- One loop of a scan plan: the source, the order it reads the rows in, and
whether it reads them backward. -/
structure ScanStep where
  source : Nat
  order : RowOrder
  backward : Bool
  deriving Inhabited

/-- A scan plan: the loops, outermost first, and whether the rows come
grouped by the `GROUP BY` terms. -/
structure ScanPlan where
  steps : List ScanStep
  grouped : Bool
  deriving Inhabited

/-- The order a loop reads its source's rows in. -/
def Loop.rowOrder (t : TableDef) (l : Loop) : RowOrder :=
  match l.access with
  | .index s => .byKey (s.keys.map fun (k, coll, desc) =>
      (if t.rowidColumn == some k then .rowid else .column k, coll, desc))
  | _ => .stored

namespace NestInput

/-- The scan plan of the cheapest nest, with the loops read backward as the
ordering asks; `sortedGroups` asks the `GROUP BY` terms, in the directions of
the `ORDER BY`, to decide the directions once they give the order. -/
def plan (ni : NestInput) (sources : Nat) (sortedGroups : Bool) : Option ScanPlan := do
  let first ← ni.solve sources 0
  let best ← if ni.terms.isEmpty then pure first else ni.solve sources (first.rows + 1)
  let count := ni.terms.length
  let met : Int := if count == 0 then 0 else best.ordered
  let lastAndRest := (best.loops.getLast?, best.loops.dropLast)
  let rev :=
    if count == 0 || ni.check.distinct then 0
    else
      let rev := best.rev
      let rev := if met ≤ 0 then
          match lastAndRest with
          | (some l, rest) =>
            if l.oneRow || (l.byRowid && l.member) then rev
            else
              let (r, m) := ni.input.satisfies ni.terms { innerOnly := true } rest l
              if r == count then m else rev
          | (none, _) => rev
        else rev
      if sortedGroups && met == count then
        match lastAndRest with
        | (some l, rest) =>
          let (r, m) := ni.input.satisfies ni.terms {} rest l
          if r == count then m else rev
        | (none, _) => rev
      else rev
  let steps := best.loops.zipIdx.map fun (l, i) =>
    { source := l.source, order := l.rowOrder (ni.input.shape l.source).info, backward := hasBit rev i }
  pure { steps, grouped := ni.check.grouping && count > 0 && met == count }

end NestInput

end SqlMapper.Database
