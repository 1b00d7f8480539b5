import SqlMapper.Database.Clause
import SqlMapper.Database.Estimate

/-!
# Ways to read a source

A table can be read whole by row number, whole through one of its indexes,
or through an index narrowed by the clauses that bound its columns: equal to
a value or to one of a set of values, column by column along the key, and
then within a range on the next column. When a clause ties a column to
another source, the table can also be read through an index the query builds
for it. Each way is a loop, weighed by its cost, the rows it gives, the
sources it needs read first, and the setup it costs before the first row.

The planner knows nothing of the values stored: a table is taken to hold
about a million rows, an index's key to narrow them by the table of guesses
`10, 9, 8, 7, 6, 5, 5, …` per column (one row for a whole unique key), and a
value's size by its declared type. A range keeps a quarter of the rows per
end, and a sixteenth more when it has both.

Loops are kept in a list: a new one is dropped when a loop of the same
source and the same use for ordering is no worse in every way, and replaces
those it beats in every way. A loop that uses a subset of another's clauses
is nudged to cost no less, or no more, than that one, as it does less, or
more.
-/

namespace SqlMapper.Database

/-- The first number written in a text, none when it has none or it is too big. -/
def firstNumber (cs : List Char) : Nat :=
  let digits := (cs.dropWhile (!·.isDigit)).takeWhile Char.isDigit
  let n := digits.foldl (fun n c => n * 10 + (c.toNat - '0'.toNat)) 0
  if n < Nat.pow 2 31 then n else 0

/-- The text after the size of a declared type: after the last `CHAR` in it,
or after a `BLOB` followed at once by a parenthesis. -/
def sizeText? (declared : String) : Option (List Char) :=
  go (declared.toList.map Char.toLower) [] none true
where
  go : List Char → List Char → Option (List Char) → Bool → Option (List Char)
    | [], _, found, _ => found
    | c :: rest, seen, found, numeric =>
      let seen := (seen ++ [c]).drop (seen.length + 1 - 4)
      if seen.drop (seen.length - 3) == ['i', 'n', 't'] then found
      else if seen == ['c', 'h', 'a', 'r'] then go rest seen (some rest) false
      else if seen == ['c', 'l', 'o', 'b'] || seen == ['t', 'e', 'x', 't'] then go rest seen found false
      else if seen == ['b', 'l', 'o', 'b'] && numeric then
        go rest seen (if rest.head? == some '(' then some rest else found) false
      else go rest seen found numeric

/-- The size of a value of a declared type, in units of about four bytes:
one for numbers and for no type, five for text and bytes, and a quarter of
a size written after `CHAR`, plus one. -/
def declaredWidth (declared : String) : Nat :=
  if declared.isEmpty then 1
  else
    match Affinity.ofDeclared declared with
    | .text | .blob =>
      let v := match sizeText? declared with
        | some rest => firstNumber rest
        | none => 16
      min (v / 4 + 1) 255
    | _ => 1

/-- A usable index of a table as the planner sees it. -/
structure IndexShape where
  /-- Its place in the list the planner goes through, from 2: the table itself is 1. -/
  rank : Nat
  /-- The columns of its key, each with its collation and whether it descends. -/
  keys : List (Nat × Collation × Bool)
  unique : Bool
  /-- Whether the key is unique and none of its columns can hold `NULL`. -/
  uniqueNotNull : Bool
  /-- The rows a prefix of the key is taken to select, for each length from 0. -/
  rowEstimates : List Int
  /-- The estimate of the size of one of its entries. -/
  width : Int
  deriving Inhabited

/-- A table as the planner sees it. -/
structure TableShape where
  info : TableDef
  /-- The estimate of the size of one of its rows. -/
  width : Int
  /-- Its usable indexes, the newest first. -/
  indexes : List IndexShape
  /-- The columns the select reads, the one that holds the row number apart. -/
  used : List Nat
  deriving Inhabited

/-- The estimate of the rows of a table with no statistics: about a million. -/
def tableRows : Int := 200

/-- The rows each further column of a key is taken to select, as estimates. -/
def keyNarrowing : List Int := [33, 32, 30, 28, 26]

/-- The shape of an index of a table, at a place of the planner's list;
none when its key holds an expression or it covers only some rows. -/
def IndexDef.shape? (t : TableDef) (rank : Nat) (ix : IndexDef) : Option IndexShape := do
  if ix.filter.isSome then none
  let keys ← ix.parts.mapM fun p => match p.term with
    | .column k => some (k, p.collation, p.descending)
    | .expr _ => none
  let n := keys.length
  let tail := (List.range n).map fun i => keyNarrowing.getD i 23
  let tail := if ix.unique then tail.set (n - 1) 0 else tail
  let widthSum := keys.foldl (fun acc (k, _, _) => acc + declaredWidth (t.column k).declared) 0 + 1
  some { rank, keys, unique := ix.unique,
         uniqueNotNull := ix.unique && keys.all fun (k, _, _) => (t.column k).notNull.isSome,
         rowEstimates := tableRows :: tail, width := logEst (4 * widthSum) }

/-- The shape of a table whose columns a select reads, with its indexes. -/
def Store.tableShape (s : Store) (t : TableDef) (used : List Nat) : TableShape :=
  let widthSum := t.columns.foldl (fun acc c => acc + declaredWidth c.declared) 0 +
    (if t.rowidColumn.isNone then 1 else 0)
  let indexes := (s.indexesOf t.name).reverse.zipIdx.filterMap fun (ix, i) => ix.shape? t (i + 2)
  { info := t, width := logEst (4 * widthSum), indexes,
    used := used.filter fun k => t.rowidColumn != some k }

/-- What a loop reads its source through. -/
inductive Access where
  /-- The table itself, in the order of its row numbers. -/
  | table
  | index (shape : IndexShape)
  /-- An index the query builds on one column for the loop. -/
  | automatic
  deriving Inhabited

/-- One way to read a source. -/
structure Loop where
  source : Nat
  access : Access
  /-- The place of its index in the planner's list when it may serve the
  ordering; 0 otherwise. Loops of different places are weighed apart. -/
  rank : Nat := 0
  /-- The sources that must be read before it. -/
  prereq : Nat := 0
  /-- The clauses it uses, by place. -/
  clauses : List Nat := []
  /-- How many columns of the key it holds equal. -/
  eqCount : Nat := 0
  /-- Whether it has a lower end of a range, and an upper end. -/
  lower : Bool := false
  upper : Bool := false
  /-- Whether its index holds every column the select reads. -/
  covering : Bool := false
  /-- Whether a column is held equal by `=` or `IS`, by a set of values, or to `NULL`. -/
  equal : Bool := false
  member : Bool := false
  null : Bool := false
  /-- Whether it gives at most one row. -/
  oneRow : Bool := false
  setup : Int := 0
  run : Int := 0
  rows : Int := 0
  deriving Inhabited

namespace Loop

/-- Whether the loop reads through an index of the table. -/
def indexed (l : Loop) : Bool :=
  match l.access with
  | .index _ => true
  | _ => false

/-- Whether the loop reads the table by row number. -/
def byRowid (l : Loop) : Bool :=
  match l.access with
  | .table => true
  | _ => false

/-- Whether the loop reads through an index the query builds. -/
def automatic (l : Loop) : Bool :=
  match l.access with
  | .automatic => true
  | _ => false

/-- Whether the loop uses a range. -/
def ranged (l : Loop) : Bool := l.lower || l.upper

end Loop

/-- Whether a loop uses fewer clauses than another, each of them among the
other's, costs no more or gives no more rows, and reads the table no less. -/
def Loop.cheaperSubset (x y : Loop) : Bool :=
  x.clauses.length < y.clauses.length &&
    !(x.run > y.run && x.rows > y.rows) &&
    x.clauses.all (y.clauses.contains ·) &&
    !(x.covering && !y.covering)

/-- A new loop with its cost nudged against the indexed loops of its source
that use a subset or a superset of its clauses. -/
def adjustCost (loops : Array Loop) (t : Loop) : Loop :=
  if !t.indexed then t
  else
    loops.foldl (fun t p =>
      if p.source != t.source || !p.indexed then t
      else if p.cheaperSubset t then { t with run := min p.run t.run, rows := min (p.rows - 1) t.rows }
      else if t.cheaperSubset p then { t with run := max p.run t.run, rows := max (p.rows + 1) t.rows }
      else t) t

/-- What becomes of a new loop among the kept ones. -/
inductive Verdict where
  | drop
  | replace (index : Nat)
  | append

/-- How a new loop fares against the kept loops from a place on: dropped
when one is no worse in every way, replacing the first it beats in every
way or the first automatic one it improves on, else appended. -/
def verdict (loops : Array Loop) (t : Loop) (start : Nat) : Verdict :=
  go (loops.toList.drop start) start
where
  go : List Loop → Nat → Verdict
    | [], _ => .append
    | p :: rest, i =>
      if p.source != t.source || p.rank != t.rank then go rest (i + 1)
      else if p.automatic && t.indexed && t.equal && (p.prereq &&& t.prereq) == t.prereq then .replace i
      else if (p.prereq &&& t.prereq) == p.prereq && p.setup ≤ t.setup && p.run ≤ t.run && p.rows ≤ t.rows then
        .drop
      else if (p.prereq &&& t.prereq) == t.prereq && p.run ≥ t.run && p.rows ≥ t.rows then .replace i
      else go rest (i + 1)

/-- Removes, from a place on, the kept loops a new loop beats, until one beats it. -/
def pruneLoops (t : Loop) : Nat → Array Loop → Nat → Array Loop
  | 0, loops, _ => loops
  | fuel + 1, loops, start =>
    match verdict loops t start with
    | .replace j => pruneLoops t fuel (loops.eraseIdxIfInBounds j) j
    | _ => loops

/-- Keeps a new loop, or not. -/
def insertLoop (loops : Array Loop) (t : Loop) : Array Loop :=
  let t := adjustCost loops t
  match verdict loops t 0 with
  | .drop => loops
  | .append => loops.push t
  | .replace i => pruneLoops t loops.size (loops.setIfInBounds i t) (i + 1)

/-- Whether a comparison of an affinity may use an index column of another. -/
def affinityFits (cmp : Option Affinity) (column : Affinity) : Bool :=
  match cmp with
  | none | some .blob => true
  | some .text => column == .text
  | some _ => column.isNumeric

/-- How many columns the equivalences of one column may reach. -/
def equivalenceLimit : Nat := 11

/-- The clauses that bound a column of a source or a column equivalent to it,
by place: those of the column first, then those of each equivalent column in
the order they were found. A check asks for the affinity and collation of an
index column; a clause that equates the column with itself, read the other
way round, does not count. -/
def scanClauses (cs : Array Clause) (src : Nat) (slot : Slot) (accept : Bound → Bool)
    (check : Option (Affinity × Collation)) : List Nat :=
  go equivalenceLimit [(src, slot)] 0 []
where
  go : Nat → List (Nat × Slot) → Nat → List Nat → List Nat
    | 0, _, _, found => found
    | fuel + 1, equiv, e, found =>
      match equiv[e]? with
      | none => found
      | some col =>
        let (equiv, found) := cs.toList.zipIdx.foldl (fun (equiv, found) (c, k) =>
          if c.target != some col || (e > 0 && c.outerOf.isSome) then (equiv, found)
          else
            let equiv := match c.peer with
              | some p => if equiv.length < equivalenceLimit && !equiv.contains p then equiv ++ [p] else equiv
              | none => equiv
            match c.bound with
            | some b =>
              if !accept b then (equiv, found)
              else if b != .isNull && check.any (fun (aff, coll) =>
                  !affinityFits c.comparer.affinity aff || c.comparer.collation != coll) then (equiv, found)
              else if b.isEquality && c.otherColumn == some (src, slot) then (equiv, found)
              else (equiv, found ++ [k])
            | none => (equiv, found)) (equiv, found)
        go fuel equiv (e + 1) found

/-- What building loops reads: the select's sources and their shapes, the
clauses of its filter, which sources are the right side of a `LEFT JOIN`,
and the terms the rows are wanted in the order of. -/
structure LoopInput where
  tables : SourceTables
  shapes : List TableShape
  clauses : Array Clause
  /-- Whether each source is the right side of a `LEFT JOIN`, and whether it
  may only follow every source before it. -/
  outer : List Bool
  fixed : List Bool
  /-- The sources and columns of the ordering terms that are columns. -/
  ordering : List (Option (Nat × Slot))

/-- What a loop reads a source through, as the planner weighs it: the table by
row number, or one of its indexes. -/
inductive Probe where
  | table
  | index (shape : IndexShape)

namespace Probe

/-- The columns it orders by: the key, then the row number. -/
def columnCount : Probe → Nat
  | .table => 1
  | .index s => s.keys.length + 1

/-- The columns of its key. -/
def keyCount : Probe → Nat
  | .table => 1
  | .index s => s.keys.length

/-- The column at a place, the column that holds the row number read as the row number. -/
def slotAt (t : TableDef) : Probe → Nat → Slot
  | .table, _ => .rowid
  | .index s, j =>
    match s.keys[j]? with
    | some (k, _, _) => if t.rowidColumn == some k then .rowid else .column k
    | none => .rowid

/-- Whether the column at a place is the row number that ends every entry. -/
def endsAt : Probe → Nat → Bool
  | .table, _ => true
  | .index s, j => j ≥ s.keys.length

/-- The affinity and collation a clause must fit to use the column at a place. -/
def checkAt (t : TableDef) (p : Probe) (j : Nat) : Option (Affinity × Collation) :=
  match p, p.slotAt t j with
  | .index s, .column k => (s.keys[j]?).map fun (_, coll, _) => ((t.column k).affinity, coll)
  | _, _ => none

/-- Whether the column at a place can never be `NULL`. -/
def notNullAt (t : TableDef) : Probe → Nat → Bool
  | .table, _ => true
  | .index s, j =>
    match s.keys[j]? with
    | some (k, _, _) => (t.column k).notNull.isSome
    | none => true

/-- The rows a prefix of the key of a length is taken to select. -/
def rowEstimate : Probe → Nat → Int
  | .table, 0 => tableRows
  | .table, _ => 0
  | .index s, j => s.rowEstimates.getD j 0

def unique : Probe → Bool
  | .table => true
  | .index s => s.unique

def uniqueNotNull : Probe → Bool
  | .table => false
  | .index s => s.uniqueNotNull

/-- Whether the probe holds a column of the table in its key. -/
def hasColumn : Probe → Nat → Bool
  | .table, _ => false
  | .index s, k => s.keys.any (·.1 == k)

end Probe

/-- The rows left of an estimate by a range with a lower end, an upper end,
or both: a quarter per end, a sixteenth more for both, never below 10. -/
def rangeRows (rows : Int) (lower upper : Bool) : Int :=
  let cut := (if lower then 20 else 0) + (if upper then 20 else 0) + (if lower && upper then 20 else 0)
  let ends : Int := (if lower then 1 else 0) + (if upper then 1 else 0)
  min (max (rows - cut) 10) (rows - ends)

namespace LoopInput

/-- The shape of a source's table. -/
def shape (li : LoopInput) (src : Nat) : TableShape := li.shapes[src]?.getD default

/-- Whether a source is the right side of a `LEFT JOIN`. -/
def isOuter (li : LoopInput) (src : Nat) : Bool := li.outer[src]?.getD false

/-- The clause at a place. -/
def clause (li : LoopInput) (k : Nat) : Clause := li.clauses[k]?.getD default

/-- A loop's rows lowered by the clauses of the filter it does not use that
read its source and only sources read before it: one step each, and more for
an equality, down to at most the table's rows less that. -/
def adjustRows (li : LoopInput) (l : Loop) (tableRows : Int) : Loop :=
  let self := sourceBit l.source
  let allowed := l.prereq ||| self
  let (rows, reduce) := li.clauses.toList.zipIdx.foldl (fun (rows, reduce) (c, k) =>
    if c.parent.isSome || !maskCovers allowed c.reads || c.reads &&& self == 0 then (rows, reduce)
    else if l.clauses.any (fun j => j == k || (li.clause j).parent == some k) then (rows, reduce)
    else
      let r : Int := if c.smallOther then 10 else 20
      let eq := match c.bound with
        | some b => b.isEquality
        | none => false
      (rows - 1, if eq then max reduce r else reduce)) (l.rows, (0 : Int))
  { l with rows := min rows (tableRows - reduce) }

/-- Whether a probe of a source's table might give rows in the wanted order:
an ordering term is its row number or a column of its key. -/
def mightOrder (li : LoopInput) (src : Nat) (p : Probe) : Bool :=
  li.ordering.any fun o => match o with
    | some (s, .rowid) => s == src
    | some (s, .column k) => s == src && p.hasColumn k
    | none => false

/-- The columns of a source's table that a term reads outside its sub-queries,
all in an index or the row number. -/
def coveredBy (li : LoopInput) (src : Nat) (s : IndexShape) (t : Term) : Bool :=
  let rowidColumn := (li.shape src).info.rowidColumn
  (t.readsAt readsFuel false li.tables.depth).all fun (s', k) =>
    s' != src || match k with
      | none => true
      | some k => rowidColumn == some k || s.keys.any (·.1 == k)

/-- Adds the loops that narrow a probe by the clauses on its next column,
each followed by those that narrow it further. -/
def addNarrowed (li : LoopInput) (src : Nat) (p : Probe) : Nat → Array Loop → Loop → Int → Array Loop
  | 0, loops, _, _ => loops
  | fuel + 1, loops, saved, inMul =>
    let t := (li.shape src).info
    let self := sourceBit src
    let j := saved.eqCount
    let accept := fun (b : Bound) => if saved.lower then b.isUpper else true
    let found := scanClauses li.clauses src (p.slotAt t j) accept (p.checkAt t j)
    let size := p.rowEstimate 0
    let sizeLog := estLog size
    found.foldl (fun loops k =>
      let c := li.clause k
      match c.bound with
      | none => loops
      | some b =>
        if b == .isNull && p.notNullAt t j then loops
        else if c.others &&& self != 0 then loops
        else if li.isOuter src && c.outerOf != some src then loops
        else
          let prereq := saved.prereq ||| c.others
          let l : Loop := { saved with clauses := saved.clauses ++ [k], prereq := prereq - (prereq &&& self) }
          let (l, inCost) : Loop × Int := match b with
            | .inList n => ({ l with member := true }, logEst n)
            | .inQuery => ({ l with member := true }, 46)
            | .eq | .is =>
              let single := p.endsAt j || (inMul == 0 && j + 1 == p.keyCount)
              let one := single && (p.endsAt j || p.uniqueNotNull || (p.keyCount == 1 && p.unique && b == .eq))
              ({ l with equal := true, oneRow := l.oneRow || one }, 0)
            | .isNull => ({ l with null := true }, 0)
            | .gt | .ge => ({ l with lower := true }, 0)
            | .lt | .le => ({ l with upper := true }, 0)
          let ranged := b.isLower || b.isUpper
          let l := if ranged then { l with rows := rangeRows saved.rows l.lower l.upper }
            else
              let n := saved.eqCount + 1
              { l with eqCount := n,
                       rows := saved.rows + p.rowEstimate n - p.rowEstimate (n - 1) + (if b == .isNull then 10 else 0) }
          let costIdx := match p with
            | .table => l.rows + 16
            | .index s => l.rows + 1 + (15 * s.width).tdiv (li.shape src).width
          let run := logEstAdd sizeLog costIdx
          let run := if l.covering || p matches .table then run else logEstAdd run (l.rows + 16)
          let unadjusted := l.rows
          let l := { l with run := run + inMul + inCost, rows := l.rows + inMul + inCost, setup := 0 }
          let loops := insertLoop loops (li.adjustRows l size)
          let next := { l with rows := if ranged then saved.rows else unadjusted }
          if !next.upper && next.eqCount < p.columnCount then addNarrowed li src p fuel loops next (inMul + inCost)
          else loops) loops

/-- Whether a clause can key an index the query builds on a source: an
equality of one of its stored columns with something else, fitting the
column's affinity. -/
def drivesAutomatic (li : LoopInput) (src : Nat) (c : Clause) : Bool :=
  match c.target, c.bound with
  | some (s, .column k), some b =>
    s == src && b.isEquality && (!li.isOuter src || c.outerOf == some src) &&
      affinityFits c.comparer.affinity ((li.shape src).info.column k).affinity
  | _, _ => false

/-- Adds the loops of one source, given the sources it must follow. -/
def addSourceLoops (li : LoopInput) (loops : Array Loop) (src : Nat) (prereq : Nat) : Array Loop :=
  let shape := li.shape src
  let self := sourceBit src
  let size := tableRows
  let sizeLog := estLog size
  let loops := li.clauses.toList.zipIdx.foldl (fun loops (c, k) =>
    if c.others &&& self != 0 || !li.drivesAutomatic src c then loops
    else
      insertLoop loops { source := src, access := .automatic, prereq := prereq ||| c.others, clauses := [k],
                         eqCount := 1, setup := sizeLog + size + 28, rows := 43,
                         run := logEstAdd sizeLog 43 }) loops
  let rank := if li.mightOrder src .table then 1 else 0
  let whole : Loop := { source := src, access := .table, rank, prereq, run := size + 16, rows := size }
  let loops := insertLoop loops (li.adjustRows whole size)
  let loops := addNarrowed li src .table 4 loops { whole with rows := size } 0
  shape.indexes.foldl (fun loops s =>
    let p := Probe.index s
    let covering := shape.used.all fun k => k < 63 && s.keys.any (·.1 == k)
    let helps := li.mightOrder src p
    let base : Loop := { source := src, access := .index s, prereq, rows := size, covering }
    let (loops, base) :=
      if helps || (covering && s.width < shape.width) then
        let run := size + 1 + (15 * s.width).tdiv shape.width
        let run := if covering then run
          else
            let lookups := (li.clauses.toList.takeWhile (fun c => li.coveredBy src s c.term)).foldl
              (fun n c => match c.bound with
                | some b => if b.isEquality then n - 20 else n - 1
                | none => n - 1) (size + 16)
            logEstAdd run lookups
        let scan := { base with rank := if helps then s.rank else 0, run }
        (insertLoop loops (li.adjustRows scan size), { base with rank := scan.rank })
      else (loops, base)
    addNarrowed li src p (2 * p.columnCount + 2) loops base 0) loops

/-- Every loop of every source: a source after a `LEFT JOIN` or `CROSS JOIN`
must follow every source before it. -/
def allLoops (li : LoopInput) : Array Loop :=
  let (loops, _, _) := (List.range li.shapes.length).foldl (fun (loops, prior, prereq) src =>
    let prereq := if li.fixed[src]?.getD false then prereq ||| prior else 0
    (li.addSourceLoops loops src prereq, prior ||| sourceBit src, prereq)) (#[], 0, 0)
  loops

end LoopInput

end SqlMapper.Database
