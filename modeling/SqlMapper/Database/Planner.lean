import SqlMapper.Database.JoinOrder
import SqlMapper.Database.Context

/-!
# Choosing how a select reads its sources

A select over stored tables joined by inner, cross and left joins is read as
the planner chooses: the sources in the order of the cheapest nest of loops,
each table by row number or through an index, forward or backward. The rows
are the same whatever it chooses; their order is what the choice decides, and
what a select without an `ORDER BY`, the ties of one with it, and the rows of
a group show.

The planner weighs the order the rows are wanted in: the `ORDER BY` of the
select, else its `GROUP BY`, else, for a `DISTINCT` that a unique key does not
already make distinct, its results.

Before planning, a `LEFT JOIN` whose source the filter needs a row of (a term
of the filter that is false or unknown when the source's columns are all
`NULL`) is read as an inner join: the rows it would add are refused anyway.

The filter's terms are tested as soon as the loops read every source they
read; the `ON` condition of a left join is tested in its source's loop, which
gives one row of `NULL`s when no row meets it.
-/

namespace SqlMapper.Database

/-- What a select's rows are wanted in the order of: the terms of its
`ORDER BY` with how each orders, and its `LIMIT` when that is a constant. -/
structure Wanted where
  orders : List (Term × OrderSpec) := []
  limit : Option Nat := none
  deriving Inhabited

/-- How a select reads its sources: the scan plan, the terms of its filter
with the sources each reads, and which sources are left-joined. -/
structure SelectScan where
  plan : ScanPlan
  conditions : List (Term × Nat)
  outer : List Bool
  deriving Inhabited

/-- Whether a term reaches a column of a source of the select at a depth
through operators that give `NULL` for `NULL`: not through `IS`, `IS NULL`,
`OR`, `IN`, `CASE`, a function or a sub-query; an `AND` needs both sides to. -/
def Term.needsRowOf (d src : Nat) : Nat → Term → Bool
  | 0, _ => false
  | fuel + 1, t =>
    match t with
    | .column s k _ | .rowid s k => s == d && k == src
    | .and a b => needsRowOf d src fuel a && needsRowOf d src fuel b
    | .between a _ _ _ _ => needsRowOf d src fuel a
    | .compare op _ a b =>
      if op == .is || op == .isNot then false else needsRowOf d src fuel a || needsRowOf d src fuel b
    | .negate a | .bitNot a | .not a | .cast a _ => needsRowOf d src fuel a
    | .arith _ a b => needsRowOf d src fuel a || needsRowOf d src fuel b
    | _ => false

/-- Whether a term of a filter is false or unknown when a source's columns are all `NULL`. -/
def Term.refusesNullRow (d src : Nat) : Term → Bool
  | .isNull a true => a.needsRowOf d src readsFuel
  | t => t.needsRowOf d src readsFuel

/-- The join kinds after reading as inner joins the left joins whose source
the filter, the inner joins' conditions or those of left joins read so
before needs a row of. -/
def simplifyJoins (d : Nat) (filter : List Term) (kinds : List JoinKind) (ons : List (List Term)) :
    List JoinKind :=
  (List.range kinds.length).foldl (fun kinds i =>
    if kinds[i]? != some .left then kinds
    else
      let pool := filter ++ (kinds.zip ons).flatMap fun (k, ts) => if k == .left then [] else ts
      if pool.any (Term.refusesNullRow d i) then kinds.set i .inner else kinds) kinds

/-- The columns of each source a select reads, the row number apart. -/
def usedColumns (d : Nat) (c : CorePlan) (count : Nat) : List (List Nat) :=
  let reads := c.readsAt readsFuel d
  (List.range count).map fun i => (reads.filterMap fun (s, k) => if s == i then k else none).eraseDups

namespace LoopInput

/-- Whether a unique key of the only source makes the results distinct
already: a result is its row number, or each column of a unique key is
equal to a constant or is a result of the key's collation that cannot be
`NULL`. -/
def alreadyDistinct (li : LoopInput) (results : List Term) (colls : List Collation) : Bool :=
  li.shapes.length == 1 &&
    (results.any (fun r => li.tables.slotOf r == some (0, .rowid)) ||
      (li.shape 0).indexes.any fun s =>
        s.unique && s.keys.zipIdx.all fun ((k, coll, _), i) =>
          let t := (li.shape 0).info
          let p := Probe.index s
          let pinned := (scanClauses li.clauses 0 (p.slotAt t i) (· == .eq) (p.checkAt t i)).any fun j =>
            (li.clause j).others == 0
          pinned || ((results.zip colls).any (fun (r, rc) =>
            li.tables.slotOf r == some (0, .column k) && t.rowidColumn != some k && rc == coll) &&
              (t.column k).notNull.isSome))

end LoopInput

/-- The ordering term the planner reads of a term. -/
def SourceTables.sortTerm (st : SourceTables) (t : Term) (coll : Collation) (descending nullsFirst : Bool) :
    SortTerm :=
  { column := st.slotOf t, reads := t.sourcesAt st.depth, constant := t.isConstant, collation := coll,
    descending, nullsAside := nullsFirst != !descending }

/-- How a select reads its sources, when the planner reads it: every source
a stored table with row numbers, joined by inner, cross or left joins, and
no window functions. -/
def Store.planSelect (s : Store) (depth : Nat) (c : CorePlan) (want : Wanted) : Option SelectScan := do
  let .select joins filter groups _ results _ _ wins distinct aggregated := c | none
  if joins.isEmpty || !wins.isEmpty || joins.length > 60 then none
  let tables ← joins.mapM fun j => match j with
    | .mk kind (.table name) _ _ =>
      if kind == .right || kind == .full then none
      else (s.table? name).bind fun t => if t.info.withoutRowid then none else some t.info
    | _ => none
  let st : SourceTables := { depth, tables }
  let whereTerms := (filter.map Term.conjuncts).getD []
  let ons := joins.map fun j => match j with
    | .mk _ _ _ on => (on.map Term.conjuncts).getD []
  let kinds := simplifyJoins depth whereTerms (joins.map fun j => match j with | .mk k _ _ _ => k) ons
  let outer := kinds.map (· == .left)
  let onTerms := (ons.zip outer).zipIdx.flatMap fun ((ts, o), i) => ts.map fun t => (t, if o then some i else none)
  let clauses := st.clausesOf (whereTerms.map (·, none) ++ onTerms)
  let used := usedColumns depth c joins.length
  let shapes := (tables.zip used).map fun (t, u) => s.tableShape t u
  let ordering (terms : List SortTerm) := terms.map (·.column)
  let base : LoopInput := { tables := st, shapes, clauses, outer,
                            fixed := kinds.map fun k => k == .left || k == .cross, ordering := [] }
  let (terms, check, sortedGroups) : List SortTerm × OrderCheck × Bool :=
    if aggregated then
      if groups.isEmpty then ([], {}, false)
      else
        let byOrder := want.orders.length == groups.length &&
          (groups.zip want.orders).all fun ((g, gc), (o, spec)) =>
            g == o && gc == spec.collation && spec.nullsFirst == !spec.descending
        let terms := groups.zipIdx.map fun ((g, coll), i) =>
          let desc := byOrder && ((want.orders[i]?.map (·.2.descending)).getD false)
          st.sortTerm g coll desc !desc
        (terms, { grouping := true }, byOrder)
    else if !want.orders.isEmpty then
      (want.orders.map fun (t, spec) => st.sortTerm t spec.collation spec.descending spec.nullsFirst, {}, false)
    else
      match distinct with
      | some colls =>
        if base.alreadyDistinct results colls then ([], {}, false)
        else ((results.zip colls).map fun (t, coll) => st.sortTerm t coll false true, { distinct := true }, false)
      | none => ([], {}, false)
  let li := { base with ordering := ordering terms }
  let ni : NestInput := { input := li, loops := li.allLoops, terms, check, resultCount := results.length,
                          limit := if aggregated then none else want.limit.map logEst,
                          distinct := !aggregated && distinct.isSome }
  let plan ← ni.plan joins.length sortedGroups
  let conditions := (whereTerms ++ (ons.zip outer).flatMap fun (ts, o) => if o then [] else ts).map fun t =>
    (t, t.sourcesAt depth)
  pure { plan, conditions, outer }

/-- The value of a column of a source's row, the row number as an integer. -/
def SourceRow.slotValue (r : SourceRow) : Slot → Datum
  | .rowid => match r.rowid with
    | some n => .integer n
    | none => .null
  | .column k => r.values[k]?.getD .null

/-- A source's rows, in the order of their row numbers, arranged as a loop reads them. -/
def ScanStep.arrange (step : ScanStep) (rows : List SourceRow) : List SourceRow :=
  let sorted := match step.order with
    | .stored => rows
    | .byKey keys =>
      sortByKeys (keys.map fun (_, coll, desc) => { collation := coll, descending := desc, nullsFirst := !desc })
        (fun r => keys.map fun (slot, _, _) => r.slotValue slot) rows
  if step.backward then sorted.reverse else sorted

end SqlMapper.Database
