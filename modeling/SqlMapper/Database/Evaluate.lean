import SqlMapper.Database.Context
import SqlMapper.Database.TableFunction
import SqlMapper.Database.Planner

/-!
# Evaluating plans

Terms evaluate to values in a context; conditions decide rows; queries give
rows. One fuel argument bounds every nested evaluation, as deep nesting is
refused before a plan is made.

A select joins its sources in the order written: each row of the sources
before a source meets each of its rows, and the join's condition keeps the
pairs it accepts. A left join keeps a row that met none with `NULL`s for the
source; a right join adds, after all others, each row of the source that met
none with `NULL`s for the sources before it; a full join does both. The
filter then keeps rows, and a select that groups sorts them by its groups
(stably, `NULL` first) and folds each run of equal keys into one row: its
aggregates, and for its bare columns the first row of the group, or, when
the select computes `min` or `max`, the row where the last of those found its
value. A select without groups that aggregates makes one group, empty or
not. `HAVING` keeps groups. Window functions are computed a window at a
time, the last window first, each pass sorting the rows by its partition
and ordering. Results and ordering keys follow, and `DISTINCT` keeps the
first of equal rows.

A compound combines its selects from the left. Without an ordering, `UNION
ALL` appends, and the others give their distinct rows sorted by all columns.
With one, the selects' rows are merged in the ordering extended by the other
columns, a merge keeping the left row of two equal ones. A recursive common
table expression takes its rows from a queue: its first selects fill it, and
each row taken from it (the least in its ordering, or the oldest) is a row
of the result and the working row of its other selects, whose rows join the
queue, once each when it keeps duplicates out. `LIMIT` and `OFFSET` are
counted before anything else is evaluated and page the result.
-/

namespace SqlMapper.Database

/-- The most rows a recursive common table expression takes from its queue. -/
def recursionLimit : Nat := 10000000

/-- The width of the results of a member of a compound. -/
def CorePlan.width : CorePlan → Nat
  | .select _ _ _ _ results _ _ _ _ _ => results.length
  | .values rows => (rows.head?.map List.length).getD 0

/-- What makes rows of a window pass one spec: partition, ordering and frame. -/
abbrev WindowSpec :=
  List (Term × Collation) × List (Term × OrderSpec) × FrameUnit × BoundPlan × BoundPlan × FrameExclude

/-- The spec of a window call. -/
def WindowPlan.spec : WindowPlan → WindowSpec
  | .mk _ _ _ p o u s f e _ => (p, o, u, s, f, e)

/-- The function of a window call. -/
def WindowPlan.call : WindowPlan → WindowCall
  | .mk name _ _ _ _ _ _ _ _ c => { name, collation := c }

/-- The arguments of a window call. -/
def WindowPlan.arguments : WindowPlan → List Term
  | .mk _ args _ _ _ _ _ _ _ _ => args

/-- The filter of a window call. -/
def WindowPlan.filter : WindowPlan → Option Term
  | .mk _ _ f _ _ _ _ _ _ _ => f

/-- Sets the values at some positions of a list. -/
def setAt (xs : List Datum) (positions : List Nat) (vs : List Datum) : List Datum :=
  (positions.zip vs).foldl (fun acc (i, v) => acc.set i v) xs

/-- The ordering terms of a compound: its own, extended (unless all its
operators keep duplicates) by each column it does not name, ascending. -/
def compoundSpecs (orders : List (OrderKey × OrderSpec)) (colls : List Collation) (extend : Bool) :
    List (Nat × OrderSpec) :=
  let own := orders.map fun (k, s) => match k with
    | .result i => (i, s)
    | .key i => (i, s)
  if !extend then own
  else own ++ (colls.zipIdx.filter (fun (_, i) => !own.any (·.1 == i))).map fun (c, i) => (i, { collation := c })

/-- Sorts rows by terms that name their columns, stably. -/
def sortByColumns (specs : List (Nat × OrderSpec)) (rows : List (List Datum)) : List (List Datum) :=
  sortByKeys (specs.map (·.2)) (fun r => specs.map fun (i, _) => r[i]?.getD .null) rows

/-- The distinct rows of a list sorted by all columns, the last of equal rows kept. -/
def distinctSorted (colls : List Collation) (rows : List (List Datum)) : List (List Datum) :=
  (runs (sameRow colls) (sortByKeys (ascendingBy colls) id rows)).filterMap List.getLast?

/-- Combines the rows of a compound so far with a member's rows, without an ordering. -/
def combinePlain (colls : List Collation) (op : CompoundOp) (left right : List (List Datum)) :
    List (List Datum) :=
  match op with
  | .unionAll => left ++ right
  | .union => distinctSorted colls (left ++ right)
  | .intersect => (distinctSorted colls left).filter fun r => right.any (sameRow colls r)
  | .except => (distinctSorted colls left).filter fun r => !right.any (sameRow colls r)

/-- Combines the rows of a compound so far, sorted, with a member's rows,
merging in the compound's ordering. -/
def combineOrdered (colls : List Collation) (orders : List (OrderKey × OrderSpec)) (op : CompoundOp)
    (left right : List (List Datum)) : List (List Datum) :=
  let full := compoundSpecs orders colls true
  let same := sameRow colls
  match op with
  | .unionAll => sortByColumns (compoundSpecs orders colls false) (left ++ right)
  | .union => dedupeNeighbours same (sortByColumns full (left ++ right))
  | .intersect =>
    dedupeNeighbours same ((sortByColumns full left).filter fun r => right.any (same r))
  | .except =>
    dedupeNeighbours same ((sortByColumns full left).filter fun r => !right.any (same r))

/-- The place of the row a queue gives next: the least in an ordering, the
oldest of equal ones, or the oldest when there is no ordering. -/
def nextInQueue (orders : List (Nat × OrderSpec)) (queue : List (List Datum)) : Nat :=
  if orders.isEmpty then 0
  else
    let keyOf := fun (r : List Datum) => orders.map fun (i, _) => r[i]?.getD .null
    let specs := orders.map (·.2)
    (queue.zipIdx.foldl (fun (best : Option (List Datum × Nat)) (r, i) =>
      match best with
      | some (b, j) => if compareKeys specs (keyOf r) (keyOf b) == .lt then some (r, i) else some (b, j)
      | none => some (r, i)) none).map (·.2) |>.getD 0

/-- What the rows of one select of a compound are wanted in the order of:
the ordering's terms as the select computes them, and a constant limit. -/
def wantedOf (c : CorePlan) (orders : List (OrderKey × OrderSpec)) (limit : Option Term) : Wanted :=
  match c with
  | .select _ _ _ _ results keys _ _ _ _ =>
    let terms := orders.filterMap fun (k, spec) => match k with
      | .result i => results[i]?.map (·, spec)
      | .key i => keys[i]?.map (·, spec)
    { orders := if terms.length == orders.length then terms else [],
      limit := match limit with
        | some (.value (.integer n)) => if n ≥ 0 then some n.toNat else none
        | _ => none }
  | .values _ => {}

mutual

/-- The value of a term. -/
def term : Nat → Context → Term → EvalM Datum
  | 0, _, _ => throw tooDeep
  | fuel + 1, ctx, t =>
    match t with
    | .value d => pure d
    | .param i => pure ((ctx.params[i - 1]?).getD .null)
    | .column scope source index => pure (ctx.column scope source index)
    | .rowid scope source => pure (ctx.rowid scope source)
    | .negate a => do pure (negateValue (← term fuel ctx a))
    | .bitNot a => do pure (complementValue (← term fuel ctx a))
    | .not a => do pure (notValue (← term fuel ctx a))
    | .arith op a b => do
      let x ← term fuel ctx a
      let y ← term fuel ctx b
      pure (applyArith op x y)
    | .and a b => do
      let x ← term fuel ctx a
      let y ← term fuel ctx b
      pure (andValue x y)
    | .or a b => do
      let x ← term fuel ctx a
      let y ← term fuel ctx b
      pure (orValue x y)
    | .compare op c a b => do
      let x ← term fuel ctx a
      let y ← term fuel ctx b
      pure (compareValues op c x y)
    | .compareRows op cs as bs => do
      let xs ← as.mapM (term fuel ctx)
      let ys ← bs.mapM (term fuel ctx)
      pure (compareRowValues op cs xs ys)
    | .isNull a negated => do
      let x ← term fuel ctx a
      pure (.ofBool (x.isNull != negated))
    | .between a lo hi low high => do
      let x ← term fuel ctx a
      let l ← term fuel ctx lo
      let h ← term fuel ctx hi
      pure (andValue (compareValues .ge low x l) (compareValues .le high x h))
    | .truth a wanted negated => do
      let x ← term fuel ctx a
      pure (.ofBool ((x.truth? == some wanted) != negated))
    | .inList a items c negated => do
      let x ← term fuel ctx a
      let ys ← items.mapM (term fuel ctx)
      pure (notIf negated (inListValue c x ys))
    | .inQuery ts q cs negated => do
      let xs ← ts.mapM (term fuel ctx)
      let rows ← query fuel ctx q
      pure (notIf negated (inRowsValue cs xs rows))
    | .call name args coll => do pure (← call fuel ctx name args coll).1
    | .aggregate scope slot => pure (ctx.aggregate scope slot)
    | .window scope slot => pure (ctx.window scope slot)
    | .choice operand cs branches otherwise => do
      let x ← operand.mapM (term fuel ctx)
      let mut k := 0
      for (w, r) in branches do
        let hit ← match x with
          | some v => do
            let wv ← term fuel ctx w
            pure (compareValues .eq (cs[k]?.getD {}) v wv == .ofBool true)
          | none => condition fuel ctx w
        if hit then return (← term fuel ctx r)
        k := k + 1
      match otherwise with
      | some e => term fuel ctx e
      | none => pure .null
    | .cast a aff => do pure (Datum.cast aff (← term fuel ctx a))
    | .exists q => do
      let rows ← query fuel ctx q
      pure (.ofBool !rows.isEmpty)
    | .scalar q i => do
      let rows ← query fuel ctx q
      pure ((rows.head?.bind (·[i]?)).getD .null)
    | .raise kind msg => throw (raiseFault kind msg)

/-- Whether a condition holds: true, not false or unknown. `AND` and `OR`
stop at the first operand that decides them. -/
def condition : Nat → Context → Term → EvalM Bool
  | 0, _, _ => throw tooDeep
  | fuel + 1, ctx, t =>
    match t with
    | .and a b => do
      if ← condition fuel ctx a then condition fuel ctx b else pure false
    | .or a b => do
      if ← condition fuel ctx a then pure true else condition fuel ctx b
    | _ => do
      let v ← term fuel ctx t
      pure (v.truth? == some true)

/-- The value of an argument of a JSON function, with whether it is JSON text. -/
def jsonArg : Nat → Context → Term → EvalM (Datum × Bool)
  | 0, _, _ => throw tooDeep
  | fuel + 1, ctx, t =>
    match t with
    | .call name args coll => call fuel ctx name args coll
    | .aggregate scope slot => pure (ctx.aggregate scope slot, ctx.aggregateIsJson scope slot)
    | _ => do pure (← term fuel ctx t, false)

/-- The value of a function call, with whether it is JSON text. -/
def call : Nat → Context → String → List Term → Collation → EvalM (Datum × Bool)
  | 0, _, _, _, _ => throw tooDeep
  | fuel + 1, ctx, name, args, coll => do
    let arg := fun (i : Nat) => args[i]?.getD (.value .null)
    match name with
    | "coalesce" | "ifnull" => do
      for a in args do
        let v ← term fuel ctx a
        if !v.isNull then return (v, false)
      pure (.null, false)
    | "iif" => do
      if ← condition fuel ctx (arg 0) then pure (← term fuel ctx (arg 1), false)
      else pure (← term fuel ctx (arg 2), false)
    | "likely" | "unlikely" | "likelihood" => jsonArg fuel ctx (arg 0)
    | "random" => do pure (.integer (← randomInteger), false)
    | "randomblob" => do
      let n := (← term fuel ctx (arg 0)).toInteger
      pure (.blob (← randomBytes (if n < 1 then 1 else n.toNat)), false)
    | "changes" => pure (.integer ctx.counters.changes, false)
    | "total_changes" => pure (.integer ctx.counters.totalChanges, false)
    | "last_insert_rowid" => pure (.integer ctx.counters.lastRowid, false)
    | "match" => throw (operational "unable to use function MATCH in the requested context")
    | _ => do
      let pairs ← args.mapM (jsonArg fuel ctx)
      match jsonFunction? name pairs with
      | some r => liftExcept r
      | none =>
        let values := pairs.map (·.1)
        match dateFunction? name values with
        | some d => pure (d, false)
        | none =>
          match scalarOf? name coll values with
          | some r => do pure (← liftExcept r, false)
          | none => throw (operational ("no such function: " ++ name))

/-- The rows of a query. -/
def query : Nat → Context → Query → EvalM (List (List Datum))
  | 0, _, _ => throw tooDeep
  | fuel + 1, ctx, q =>
    match q with
    | .compound first rest colls orders limit offset => do
      let lim ← paging fuel ctx limit
      if lim == some 0 then return []
      let off := ((← paging fuel ctx offset).getD 0)
      if rest.isEmpty then
        let rows ← core fuel ctx first (wantedOf first orders limit)
        let width := first.width
        let specs := orders.map fun (k, s) => match k with
          | .result i => (i, s)
          | .key i => (width + i, s)
        let sorted := if orders.isEmpty then rows else sortByColumns specs rows
        pure (page lim off (sorted.map (·.take width)))
      else
        let left ← core fuel ctx first (wantedOf first orders none)
        let mut acc := if orders.isEmpty then left
          else sortByColumns (compoundSpecs orders colls (rest.any (·.1 != .unionAll))) left
        for (op, arm) in rest do
          let right ← core fuel ctx arm (wantedOf arm orders none)
          acc := if orders.isEmpty then combinePlain colls op acc right
            else combineOrdered colls orders op acc right
        pure (page lim off acc)
    | .recursive seed steps distinct colls orders limit offset => do
      let lim ← paging fuel ctx limit
      if lim == some 0 then return []
      let off := ((← paging fuel ctx offset).getD 0)
      let seedRows ← query fuel ctx seed
      let same := sameRow colls
      let mut queue : List (List Datum) := []
      let mut seen : List (List Datum) := []
      for r in seedRows do
        if distinct then
          if !seen.any (same r) then
            seen := seen ++ [r]
            queue := queue ++ [r]
        else queue := queue ++ [r]
      let mut out : List (List Datum) := []
      let mut skip := off
      for _ in [0:recursionLimit] do
        if queue.isEmpty then break
        let i := nextInQueue orders queue
        let row := queue[i]?.getD []
        queue := queue.eraseIdx i
        if skip > 0 then skip := skip - 1
        else
          out := out ++ [row]
          if lim.any (fun n => n ≥ 0 && out.length ≥ n.toNat) then break
        let wctx := { ctx with working := some { values := row } }
        for step in steps do
          let more ← query fuel wctx step
          for r in more do
            if distinct then
              if !seen.any (same r) then
                seen := seen ++ [r]
                queue := queue ++ [r]
            else queue := queue ++ [r]
      pure out

/-- The count of a `LIMIT` or `OFFSET`, none when there is none. -/
def paging : Nat → Context → Option Term → EvalM (Option Int)
  | 0, _, _ => throw tooDeep
  | fuel + 1, ctx, t =>
    match t with
    | some e => do pure (some (← liftExcept (pagingCount (← term fuel ctx e))))
    | none => pure none

/-- The rows of one member of a compound, its rows wanted as given: its
results, then its ordering keys. -/
def core : Nat → Context → CorePlan → Wanted → EvalM (List (List Datum))
  | 0, _, _, _ => throw tooDeep
  | fuel + 1, ctx, c, want =>
    match c with
    | .values rows => rows.mapM fun r => r.mapM (term fuel (ctx.push {}))
    | .select joins filter groups having results keys aggs wins distinct aggregated => do
      let (tuples, grouped) ← match ctx.store.planSelect ctx.selects.length c want with
        | some scan => do pure (← scanRows fuel ctx joins scan, scan.plan.grouped)
        | none => do
          let tuples ← joinRows fuel ctx joins
          let tuples ← match filter with
            | some f => tuples.filterM fun t => condition fuel (ctx.push { sources := t }) f
            | none => pure tuples
          pure (tuples, false)
      let widths := joins.map fun (.mk _ _ w _) => w
      let rows ← if aggregated then groupRows fuel ctx tuples groups aggs having widths grouped
        else pure (tuples.map fun t => ({ sources := t } : SelectRow))
      let rows ← if wins.isEmpty then pure rows else windowRows fuel ctx rows wins
      let out ← rows.mapM fun r => (results ++ keys).mapM (term fuel (ctx.push r))
      match distinct with
      | some colls =>
        let n := results.length
        pure (dedupeFirst (fun a b => sameRow colls (a.take n) (b.take n)) out)
      | none => pure out

/-- The rows of a select's sources joined, each a row of every source. -/
def joinRows : Nat → Context → List JoinPlan → EvalM (List (List SourceRow))
  | 0, _, _ => throw tooDeep
  | fuel + 1, ctx, joins => do
    let mut tuples : List (List SourceRow) := [[]]
    let mut widths : List Nat := []
    for j in joins do
      let .mk kind src width on := j
      let fixed ← sourceRows fuel ctx src
      let rowsFor := fun (t : List SourceRow) => match src with
        | .rows name args => do
          let vs ← args.mapM (term fuel (ctx.push { sources := t }))
          let rows ← liftExcept (rowFunctionRows ctx.store name vs)
          pure (rows.zipIdx.map fun (r, i) => ({ values := r, rowid := some i } : SourceRow))
        | _ => pure fixed
      let accepts := fun (t : List SourceRow) => match on with
        | some e => condition fuel (ctx.push { sources := t }) e
        | none => pure true
      let pairs ← tuples.mapM fun t => do
        let rows ← rowsFor t
        let ms ← rows.zipIdx.filterM fun (r, _) => accepts (t ++ [r])
        pure (t, ms)
      let met := pairs.flatMap fun (t, ms) =>
        if ms.isEmpty && (kind == .left || kind == .full) then [t ++ [SourceRow.empty width]]
        else ms.map fun (r, _) => t ++ [r]
      let unmatched := if kind == .right || kind == .full then
          let hit := pairs.flatMap fun (_, ms) => ms.map (·.2)
          (fixed.zipIdx.filter fun (_, k) => !hit.contains k).map fun (r, _) =>
            widths.map SourceRow.empty ++ [r]
        else []
      tuples := met ++ unmatched
      widths := widths ++ [width]
    pure tuples

/-- The rows of a select's sources joined in the loops of a scan plan, each
source's rows in the order its loop reads them. A term of the filter keeps
rows as soon as every source it reads is read, a term that reads none before
any is; a left-joined source's loop keeps the rows its condition accepts, or
one row of `NULL`s when it accepts none. -/
def scanRows : Nat → Context → List JoinPlan → SelectScan → EvalM (List (List SourceRow))
  | 0, _, _, _ => throw tooDeep
  | fuel + 1, ctx, joins, scan => do
    let blank := joins.map fun (.mk _ _ w _) => SourceRow.empty w
    let holds := fun (ts : List (Term × Nat)) (t : List SourceRow) =>
      ts.allM fun (c, _) => condition fuel (ctx.push { sources := t }) c
    let mut tuples ← [blank].filterM (holds (scan.conditions.filter (·.2 == 0)))
    let mut bound : Nat := 0
    for step in scan.plan.steps do
      let .mk _ src width on := joins[step.source]?.getD (.mk .inner .working 0 none)
      let rows := step.arrange (← sourceRows fuel ctx src)
      let self := sourceBit step.source
      let reached := bound ||| self
      let outer := scan.outer[step.source]?.getD false
      let expanded ← tuples.mapM fun t => do
        let candidates := rows.map fun r => t.set step.source r
        if outer then
          let met ← match on with
            | some e => candidates.filterM fun u => condition fuel (ctx.push { sources := u }) e
            | none => pure candidates
          pure (if met.isEmpty then [t.set step.source (SourceRow.empty width)] else met)
        else pure candidates
      let ready := scan.conditions.filter fun (_, m) => m &&& self != 0 && maskCovers reached m
      tuples ← expanded.flatten.filterM (holds ready)
      bound := reached
    pure tuples

/-- The rows of a source. -/
def sourceRows : Nat → Context → SourcePlan → EvalM (List SourceRow)
  | 0, _, _ => throw tooDeep
  | fuel + 1, ctx, s =>
    match s with
    | .table name => pure (ctx.store.scan name)
    | .schemaTable => pure ctx.store.schemaRows
    | .query q depth => do
      let rows ← query fuel (ctx.atDepth depth) q
      pure (rows.map fun vs => { values := vs })
    | .working => pure ctx.working.toList
    | .rows _ _ => pure []

/-- The groups of a select's rows, each folded into one row, those `HAVING`
accepts; rows that come grouped already keep their order. -/
def groupRows : Nat → Context → List (List SourceRow) → List (Term × Collation) → List AggregatePlan →
    Option Term → List Nat → Bool → EvalM (List SelectRow)
  | 0, _, _, _, _, _, _, _ => throw tooDeep
  | fuel + 1, ctx, tuples, groups, aggs, having, widths, grouped => do
    let keyed ← tuples.mapM fun t => do
      let ks ← groups.mapM fun (g, _) => term fuel (ctx.push { sources := t }) g
      pure (ks, t)
    let colls := groups.map (·.2)
    let parts : List (List (List SourceRow)) :=
      if groups.isEmpty then [tuples]
      else (runs (fun a b => sameRow colls a.1 b.1)
        (if grouped then keyed else sortByKeys (ascendingBy colls) (·.1) keyed)).map (·.map (·.2))
    let rows ← parts.mapM fun part => foldGroup fuel ctx part aggs widths
    match having with
    | some h => rows.filterM fun r => condition fuel (ctx.push r) h
    | none => pure rows

/-- One group folded into one row: its aggregates, and its bare row. -/
def foldGroup : Nat → Context → List (List SourceRow) → List AggregatePlan → List Nat → EvalM SelectRow
  | 0, _, _, _, _ => throw tooDeep
  | fuel + 1, ctx, part, aggs, widths => do
    let lastExtreme := (aggs.zipIdx.filter fun (.mk name _ _ _ _, _) => keepsExtreme name).getLast?.map (·.2)
    let mut states : List (Tally × List Datum) := aggs.map fun _ => ({}, [])
    let mut bare : Option (List SourceRow) := none
    for t in part do
      let rctx := ctx.push { sources := t }
      let mut k := 0
      for a in aggs do
        let .mk name args dist filter coll := a
        let takes ← match filter with
          | some f => condition fuel rctx f
          | none => pure true
        if takes then
          let vals ← args.mapM (jsonArg fuel rctx)
          let (tally, seen) := states[k]?.getD ({}, [])
          let v := (vals.head?.map (·.1)).getD .null
          if !(dist && seen.any (sameUnder coll v)) then
            let (tally, hit) ← liftExcept (Tally.step name coll tally vals)
            states := states.set k (tally, if dist then seen ++ [v] else seen)
            if lastExtreme == some k && hit then bare := some t
        k := k + 1
      if lastExtreme.isNone && bare.isNone then bare := some t
    let values ← (aggs.zip states).mapM fun (.mk name _ _ _ _, (tally, _)) => liftExcept (Tally.finish name tally)
    let sources := bare.getD (part.head?.getD (widths.map SourceRow.empty))
    pure { sources, aggregates := values,
           jsonAggregates := aggs.map fun (.mk name _ _ _ _) => givesJson name }

/-- The select's rows with their window functions computed, in the order of the last pass. -/
def windowRows : Nat → Context → List SelectRow → List WindowPlan → EvalM (List SelectRow)
  | 0, _, _, _ => throw tooDeep
  | fuel + 1, ctx, rows, wins => do
    let specs := dedupeFirst (· == ·) (wins.map (·.spec))
    let start := rows.map fun r => { r with windows := wins.map fun _ => .null }
    specs.reverse.foldlM (fun rs spec => windowPass fuel ctx rs wins spec) start

/-- One pass of window functions of one spec over the select's rows. -/
def windowPass : Nat → Context → List SelectRow → List WindowPlan → WindowSpec → EvalM (List SelectRow)
  | 0, _, _, _, _ => throw tooDeep
  | fuel + 1, ctx, rows, wins, spec => do
    let (part, orders, unit, start, finish, exclude) := spec
    let mine := wins.zipIdx.filter fun (w, _) => w.spec == spec
    let frame : FrameValue :=
      { unit, start := ← edge fuel ctx start, finish := ← edge fuel ctx finish, exclude }
    let keyed ← rows.mapM fun r => do
      let c := ctx.push r
      let p ← part.mapM fun (t, _) => term fuel c t
      let o ← orders.mapM fun (t, _) => term fuel c t
      let args ← mine.mapM fun (w, _) => w.arguments.mapM (jsonArg fuel c)
      let taken ← mine.mapM fun (w, _) => match w.filter with
        | some f => condition fuel c f
        | none => pure true
      pure (({ partition := p, order := o, args, taken } : WindowRow), r)
    let pspecs := ascendingBy (part.map (·.2))
    let ospecs := orders.map (·.2)
    let sorted := sortByKeys (pspecs ++ ospecs) (fun (w, _) => w.partition ++ w.order) keyed
    let values ← liftExcept (passValues (mine.map (·.1.call)) (part.map (·.2)) ospecs frame (sorted.map (·.1)))
    let slots := mine.map (·.2)
    pure ((sorted.zip values).map fun ((_, r), vs) => { r with windows := setAt r.windows slots vs })

/-- One end of a window frame with its offset evaluated. -/
def edge : Nat → Context → BoundPlan → EvalM FrameEdge
  | 0, _, _ => throw tooDeep
  | fuel + 1, ctx, b =>
    match b with
    | .unboundedPreceding => pure .unboundedPreceding
    | .preceding t => do pure (.preceding (← term fuel ctx t))
    | .currentRow => pure .currentRow
    | .following t => do pure (.following (← term fuel ctx t))
    | .unboundedFollowing => pure .unboundedFollowing

end

/-- The fuel evaluation starts with: more than any plan nests. -/
def evalFuel : Nat := 100000

/-- The rows of a query in a context. -/
def Context.run (ctx : Context) (q : Query) : EvalM (List (List Datum)) := query evalFuel ctx q

/-- The value of a term in a context. -/
def Context.value (ctx : Context) (t : Term) : EvalM Datum := term evalFuel ctx t

/-- Whether a condition holds in a context. -/
def Context.holds (ctx : Context) (t : Term) : EvalM Bool := condition evalFuel ctx t

/-- The rows of joined sources that a filter accepts, in a context. -/
def Context.joined (ctx : Context) (joins : List JoinPlan) (filter : Option Term) :
    EvalM (List (List SourceRow)) := do
  let tuples ← joinRows evalFuel ctx joins
  match filter with
  | some f => tuples.filterM fun t => condition evalFuel (ctx.push { sources := t }) f
  | none => pure tuples

end SqlMapper.Database
