import SqlMapper.Database.Scalar
import SqlMapper.Database.Moment
import SqlMapper.Database.Window

/-!
# What evaluation reads

A term is evaluated in a context: the database, the statement's parameters,
and the row of each select around the term, the outermost first, so that a
column reference finds its row by the depth of its select. A select row holds the
current row of each of its sources, and once the rows are grouped the
values of the select's aggregates and window functions. Besides these, a
context holds the working row of the innermost recursive common table
expression, and the counts of changed rows that `changes()` and its kin
report.

Evaluating may fail with a fault, and draws random numbers from a state
that it passes along.

The module also holds the small rules evaluation needs beside terms: the
logic of `NOT`, `AND` and `OR` over unknown values, `IN` over a list, the
paging of `LIMIT` and `OFFSET`, and the rows a stored table and the schema
table give in the order a scan meets them.
-/

namespace SqlMapper.Database

/-- A row of a source as a select reads it: its values, and its row number when it has one. -/
structure SourceRow where
  values : List Datum
  rowid : Option Int := none
  deriving Inhabited

/-- The row of `NULL`s that stands for a source of a given width with no row. -/
def SourceRow.empty (width : Nat) : SourceRow := { values := List.replicate width .null }

/-- The row of one select as its terms read it: the current row of each of its
sources, the values of its aggregates for the current group (with whether
each is JSON text), and of its window functions for the current row. -/
structure SelectRow where
  sources : List SourceRow := []
  aggregates : List Datum := []
  jsonAggregates : List Bool := []
  windows : List Datum := []
  deriving Inhabited

/-- The counts a statement can read: the rows the last statement changed,
the rows all statements changed, and the row number of the last row inserted. -/
structure Counters where
  changes : Nat := 0
  totalChanges : Nat := 0
  lastRowid : Int := 0
  deriving Inhabited

/-- What evaluating a plan reads. -/
structure Context where
  store : Store
  params : List Datum := []
  /-- The rows of the selects around the term, the outermost first. -/
  selects : List SelectRow := []
  /-- The working row of the innermost recursive common table expression. -/
  working : Option SourceRow := none
  counters : Counters := {}
  deriving Inhabited

/-- Evaluating: it draws random numbers from a state, and may fail. -/
abbrev EvalM := StateT Nat (Except Fault)

namespace Context

/-- The current row of a source of the select at a depth. -/
def sourceRow? (ctx : Context) (scope source : Nat) : Option SourceRow :=
  ctx.selects[scope]?.bind (·.sources[source]?)

/-- A column of the current row of a source. -/
def column (ctx : Context) (scope source index : Nat) : Datum :=
  ((ctx.sourceRow? scope source).bind (·.values[index]?)).getD .null

/-- The row number of the current row of a source, `NULL` when it has none. -/
def rowid (ctx : Context) (scope source : Nat) : Datum :=
  match (ctx.sourceRow? scope source).bind (·.rowid) with
  | some n => .integer n
  | none => .null

/-- The value of an aggregate of the select at a depth. -/
def aggregate (ctx : Context) (scope slot : Nat) : Datum :=
  ((ctx.selects[scope]?).bind (·.aggregates[slot]?)).getD .null

/-- Whether an aggregate of the select at a depth is JSON text. -/
def aggregateIsJson (ctx : Context) (scope slot : Nat) : Bool :=
  ((ctx.selects[scope]?).bind (·.jsonAggregates[slot]?)).getD false

/-- The value of a window function of the select at a depth. -/
def window (ctx : Context) (scope slot : Nat) : Datum :=
  ((ctx.selects[scope]?).bind (·.windows[slot]?)).getD .null

/-- The context inside a select whose current row is given. -/
def push (ctx : Context) (f : SelectRow) : Context := { ctx with selects := ctx.selects ++ [f] }

/-- The context of a query resolved at a depth: the rows of the selects above it only. -/
def atDepth (ctx : Context) (depth : Nat) : Context := { ctx with selects := ctx.selects.take depth }

end Context

/-- The fault of evaluation nested deeper than it can go. -/
def tooDeep : Fault := operational "Expression tree is too large (maximum depth 1000)"

/-- The fault `RAISE(IGNORE)` signals to the trigger that runs it: the
statement that fired the trigger leaves its row alone. -/
def ignoreSignal : Fault := .database "RaiseIgnore" ""

/-- The fault `RAISE(ROLLBACK, ...)` signals: the transaction is undone and
the statement fails with the message. -/
def rollbackSignal (message : String) : Fault := .database "RaiseRollback" message

/-- The fault a `RAISE` gives. -/
def raiseFault (kind : RaiseKind) (message : String) : Fault :=
  match kind with
  | .ignore => ignoreSignal
  | .rollback => rollbackSignal message
  | _ => integrity message

/-- Fails with the fault of a failed result. -/
def liftExcept {α : Type} (x : Except Fault α) : EvalM α :=
  match x with
  | .ok a => pure a
  | .error f => throw f

/-- The next state of the random number source: a 64-bit xorshift step. -/
def nextRandom (s : Nat) : Nat :=
  let x := s % Nat.pow 2 64
  let x := (x ^^^ (x <<< 13)) % Nat.pow 2 64
  let x := x ^^^ (x >>> 7)
  (x ^^^ (x <<< 17)) % Nat.pow 2 64

/-- A random 64-bit integer. -/
def randomInteger : EvalM Int := do
  let s := nextRandom (← get)
  set s
  pure (signedOfBits s)

/-- Random bytes, as many as asked. -/
def randomBytes (n : Nat) : EvalM (List UInt8) :=
  (List.range n).mapM fun _ => do
    let s := nextRandom (← get)
    set s
    pure (UInt8.ofNat (s % 256))

/-- `NOT` of a value: unknown stays unknown. -/
def notValue (d : Datum) : Datum := .ofTruth (d.truth?.map (!·))

/-- Negates a value when asked. -/
def notIf (negated : Bool) (d : Datum) : Datum := if negated then notValue d else d

/-- `AND` of two values: false when either is false, else unknown when either is unknown. -/
def andValue (a b : Datum) : Datum :=
  match a.truth?, b.truth? with
  | some false, _ | _, some false => .ofBool false
  | some true, some true => .ofBool true
  | _, _ => .null

/-- `OR` of two values: true when either is true, else unknown when either is unknown. -/
def orValue (a b : Datum) : Datum :=
  match a.truth?, b.truth? with
  | some true, _ | _, some true => .ofBool true
  | some false, some false => .ofBool false
  | _, _ => .null

/-- Whether a value is in a list: false for an empty list, unknown for a
`NULL` value, true when an item equals it, else unknown when an item is
`NULL`, else false. -/
def inListValue (c : Comparer) (x : Datum) (items : List Datum) : Datum :=
  if items.isEmpty then .ofBool false
  else if x.isNull then .null
  else if items.any (fun y => compareValues .eq c x y == .ofBool true) then .ofBool true
  else if items.any (·.isNull) then .null
  else .ofBool false

/-- Whether a row of values is among the rows of a query: false when it has
none, true when one equals it, else unknown when a comparison is unknown. -/
def inRowsValue (cs : List Comparer) (xs : List Datum) (rows : List (List Datum)) : Datum :=
  let results := rows.map (compareRowValues .eq cs xs)
  if results.any (· == .ofBool true) then .ofBool true
  else if results.any (·.isNull) then .null
  else .ofBool false

/-- A value as the count of `LIMIT` or `OFFSET`: an integer after numeric conversion. -/
def pagingCount (d : Datum) : Except Fault Int :=
  match d.withAffinity .numeric with
  | .integer n => pure n
  | _ => throw (integrity "datatype mismatch")

/-- Pages rows: skips the offset (none when negative), then keeps at most
the limit (all when none or negative). -/
def page {α : Type} (limit : Option Int) (offset : Int) (rows : List α) : List α :=
  let rows := rows.drop offset.toNat
  match limit with
  | some n => if n < 0 then rows else rows.take n.toNat
  | none => rows

/-- The key of a stored row under an index's terms that are columns. -/
def keyOfRow (parts : List KeyPart) (r : Row) : List Datum :=
  parts.map fun p => match p.term with
    | .column i => r.values[i]?.getD .null
    | .expr _ => .null

/-- The ordering terms of an index's parts. -/
def partSpecs (parts : List KeyPart) : List OrderSpec :=
  parts.map fun p => { collation := p.collation, descending := p.descending, nullsFirst := !p.descending }

/-- The rows of a stored table in the order a scan meets them: by row
number, or by primary key for a table without row numbers (whose row
numbers only tell its rows apart, as no name reaches them). -/
def Store.scan (s : Store) (name : String) : List SourceRow :=
  match s.table? name with
  | some t =>
    if t.info.withoutRowid then
      let parts := ((s.indexesOf t.info.name).find? (·.primary)).map (·.parts) |>.getD []
      (sortByKeys (partSpecs parts) (keyOfRow parts) t.rows).map fun r => { values := r.values, rowid := some r.rowid }
    else t.rows.map fun r => { values := r.values, rowid := some r.rowid }
  | none => []

/-- The rows of the schema table: each object's kind, name, table, page and
text, numbered in the order the objects were made. -/
def Store.schemaRows (s : Store) : List SourceRow :=
  s.entries.zipIdx.map fun (e, i) =>
    { values := [.ofString e.kind.word, .ofString e.name, .ofString e.table, .integer e.page,
                 match e.sql with
                 | some t => .ofString t
                 | none => .null],
      rowid := some (i + 1) }

/-- Whether a function gives JSON text that another JSON function reads as JSON. -/
def givesJson (name : String) : Bool :=
  ["json", "json_array", "json_object", "json_quote", "json_set", "json_insert", "json_replace",
   "json_remove", "json_patch", "json_extract", "->", "json_group_array", "json_group_object"].contains name

end SqlMapper.Database
