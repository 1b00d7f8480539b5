import SqlMapper.Database.Evaluate
import SqlMapper.Database.Resolve.Write

/-!
# Running statements

A statement that writes runs against a runtime: the database as it stands,
the counters of changed rows and of the last row number inserted, the state
of the random number source, and the triggers that are running. Running may
fail; the runtime then still says how far the statement got, so that a
conflict resolved by `FAIL` keeps the rows written before it.

The expressions a table definition holds (checks, defaults, generated
columns, the terms and filters of indexes) are resolved against the table's
own row when they are needed, and evaluated on a row: its values and row
number.

The module also holds the rules of a table's rows that need no evaluation:
the next row number, the order rows are kept in, and the labels and faults
of broken constraints.
-/

namespace SqlMapper.Database

/-- What a running statement reads and changes. -/
structure Runtime where
  store : Store
  counters : Counters := {}
  seed : Nat := 0
  /-- Whether a failure keeps the changes made before it. -/
  keep : Bool := false
  /-- The triggers running, so that none fires itself again. -/
  running : List String := []
  /-- Whether a transaction is open, so that deferred keys wait for its end. -/
  inTransaction : Bool := false
  deriving Inhabited

/-- Running a statement: it changes the runtime and may fail, the runtime
keeping what was done before the failure. -/
abbrev RunM := ExceptT Fault (StateM Runtime)

/-- The fault of a statement that nests deeper than it can go. -/
def tooManyLevels : Fault := operational "too many levels of trigger recursion"

/-- Runs an evaluation in a context, with the runtime's database and counters. -/
def evalIn {α : Type} (base : Context) (act : Context → EvalM α) : RunM α := do
  let rt ← get
  let ctx := { base with store := rt.store, counters := rt.counters }
  match (act ctx).run rt.seed with
  | .ok (a, seed) =>
    modify fun r => { r with seed }
    pure a
  | .error f => throw f

/-- Fails with the fault of a failed result. -/
def liftRun {α : Type} (x : Except Fault α) : RunM α :=
  match x with
  | .ok a => pure a
  | .error f => throw f

/-- The row a select sees for a stored row. -/
def Row.source (r : Row) : SourceRow := { values := r.values, rowid := some r.rowid }

/-- The context that evaluates a table's own expressions on a row. -/
def Context.ofRow (base : Context) (r : Row) : Context := { base with selects := [{ sources := [r.source] }] }

/-- Resolves an expression of a table definition against the table's row. -/
def resolveRowExpr (store : Store) (t : TableDef) (purpose : Purpose) (e : Expr) : Except Fault Term :=
  let env : Env := { store, scopes := [{ depth := 0, sources := [t.targetView t.name] }], next := 1, purpose }
  let act : ResolveM Term := do
    let (term, _) ← Resolve.expr 1000 env e
    Resolve.settle
    match (← get).late with
    | some f => throw f
    | none => pure term
  act.run' {}

/-- Evaluates an expression of a table definition on a row. -/
def rowValue (base : Context) (t : TableDef) (purpose : Purpose) (e : Expr) (r : Row) : RunM Datum := do
  let term ← liftRun (resolveRowExpr (← get).store t purpose e)
  evalIn (base.ofRow r) fun ctx => ctx.value term

/-- The default value of a column, with the column's affinity; `NULL` when it has none. -/
def columnDefault (base : Context) (t : TableDef) (i : Nat) : RunM Datum := do
  let c := t.column i
  match c.default with
  | some (e, _) =>
    let term ← liftRun (resolveRowExpr (← get).store t .query e)
    let v ← evalIn { base with selects := [] } fun ctx => ctx.value term
    pure (v.withAffinity c.affinity)
  | none => pure .null

/-- Puts a row in its place by row number. -/
def insertSorted (rows : List Row) (r : Row) : List Row :=
  let (before, after) := rows.span (·.rowid < r.rowid)
  before ++ r :: after

/-- The largest row number. -/
def largestRowid : Int := maxInteger

/-- The row number a new row takes: one more than the largest in use, 1 in
an empty table (or, for a table that never reuses them, at least one more
than the largest ever used); none when the largest possible is taken. -/
def nextRowid (s : Store) (t : Table) : Option Int :=
  let top := match t.rows with
    | [] => 0
    | r :: rest => rest.foldl (fun m r => max m r.rowid) r.rowid
  let top := if t.info.autoincrement then max top (s.sequenceOf t.info.name) else top
  if top < largestRowid then some (top + 1)
  else if t.info.autoincrement then none
  else ((List.range 1000).map (fun (k : Nat) => (k : Int) + 1)).find? fun n => !t.rows.any (·.rowid == n)

/-- The fault of a unique key broken, naming its columns. -/
def uniqueFault (labels : List String) : Fault :=
  integrity ("UNIQUE constraint failed: " ++ ", ".intercalate labels)

/-- The labels of an index's columns in messages, or the index itself when it has expressions. -/
def IndexDef.labels (ix : IndexDef) (t : TableDef) : List String :=
  if ix.parts.any (fun p => match p.term with
      | .expr _ => true
      | .column _ => false) then ["index '" ++ ix.name ++ "'"]
  else ix.parts.map fun p => match p.term with
    | .column i => t.columnLabel i
    | .expr _ => ""

/-- The fault of a `NULL` in a column that refuses it. -/
def notNullFault (t : TableDef) (i : Nat) : Fault := integrity ("NOT NULL constraint failed: " ++ t.columnLabel i)

/-- The fault of a check that failed. -/
def checkFault (label : String) : Fault := integrity ("CHECK constraint failed: " ++ label)

/-- The fault of a foreign key broken. -/
def foreignKeyFault : Fault := integrity "FOREIGN KEY constraint failed"

/-- The fault of a value a strict column cannot hold. -/
def strictFault (t : TableDef) (i : Nat) (d : Datum) : Fault :=
  let kind := match d with
    | .integer _ => "INT"
    | .real _ => "REAL"
    | .text _ => "TEXT"
    | .blob _ => "BLOB"
    | .null => "NULL"
  integrity ("cannot store " ++ kind ++ " value in " ++ (t.column i).declared ++ " column " ++ t.columnLabel i)

/-- A value stored in a column of a strict table: converted as its type
allows without loss, or refused. -/
def strictValue (t : TableDef) (i : Nat) (d : Datum) : Except Fault Datum :=
  if d.isNull then pure d
  else
    let c := t.column i
    match upperWord c.declared with
    | "INT" | "INTEGER" =>
      match d.withAffinity .integer with
      | .integer n => pure (.integer n)
      | _ => throw (strictFault t i d)
    | "REAL" =>
      match d.withAffinity .real with
      | .integer n => pure (.real (integerFloat n))
      | .real x => pure (.real x)
      | _ => throw (strictFault t i d)
    | "TEXT" =>
      match d.withAffinity .text with
      | .text bs => pure (.text bs)
      | _ => throw (strictFault t i d)
    | "BLOB" =>
      match d with
      | .blob _ => pure d
      | _ => throw (strictFault t i d)
    | _ => pure d

/-- A value given for a column, converted by the column's affinity. -/
def TableDef.convert (t : TableDef) (i : Nat) (d : Datum) : Datum :=
  if t.strict then d else d.withAffinity (t.column i).affinity

/-- A value given for the row number: an integer after numeric conversion. -/
def rowidValue (d : Datum) : Except Fault Int :=
  match d.withAffinity .numeric with
  | .integer n => pure n
  | _ => throw (integrity "datatype mismatch")

end SqlMapper.Database
