import SqlMapper.Session.Scan

/-!
# Running writing queries

An insert, update or delete runs its statement and then writes what the
database decided back onto the instances bound to it.

An insert that returns columns reads every returned row and fills the
instances from them in order, the columns no field takes left aside; when
the rows are not as many as the instances (some were ignored on a conflict)
nothing is filled. An insert that returns nothing fills the one generated
key column from the row number of the last row inserted: the rows got
consecutive numbers ending there, provided every instance lacked a key and
every row was inserted.

An update that returns columns fills the first instance from the first
returned row. A delete that marks rows deleted sets the time it recorded on
every instance.

Resetting a model drops its table when there is one and creates it again.
-/

namespace SqlMapper

open SqlMapper.Schema

namespace Session

/-- The class of an instance, as an annotation. -/
def classTy (v : Value) : Ty :=
  match v with
  | .object c _ => .cls c
  | _ => .any

/-- Fills instances from returned rows, pairing them in order. -/
def fillFrom (c : Catalog) (names : List String) (rows : List (List Value)) (insts : List Value) :
    Except Fault (List Value) := do
  let plan ← RowPlan.build c (classTy (insts.headD .none)) names false
  (insts.zip rows).mapM fun (i, r) => plan.fill c i r

/-- Fills the generated key column of instances from the row number of the last row inserted. -/
def fillGenerated (c : Catalog) (d : Dialect) (cur : Cursor) (col : Column) (insts : List Value) :
    Except Fault (List Value) := do
  let n : Int := insts.length
  if cur.lastRowid == 0 || cur.rowcount != n || insts.any (fun i => !(col.getValue i matches .none)) then
    return insts
  let first := if d.lastRowIdIsFirstRow then cur.lastRowid else cur.lastRowid - n + 1
  insts.zipIdx.mapM fun (i, k) => do
    let v ← col.parse c (.int (first + k))
    pure (i.setAttr (".".intercalate col.path) v)

/-- Calls the hook after a write on the bound instances as written, and
gives them as the hook left them. -/
def afterWrite (hook : String) (q : Query) (result : Cursor × List Value) : SessionM (Cursor × List Value) := do
  let q ← callHook hook (q.withInstances result.2)
  pure (result.1, if result.2.isEmpty then result.2 else q.instances)

/-- What an insert writes back onto its bound instances from the cursor of
its statement, giving the cursor with the rows it read taken out. -/
def insertWriteBack (c : Catalog) (d : Dialect) (q : Query) (cur : Cursor) : Except Fault (Cursor × List Value) := do
  let insts := q.instances
  let .insert clauses := q.clauses | return (cur, insts)
  if insts.isEmpty then return (cur, insts)
  if !(q.insertReturning clauses d).isEmpty then
    let names := cur.columnNames
    let rows := cur.rows
    let cur := { cur with rows := [] }
    if names.isEmpty || rows.length != insts.length then return (cur, insts)
    return (cur, ← fillFrom c names rows insts)
  match q.generatedColumns clauses with
  | [col] => return (cur, ← fillGenerated c d cur col insts)
  | _ => return (cur, insts)

/-- Runs an insert after its hook, giving its cursor and the bound instances
with what the database generated. -/
def writeInsert (e : Executor) (q : Query) : SessionM (Cursor × List Value) := do
  let cur ← runQuery e q
  let s ← get
  lift (insertWriteBack s.catalog s.dialect q cur)

/-- Runs an update after its hook, giving its cursor and the bound
instances, the first filled from the first returned row. -/
def writeUpdate (e : Executor) (q : Query) : SessionM (Cursor × List Value) := do
  let cur ← runQuery e q
  let insts := q.instances
  if q.returning.isEmpty || insts.isEmpty then return (cur, insts)
  match cur.rows with
  | [] => return (cur, insts)
  | row :: rest =>
    let cur := { cur with rows := rest }
    if cur.columnNames.isEmpty then return (cur, insts)
    let filled ← lift (fillFrom (← cat) cur.columnNames [row] (insts.take 1))
    return (cur, filled ++ insts.drop 1)

/-- Runs a delete after its hook, giving its cursor and the bound instances,
marked with the time recorded when rows are marked deleted instead of
removed. -/
def writeDelete (e : Executor) (q : Query) : SessionM (Cursor × List Value) := do
  let cur ← runQuery e q
  let insts := q.instances
  match q.isSoftDelete, q.schema.bind (·.softDeleteColumn) with
  | true, some col =>
    let stamp := Value.datetime (← get).clock
    return (cur, insts.map (·.setAttr (".".intercalate col.path) stamp))
  | _, _ => return (cur, insts)

/-- Runs a writing query between the hooks of its kind: its recorded fault
first, then the hook before, the statement, and the hook after on the
instances as written. -/
def write (before after : String) (run : Executor → Query → SessionM (Cursor × List Value))
    (e : Executor) (q : Query) : SessionM (Cursor × List Value) := do
  if let some f := q.fault then throw f
  let q ← callHook before q
  afterWrite after q (← run e q)

/-- Runs an insert between its hooks. -/
def insert : Executor → Query → SessionM (Cursor × List Value) := write "before_insert" "after_insert" writeInsert

/-- Runs an update between its hooks. -/
def update : Executor → Query → SessionM (Cursor × List Value) := write "before_update" "after_update" writeUpdate

/-- Runs a delete between its hooks. -/
def delete : Executor → Query → SessionM (Cursor × List Value) := write "before_delete" "after_delete" writeDelete

/-- Drops the table of a model class if there is one and creates it again. -/
def reset (e : Executor) (c : ClassRef) : SessionM Unit := do
  let model := Step.call "model" [.type (.cls c)]
  let drop ← configure (Query.new .dropTable) [model, .call "if_exists" [], .call "cascade" []]
  discard (runQuery e drop)
  let create ← configure (Query.new .createTable) [model]
  discard (runQuery e create)

end Session

end SqlMapper
