import SqlMapper.Database.Schema

/-!
# The stored database

A table holds its definition and its rows in the order of their row numbers.
Besides tables, the database keeps indexes, views and triggers, each made by
a statement whose text it records, and the schema's entries in the order
they were made, each with the number of the page it starts on (views and
triggers have none). `sqlite_sequence`, the table of the highest row numbers
of tables that never use one again, is a table like the others, made with
the first of those tables.

A connection adds the transaction and its savepoints, each with the database
as it was when it opened, so that rolling back returns to it; the row number
of the last row inserted; and the counts of rows the last statement and all
statements changed.
-/

namespace SqlMapper.Database

/-- A stored row: its number and its values, one per column. -/
structure Row where
  rowid : Int
  values : List Datum
  deriving Inhabited

/-- A stored table. -/
structure Table where
  info : TableDef
  rows : List Row
  deriving Inhabited

/-- A view: its name, the names given to its columns, its select and its text. -/
structure ViewDef where
  name : String
  columns : List String
  query : Select
  sql : String
  deriving Inhabited

/-- A trigger: its name, its table, when it runs and on what, its condition,
its statements and its text. -/
structure TriggerDef where
  name : String
  table : String
  time : TriggerTime
  event : TriggerEvent
  condition : Option Expr
  body : List Statement
  sql : String
  deriving Inhabited

/-- An entry of the schema: the kind and name of an object, its table, its
page, and the text of the statement that made it (none for an index a table
definition made). -/
structure SchemaEntry where
  kind : ObjectKind
  name : String
  table : String
  page : Nat
  sql : Option String := none
  deriving Inhabited

/-- The stored database. -/
structure Store where
  tables : List Table := []
  indexes : List IndexDef := []
  views : List ViewDef := []
  triggers : List TriggerDef := []
  /-- The schema's entries, in the order the objects were made. -/
  entries : List SchemaEntry := []
  /-- The page the next table or index starts on. -/
  nextPage : Nat := 2
  userVersion : Int := 0
  /-- Whether foreign keys are enforced. -/
  foreignKeys : Bool := true
  deriving Inhabited

/-- The name of the table of the highest row numbers. -/
def sequenceTable : String := "sqlite_sequence"

/-- Whether a name is one of the names of the schema table. -/
def isSchemaTable (name : String) : Bool :=
  ["SQLITE_MASTER", "SQLITE_SCHEMA", "SQLITE_TEMP_MASTER", "SQLITE_TEMP_SCHEMA"].contains (upperWord name)

/-- Whether stored text is a name, ASCII case ignored. -/
def sameBytesName (bs : List UInt8) (name : String) : Bool :=
  bs.map upperByte == (utf8 name).map upperByte

namespace Store

/-- The table of a name, case ignored. -/
def table? (s : Store) (name : String) : Option Table :=
  s.tables.find? (fun t => sameName t.info.name name)

/-- The view of a name, case ignored. -/
def view? (s : Store) (name : String) : Option ViewDef :=
  s.views.find? (fun v => sameName v.name name)

/-- The index of a name, case ignored. -/
def index? (s : Store) (name : String) : Option IndexDef :=
  s.indexes.find? (fun i => sameName i.name name)

/-- The trigger of a name, case ignored. -/
def trigger? (s : Store) (name : String) : Option TriggerDef :=
  s.triggers.find? (fun t => sameName t.name name)

/-- The table of a name, or the fault that there is none. -/
def table (s : Store) (name : String) : Except Fault Table :=
  match s.table? name with
  | some t => pure t
  | none => throw (operational ("no such table: " ++ name))

/-- The store with a table replaced by its new state. -/
def putTable (s : Store) (t : Table) : Store :=
  { s with tables := s.tables.map fun u => if sameName u.info.name t.info.name then t else u }

/-- The indexes of a table, in the order they were made. -/
def indexesOf (s : Store) (table : String) : List IndexDef :=
  s.indexes.filter fun i => sameName i.table table

/-- The unique indexes of a table in the order rows are checked against them:
the newest first, those whose conflicts replace rows after the others. -/
def uniqueChecks (s : Store) (table : String) : List IndexDef :=
  let unique := (s.indexesOf table).filter (·.unique) |>.reverse
  unique.filter (·.onConflict != some .replace) ++ unique.filter (·.onConflict == some .replace)

/-- The triggers of a table. -/
def triggersOf (s : Store) (table : String) : List TriggerDef :=
  s.triggers.filter fun t => sameName t.table table

/-- Adds an entry to the schema, with a page when the object has one. -/
def addEntry (s : Store) (kind : ObjectKind) (name table : String) (sql : Option String) : Store :=
  let paged := kind == .table || kind == .index
  { s with entries := s.entries ++ [{ kind, name, table, page := if paged then s.nextPage else 0, sql }],
           nextPage := if paged then s.nextPage + 1 else s.nextPage }

/-- Removes the entry of an object from the schema. -/
def dropEntry (s : Store) (kind : ObjectKind) (name : String) : Store :=
  { s with entries := s.entries.filter fun e => !(e.kind == kind && sameName e.name name) }

/-- The table of the highest row numbers, made when it is first needed. -/
def withSequence (s : Store) : Store :=
  if (s.table? sequenceTable).isSome then s
  else
    let nameColumn : Column := { name := "name", declared := "", affinity := .blob }
    let seqColumn : Column := { name := "seq", declared := "", affinity := .blob }
    let info : TableDef := { name := sequenceTable, columns := [nameColumn, seqColumn] }
    let s := { s with tables := s.tables ++ [({ info, rows := [] } : Table)] }
    s.addEntry .table sequenceTable sequenceTable (some "CREATE TABLE sqlite_sequence(name,seq)")

/-- The highest row number recorded for a table. -/
def sequenceOf (s : Store) (table : String) : Int :=
  match s.table? sequenceTable with
  | some t =>
    match t.rows.find? (fun r => match r.values with
      | .text n :: _ => sameBytesName n table
      | _ => false) with
    | some r => match r.values with
      | [_, .integer n] => n
      | [_, d] => d.toInteger
      | _ => 0
    | none => 0
  | none => 0

/-- Records the highest row number of a table, when it grew. -/
def setSequence (s : Store) (table : String) (n : Int) : Store :=
  if n ≤ s.sequenceOf table then s
  else
    match s.table? sequenceTable with
    | none => s
    | some t =>
      let isFor := fun (r : Row) => match r.values with
        | .text m :: _ => sameBytesName m table
        | _ => false
      let rows := if t.rows.any isFor then
          t.rows.map fun r => if isFor r then { r with values := [.ofString table, .integer n] } else r
        else
          let next := (t.rows.map (·.rowid)).foldl max 0 + 1
          t.rows ++ [{ rowid := next, values := [.ofString table, .integer n] }]
      s.putTable { t with rows }

end Store

/-- The state of a connection: its database, and the open transaction as the
savepoints in it, innermost first, each with the database as it was when it
opened; a transaction opened by `BEGIN` is a savepoint without a name. -/
structure Connection where
  store : Store := {}
  marks : List (Option String × Store) := []
  /-- The row number of the last row inserted. -/
  lastRowid : Int := 0
  /-- The rows the last insert, update or delete changed. -/
  changes : Nat := 0
  /-- The rows all statements changed. -/
  totalChanges : Nat := 0
  /-- The state of the source of random numbers. -/
  seed : Nat := 0x2545F4914F6CDD1D
  deriving Inhabited

namespace Connection

/-- Whether a transaction is open. -/
def inTransaction (c : Connection) : Bool := !c.marks.isEmpty

/-- Opens a transaction. -/
def begin (c : Connection) : Except Fault Connection :=
  if c.inTransaction then throw (operational "cannot start a transaction within a transaction")
  else pure { c with marks := [(none, c.store)] }

/-- Ends the open transaction, keeping its changes. -/
def commit (c : Connection) : Except Fault Connection :=
  if !c.inTransaction then throw (operational "cannot commit - no transaction is active")
  else pure { c with marks := [] }

/-- Ends the open transaction, undoing its changes. -/
def rollback (c : Connection) : Except Fault Connection :=
  match c.marks.getLast? with
  | none => throw (operational "cannot rollback - no transaction is active")
  | some (_, s) => pure { c with store := s, marks := [] }

/-- Marks a savepoint, opening a transaction if none is open. -/
def savepoint (c : Connection) (name : String) : Connection :=
  { c with marks := (some name, c.store) :: c.marks }

/-- The position of the innermost savepoint of a name. -/
def markIndex (c : Connection) (name : String) : Except Fault Nat :=
  match c.marks.findIdx? (fun m => (m.1.map (sameName name)).getD false) with
  | some i => pure i
  | none => throw (operational ("no such savepoint: " ++ name))

/-- Forgets a savepoint and those inside it, keeping their changes; the
transaction ends when it was opened by that savepoint. -/
def release (c : Connection) (name : String) : Except Fault Connection := do
  let i ← c.markIndex name
  pure { c with marks := c.marks.drop (i + 1) }

/-- Undoes the changes since a savepoint, which stays. -/
def rollbackTo (c : Connection) (name : String) : Except Fault Connection := do
  let i ← c.markIndex name
  match c.marks[i]? with
  | some (n, s) => pure { c with store := s, marks := (n, s) :: c.marks.drop (i + 1) }
  | none => pure c

end Connection

end SqlMapper.Database
