import SqlMapper.Query.Clause
import SqlMapper.Model.Zero

/-!
# Writing inserts, updates and deletes

An insert lists its columns once and one parenthesized row of values per
bound instance; a generated key column is left out when no row gives it a
value, and written as the default where one row lacks it. Expressions given
for a column replace its values in every row. A conflict clause that updates
sets every inserted column but the keys from the proposed row unless it is
given assignments; where the database generates keys and can return them,
the insert returns them.

An update assigns the given expressions, else every column but the keys from
the bound instance (the chosen ones, and without those holding the zero of
their type when zeros are left out), and needs a condition.

A delete on a table with a soft-delete column marks the rows with the clock's
time instead of removing them, unless it is forced; it needs a condition.
-/

namespace SqlMapper

open SqlMapper.Schema SqlMapper.Text

namespace Query

/-- The column of a name in a table, or the fault that it has none. -/
def requireColumn (s : TableSchema) (name : Value) : Except Fault Column := do
  let n ← stringArg name "lower"
  match s.column? n with
  | some c => pure c
  | none => throw (.configuration (s.cls.name ++ " does not have column " ++ name.display))

/-- Whether an expression is given for a column name. -/
def hasValue (values : List (Value × Fragment)) (name : String) : Bool :=
  values.any fun e => Value.same e.1 (.str name)

/-- The expression given for a column name, if any. -/
def valueFor? (values : List (Value × Fragment)) (name : Value) : Option Fragment :=
  (values.find? fun e => Value.same e.1 name).map (·.2)

/-- The model columns named, each looked up in the table, or all the given ones when none are. -/
def namedColumns (s : TableSchema) (names? : Option (List Value)) (all : List Column) : Except Fault (List Column) :=
  match names? with
  | none => pure all
  | some names => names.mapM (requireColumn s)

/-- Whether the database generates a column's value in every row: a generated key that no
expression replaces and that every instance leaves none. -/
def generatedInEveryRow (q : Query) (c : InsertClauses) (col : Column) : Bool :=
  col.autoincrement && !hasValue c.values.entries col.name && q.instances.all fun i => (col.getValue i).isNone

/-- The inserted model columns. -/
def insertColumns (q : Query) (c : InsertClauses) : Except Fault (List Column) := do
  let some s := q.schema | pure []
  let columns ← namedColumns s c.columns s.columns
  pure (columns.filter fun col => !q.generatedInEveryRow c col)

/-- The names an insert lists: its columns', then each name given an expression that none of
them has exactly. -/
def insertNames (columns : List Column) (values : List (Value × Fragment)) : List Value :=
  let own : List Value := columns.map fun col => .str col.name
  own ++ (values.map (·.1)).filter fun n => !own.any (Value.same n)

/-- The rows an insert writes: one per instance, or one of defaults when it is bound to none. -/
def insertRows (q : Query) : List Value := if q.instances.isEmpty then [.none] else q.instances

/-- The key columns that the database generates for at least one row. -/
def generatedColumns (q : Query) (c : InsertClauses) : List Column :=
  match q.schema with
  | none => []
  | some s =>
    s.pks.filter fun col =>
      col.autoincrement && !hasValue c.values.entries col.name && q.instances.any fun i => (col.getValue i).isNone

/-- What an insert returns: the given fragments, none for a lone `NULL`, else
the generated keys where the dialect can return them. -/
def insertReturning (q : Query) (c : InsertClauses) (d : Dialect) : List Fragment :=
  match q.returning with
  | [.template t _ _] => if upper t == "NULL" then [] else q.returning
  | [] => if d.supportsReturning then (q.generatedColumns c).map fun col => .ident col.name else []
  | fs => fs

/-- Writes the conflict clause of an insert. -/
def writeConflict (p : Painter) (fr : Frame) (q : Query) (c : InsertClauses) (d : Dialect) (names : List Value) :
    SqlM Unit := do
  match c.conflict with
  | none =>
    if c.ignore && !d.supportsInsertIgnore then fr.write " ON CONFLICT DO NOTHING"
  | some on =>
    let template := match on with
      | .template t _ _ => t
      | _ => ""
    let clause := upper (trim template)
    let conflict := clause.startsWith "CONFLICT"
    if conflict && !d.supportsOnConflict then throw (.configuration (d.name ++ " does not support ON CONFLICT"))
    if clause.startsWith "DUPLICATE KEY" && !d.supportsOnDuplicateKey then
      throw (.configuration (d.name ++ " does not support ON DUPLICATE KEY UPDATE"))
    fr.write " ON "
    p.fragment fr on
    if !clause.endsWith "UPDATE" then return
    let lead := if conflict then " SET " else " "
    if !c.sets.isEmpty then
      fr.write lead
      p.list fr ", " c.sets
      return
    let pkNames := (q.schema.map fun s => s.pks.map (·.name)).getD []
    let updated := names.filter fun n => !pkNames.any fun k => Value.same (.str k) n
    if updated.isEmpty then throw (.configuration "nothing to update on conflict (use set)")
    fr.write lead
    fr.writeJoined ", " (fun n => do
      let quoted := d.quoteIdentifier (← stringArg n "split")
      fr.write (if conflict then quoted ++ " = EXCLUDED." ++ quoted else quoted ++ " = VALUES(" ++ quoted ++ ")")) updated

/-- The value of a column in the row of an instance; none in the row of defaults. -/
def rowValue (inst : Value) (col : Column) : Value :=
  match inst with
  | .none => .none
  | _ => col.getValue inst

/-- Whether the row of an instance leaves a generated key to the database: it holds none
there. -/
def leavesDefault (inst : Value) (col : Column) : Bool :=
  (rowValue inst col).isNone && col.autoincrement

/-- Writes the entry of a row of an insert under a listed name: the expression given for the
name, else the value the row holds for the column of that name, or the default where the row
leaves a generated key none. -/
def writeInsertEntry (p : Painter) (fr : Frame) (c : InsertClauses) (d : Dialect) (columns : List Column)
    (inst : Value) (n : Value) : SqlM Unit := do
  match valueFor? c.values.entries n with
  | some f => p.fragment fr f
  | none =>
    match columns.find? fun col => Value.same (.str col.name) n with
    | none => pure ()
    | some col =>
      if leavesDefault inst col then
        fr.write (if d.supportsDefaultKeyword then "DEFAULT" else "NULL")
      else p.value fr (← col.toParam fr.catalog d (rowValue inst col))

/-- Writes one parenthesized row of an insert, an entry per listed name. -/
def writeInsertRow (p : Painter) (fr : Frame) (c : InsertClauses) (d : Dialect) (columns : List Column)
    (names : List Value) (inst : Value) : SqlM Unit := do
  fr.write "("
  fr.writeJoined ", " (writeInsertEntry p fr c d columns inst) names
  fr.write ")"

/-- Writes the listed names of an insert and its rows, or the dialect's row of defaults when
it lists no name. -/
def writeInsertValues (p : Painter) (fr : Frame) (q : Query) (c : InsertClauses) (d : Dialect)
    (columns : List Column) (names : List Value) : SqlM Unit := do
  if names.isEmpty then fr.write d.emptyInsertValues
  else
    fr.write " ("
    let quoted ← names.mapM fun n => return d.quoteIdentifier (← stringArg n "split")
    fr.write (", ".intercalate quoted)
    fr.write ") VALUES "
    fr.writeJoined ", " (writeInsertRow p fr c d columns names) q.insertRows

/-- Writes an insert. -/
def writeInsert (p : Painter) (fr : Frame) (q : Query) (c : InsertClauses) : SqlM Unit := do
  let d ← q.dialectIn fr
  if q.schema.isNone && q.tables.isEmpty then throw (.configuration "insert requires a model or a table")
  if c.ignore && !(d.supportsInsertIgnore || d.supportsOnConflict) then
    throw (.configuration (d.name ++ " does not support ignoring conflicts"))
  q.writeWith p fr
  fr.write "INSERT "
  if c.ignore && d.supportsInsertIgnore then fr.write "IGNORE "
  fr.write "INTO "
  discard (q.writeTables p fr false)
  let columns ← q.insertColumns c
  let names := insertNames columns c.values.entries
  q.writeInsertValues p fr c d columns names
  q.writeConflict p fr c d names
  writeReturningOf p fr d (q.insertReturning c d)

end Query

namespace UpdateClauses

/-- The model columns an update assigns: the data columns, or the ones named. -/
def assignedColumns (c : UpdateClauses) (s : TableSchema) : Except Fault (List Column) :=
  Query.namedColumns s c.columns s.dataColumns

/-- The assignment of an assigned column: the expression given for its exact name, else its
value, left out when zeros are left out and it holds none or the zero of its type. -/
def columnAssignment (c : UpdateClauses) (cat : Catalog) (inst : Value) (col : Column) :
    Option (String × Option Fragment × Option Column) :=
  match Query.valueFor? c.values.entries (.str col.name) with
  | some f => some (col.name, some f, some col)
  | none =>
    let v := col.getValue inst
    if c.omitZero && (v.isNone || Value.same v (cat.zeroOf col.base)) then none
    else some (col.name, none, some col)

/-- Adds the assignment of an expression given for a name that no assignment has yet, when
the name is no column of the table. -/
def addGiven (s : TableSchema) (out : List (String × Option Fragment × Option Column))
    (entry : Value × Fragment) : Except Fault (List (String × Option Fragment × Option Column)) := do
  if out.any fun (k, _, _) => Value.same (.str k) entry.1 then return out
  let name ← stringArg entry.1 "lower"
  pure (if (s.column? name).isNone then out ++ [(name, some entry.2, none)] else out)

end UpdateClauses

namespace Query

/-- The assignments of an update without given ones: a column name with the
expression given for it, or with the column whose value the instance holds. -/
def assignments (fr : Frame) (q : Query) (c : UpdateClauses) :
    Except Fault (List (String × Option Fragment × Option Column)) := do
  match q.schema, q.instances with
  | some s, inst :: _ =>
    let columns ← c.assignedColumns s
    c.values.entries.foldlM (UpdateClauses.addGiven s) (columns.filterMap (c.columnAssignment fr.catalog inst))
  | _, _ =>
    if c.values.entries.isEmpty then throw (.configuration "update requires set() or a model instance")
    c.values.entries.mapM fun (n, f) => return (← stringArg n "split", some f, none)

/-- Writes the target of an update: its `WITH` clause, then `UPDATE` and the model's table
under its alias, or the first of the tables when there is no model; the other tables are
given back for the `FROM` clause. -/
def writeUpdateTarget (p : Painter) (fr : Frame) (q : Query) : SqlM (List Fragment) := do
  if q.schema.isNone && q.tables.isEmpty then throw (.configuration "update requires a model or a table")
  q.writeWith p fr
  fr.write "UPDATE "
  match q.schema with
  | some s =>
    fr.writeIdent s.name
    let a := fr.aliasName.getD s.aliasName
    if a != s.name then
      fr.write " AS "
      fr.writeIdent a
    pure q.tables
  | none =>
    match q.tables with
    | t :: rest =>
      p.fragment fr t
      pure rest
    | [] => pure []

/-- Writes one assignment of an update: the name, then the expression given for it or the
parameter of the bound instance's value of its column. -/
def writeAssignment (p : Painter) (fr : Frame) (q : Query) (a : String × Option Fragment × Option Column) :
    SqlM Unit := do
  fr.writeIdent a.1
  fr.write " = "
  match a.2.1, a.2.2 with
  | some f, _ => p.fragment fr f
  | none, some col =>
    p.value fr (← col.toParam fr.catalog (← q.dialectIn fr) (col.getValue (q.instances.head?.getD .none)))
  | none, none => pure ()

/-- Writes the assignments of an update: the ones given with `set`, else those of its
columns and of the expressions given for names. -/
def writeAssignments (p : Painter) (fr : Frame) (q : Query) (c : UpdateClauses) : SqlM Unit := do
  if !c.sets.isEmpty then p.list fr ", " c.sets
  else
    let parts ← q.assignments fr c
    if parts.isEmpty then throw (.configuration "update has nothing to set")
    fr.writeJoined ", " (q.writeAssignment p fr) parts

/-- Writes an update. -/
def writeUpdate (p : Painter) (fr : Frame) (q : Query) (c : UpdateClauses) : SqlM Unit := do
  let tables ← q.writeUpdateTarget p fr
  fr.write " SET "
  q.writeAssignments p fr c
  if !tables.isEmpty then
    fr.write " FROM "
    p.list fr ", " tables
  q.writeWhere p fr true
  q.writeReturning p fr

/-- Writes a delete, or the update that marks rows deleted. -/
def writeDelete (p : Painter) (fr : Frame) (q : Query) : SqlM Unit := do
  if q.schema.isNone && q.tables.isEmpty then throw (.configuration "delete requires a model or a table")
  q.writeWith p fr
  match q.isSoftDelete, q.schema.bind (·.softDeleteColumn) with
  | true, some col =>
    fr.write "UPDATE "
    discard (q.writeTables p fr)
    fr.write " SET "
    fr.writeIdent col.name
    fr.write " = "
    p.value fr (← col.toParam fr.catalog (← q.dialectIn fr) (.datetime fr.clock))
  | _, _ =>
    fr.write "DELETE FROM "
    discard (q.writeTables p fr)
  q.writeWhere p fr true
  q.writeReturning p fr

end Query

end SqlMapper
