import SqlMapper.Query.Build
import SqlMapper.Sql.Writer
import SqlMapper.Schema.ColumnValue
import SqlMapper.Dialect.ColumnType

/-!
# Clauses every query writes

The parts that queries of several kinds share: the common table expressions
in front, the list of tables, the WHERE clause, and RETURNING.

The WHERE clause joins the query's conditions, each in parentheses and each
after the first preceded by its own separator; filtering by key adds one
condition on the keys of the bound instances, and a table with a soft-delete
column adds the test of that column last. Keys are compared one by one for
one instance, and as a list of keys for a list of instances.
-/

namespace SqlMapper

open SqlMapper.Schema SqlMapper.Text

namespace Query

/-- The fault of writing a query that is bound to no database. -/
def unbound : Fault :=
  .configuration "query is not bound to a database (use db.new_select() or .conn(db))"

/-- The dialect of the database a query is bound to. -/
def dialectIn (q : Query) (fr : Frame) : Except Fault Dialect :=
  if q.bound then pure fr.dialect else throw unbound

/-- The condition that selects the rows of the bound instances by key. -/
def pkCondition (q : Query) : Except Fault Fragment := do
  let some s := q.schema | throw (.configuration "where_pk requires a model")
  if s.pks.isEmpty then throw (.configuration ("table " ++ displayString s.name ++ " does not have a primary key"))
  let insts := q.instances
  if insts.isEmpty then throw (.configuration "where_pk requires a model instance (or a list of instances)")
  let keys ← insts.mapM fun inst => do
    let key := s.pks.map (·.getValue inst)
    if key.any (· matches .none) then
      throw (.configuration ("where_pk: " ++ inst.typeName ++ " has an empty primary key"))
    pure key
  let columns : List Value := s.pks.map fun pk => .fragment (.column pk.name none)
  if !q.boundList then
    let first := keys.head?.getD []
    pure (.template (" AND ".intercalate (columns.map fun _ => "? = ?"))
      ((columns.zip first).flatMap fun (c, v) => [c, v]) "")
  else
    match columns with
    | [c] => pure (.template "? IN (?)" [c, .fragment (.within (keys.map fun k => k.head?.getD .none))] "")
    | _ => pure (.template "(?) IN (?)" [.fragment (.within columns),
        .fragment (.within (keys.map fun k => .fragment (.template "(?)" [.fragment (.within k)] "")))] "")

/-- Whether rows are marked deleted instead of removed. -/
def isSoftDelete (q : Query) : Bool :=
  match q.clauses, q.schema with
  | .delete force, some s => s.softDeleteColumn.isSome && !force
  | _, _ => false

/-- The test of the soft-delete column that the query's visibility asks for, if any. -/
def softDeleteCondition (q : Query) : Option Fragment :=
  match q.clauses with
  | .delete true => none
  | _ =>
    match q.schema.bind (·.softDeleteColumn), q.visibility with
    | none, _ | _, .withDeleted => none
    | some c, .deletedOnly => some (.template "? IS NOT NULL" [.fragment (.column c.name none)] "")
    | some c, .live => some (.template "? IS NULL" [.fragment (.column c.name none)] "")

/-- Writes the WHERE clause; `required` when the statement must have a condition. -/
def writeWhere (p : Painter) (fr : Frame) (q : Query) (required : Bool := false) : SqlM Unit := do
  let conds ← if q.wherePk then pure (q.wheres ++ [← q.pkCondition]) else pure q.wheres
  if required && conds.isEmpty then
    throw (.configuration (q.className ++
      " requires at least one WHERE condition (use where_pk or where(\"TRUE\"))"))
  let deleted := q.softDeleteCondition
  if conds.isEmpty && deleted.isNone then return
  fr.write " WHERE "
  p.conditions fr conds
  if let some d := deleted then
    if !conds.isEmpty then fr.write " AND "
    p.fragment fr d

/-- Writes the common table expressions in front of a statement. -/
def writeWith (p : Painter) (fr : Frame) (q : Query) : SqlM Unit := do
  if q.ctes.isEmpty then return
  let d ← q.dialectIn fr
  if !d.supportsCte then throw (.configuration (d.name ++ " does not support WITH"))
  fr.write "WITH "
  fr.writeJoined ", " (fun (name, sub) => do
    fr.writeIdent name
    fr.write " AS "
    p.value fr sub) q.ctes
  fr.write " "

/-- Writes the bound table (aliased, when `withAlias` and the alias is not the
table's name) and the other tables; whether there was any. -/
def writeTables (p : Painter) (fr : Frame) (q : Query) (withAlias : Bool := true) : SqlM Bool := do
  let mut wrote := false
  match q.customTable, q.schema with
  | some t, _ =>
    p.fragment fr t
    wrote := true
  | none, some s =>
    fr.writeIdent s.name
    let a := fr.aliasName.getD s.aliasName
    if withAlias && a != s.name then
      fr.write " AS "
      fr.writeIdent a
    wrote := true
  | none, none => pure ()
  for t in q.tables do
    if wrote then fr.write ", "
    p.fragment fr t
    wrote := true
  pure wrote

/-- Writes the RETURNING clause of fragments. -/
def writeReturningOf (p : Painter) (fr : Frame) (d : Dialect) (fs : List Fragment) : SqlM Unit := do
  if fs.isEmpty then return
  if !d.supportsReturning then throw (.configuration (d.name ++ " does not support RETURNING"))
  fr.write " RETURNING "
  p.list fr ", " fs

/-- Writes the query's RETURNING clause. -/
def writeReturning (p : Painter) (fr : Frame) (q : Query) : SqlM Unit := do
  if q.returning.isEmpty then return
  writeReturningOf p fr (← q.dialectIn fr) q.returning

end Query

end SqlMapper
