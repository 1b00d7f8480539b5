import SqlMapper.Query.Clause

/-!
# Writing table definitions

Creating a table lists each column with its SQL type, `NOT NULL` for keys
and columns that do not allow `None`, and `UNIQUE` where declared; a generated
key has the dialect's own definition. The keys form the primary key, and
foreign keys follow: the given ones, then, when asked, one per relation
that belongs to its target.

Dropping tables names the model's table and the other tables, with the
cascade option where the dialect has it.
-/

namespace SqlMapper

open SqlMapper.Schema

namespace Query

/-- The foreign keys of the relations of a table that belong to their targets. -/
def relationForeignKeys (cat : Catalog) (s : TableSchema) : Except Fault (List Fragment) := do
  let mut out := []
  for r in s.relations do
    if (← r.kind cat) != .belongsTo then continue
    let pairs ← r.joinPairs cat
    let target ← r.joinSchema cat
    out := out ++ [Fragment.template "(?) REFERENCES ? (?)"
      [.fragment (.within (pairs.map fun (b, _) => .fragment (.ident b.name))),
       .fragment (.ident target.name),
       .fragment (.within (pairs.map fun (_, j) => .fragment (.ident j.name)))] ""]
  pure out

/-- Writes the creation of a table. -/
def writeCreate (p : Painter) (fr : Frame) (q : Query) (c : CreateClauses) : SqlM Unit := do
  let some s := q.schema | throw (.configuration "create table requires a model")
  let d ← q.dialectIn fr
  fr.write "CREATE TABLE "
  if c.ifNotExists then fr.write "IF NOT EXISTS "
  fr.writeIdent s.name
  fr.write " ("
  fr.writeJoined ", " (fun col => do
    if col.autoincrement then fr.write (d.autoincrementDefinition col.name)
    else
      fr.writeIdent col.name
      fr.write " "
      fr.write (← d.sqlType col)
      if col.pk || !col.nullable then fr.write " NOT NULL"
    if col.unique then fr.write " UNIQUE") s.columns
  if !s.pks.isEmpty then
    fr.write ", PRIMARY KEY ("
    fr.write (", ".intercalate (s.pks.map fun pk => d.quoteIdentifier pk.name))
    fr.write ")"
  let related ← if c.withForeignKeys then relationForeignKeys fr.catalog s else pure []
  let fks := c.foreignKeys ++ related
  for fk in fks do
    fr.write ", FOREIGN KEY "
    p.fragment fr fk
  fr.write ")"

/-- Writes the dropping of tables. -/
def writeDrop (p : Painter) (fr : Frame) (q : Query) (c : DropClauses) : SqlM Unit := do
  if q.schema.isNone && q.tables.isEmpty then throw (.configuration "drop table requires a model or a table")
  fr.write "DROP TABLE "
  if c.ifExists then fr.write "IF EXISTS "
  discard (q.writeTables p fr false)
  if c.cascade then
    if (← q.dialectIn fr).supportsDropTableCascade then fr.write " CASCADE"

end Query

end SqlMapper
