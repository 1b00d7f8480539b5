import SqlMapper.Query.Clause

/-!
# Writing a select

A select is written in a fixed order: common table expressions, `SELECT`,
`DISTINCT [ON]`, the columns, the tables, the joins of relations that link to
one row, the explicit joins, WHERE, GROUP BY, HAVING, ORDER BY, the paging
tail, the locking clause and the set operations.

The columns are the chosen ones or every column of the model (`*` without
one), followed by those of each joined relation as `"alias"."col" AS
"alias__col"`. A relation's columns are the ones its shaping calls select,
else the ones its path restricts it to, else all of them; the shaping calls'
conditions join the ON clause. A joined table with a soft-delete column only
joins its live rows unless the query sees deleted rows too.

Counting replaces the columns by `count(*)` and drops order, paging and
locking; a grouped, distinct or combined select is counted as a sub-query.
-/

namespace SqlMapper

open SqlMapper.Schema

/-- An entry of a select list: a fragment of the query's own, or one written
for a joined table under its alias. -/
inductive SelectEntry where
  | own (f : Fragment)
  | scoped (f : Fragment) (table : TableSchema) (aliasName : String)

namespace Join

/-- The joins among these that link to one row, each followed by those below
it, in order; relations loaded by a follow-up query are left out with what hangs from them. -/
def toOne (cat : Catalog) : List Join → Except Fault (List Join)
  | [] => pure []
  | ⟨rel, target, aliasName, baseAlias, shape, columns, children⟩ :: rest => do
    let below ← toOne cat children
    let after ← toOne cat rest
    if ← rel.isToOne cat then pure (⟨rel, target, aliasName, baseAlias, shape, columns, children⟩ :: below ++ after)
    else pure after

/-- The select of the related table as the relation's shaping calls leave it, if there are any. -/
def applied (cat : Catalog) (j : Join) : Except Fault (Option Query) :=
  match j.shape with
  | none => pure none
  | some steps => do
    let target ← j.relation.targetClass cat
    let q ← (Query.new .select).bindModel cat (.type target)
    return some (← q.run cat steps)

/-- The select-list entries of a joined relation. -/
def columnEntries (cat : Catalog) (j : Join) : Except Fault (List SelectEntry) := do
  let aliased (name : String) : SelectEntry :=
    .own (.template "? AS ?" [.fragment (.column name (some j.aliasName)), .fragment (.ident (j.aliasName ++ "__" ++ name))] "")
  let fallback : List SelectEntry := match j.columns with
    | some names => names.map aliased
    | none => j.target.columns.map fun c => aliased c.name
  match ← j.applied cat with
  | some q =>
    match q.clauses with
    | .select { columns := some cols, .. } =>
      pure (cols.map fun f => match f with
        | .ident n =>
          match j.target.column? n with
          | some c => aliased c.name
          | none => .scoped f j.target j.aliasName
        | _ => .scoped f j.target j.aliasName)
    | _ => pure fallback
  | none => pure fallback

/-- Writes the head of a relation's `LEFT JOIN`: the joined table under the join's alias, `ON`
the join columns of that alias equal to those of the alias it hangs from. -/
def writeOn (fr : Frame) (j : Join) : SqlM Unit := do
  let cat := fr.catalog
  fr.write " LEFT JOIN "
  fr.writeIdent j.target.name
  fr.write " AS "
  fr.writeIdent j.aliasName
  fr.write " ON ("
  let pairs ← j.relation.joinPairs cat
  fr.writeJoined " AND " (fun (base, col) => do
    fr.writeColumn col.name (some j.aliasName)
    fr.write " = "
    fr.writeColumn base.name (some j.baseAlias)) pairs
  fr.write ")"

/-- Writes the rest of a join condition: the conditions of the relation's shaping calls, and
for a table with a soft-delete column, unless deleted rows are seen, that the row is live. -/
def writeConditions (p : Painter) (fr : Frame) (withDeleted : Bool) (j : Join) : SqlM Unit := do
  let t := j.target
  if let some q ← j.applied fr.catalog then
    if !q.wheres.isEmpty then
      fr.write " AND ("
      p.conditions (fr.nested t (some j.aliasName)) q.wheres
      fr.write ")"
  if let some sd := t.softDeleteColumn then
    if !withDeleted then
      fr.write " AND "
      fr.writeColumn sd.name (some j.aliasName)
      fr.write " IS NULL"

/-- Writes the `LEFT JOIN` of a relation with its join condition. -/
def write (p : Painter) (fr : Frame) (withDeleted : Bool) (j : Join) : SqlM Unit := do
  j.writeOn fr
  j.writeConditions p fr withDeleted

end Join

/-- Whether a count of the select is taken over it as a sub-query: when it is
grouped, distinct or combined with other selects. -/
def SelectClauses.wrapsCount (c : SelectClauses) : Bool :=
  !c.groups.isEmpty || c.distinct || !c.distinctOn.isEmpty || !c.setOps.isEmpty

/-- The clauses of a select without its ordering, paging and locking. -/
def SelectClauses.unordered (c : SelectClauses) : SelectClauses :=
  { c with orders := [], limit := 0, offset := 0, lock := none }

namespace Query

/-- Writes the select list. -/
def writeColumns (p : Painter) (fr : Frame) (q : Query) (c : SelectClauses) : SqlM Unit := do
  let cat := fr.catalog
  let base : List SelectEntry := match c.columns, q.schema with
    | some cols, _ => cols.map .own
    | none, some s => s.columns.map fun col => .own (.ident col.name)
    | none, none => [.own (.safe "*")]
  let mut entries := base
  for j in ← Join.toOne cat c.relations do
    entries := entries ++ (← j.columnEntries cat)
  fr.writeJoined ", " (fun e => match e with
    | .own (.ident n) =>
      match q.schema.bind (·.column? n) with
      | some col => fr.writeColumn col.name
      | none => p.fragment fr (.ident n)
    | .own f => p.fragment fr f
    | .scoped f t a => p.fragment (fr.nested t (some a)) f) entries

/-- A paging count, none when zero. -/
def paging (n : Int) : Option Int := if n == 0 then none else some n

/-- Writes the start of a select: `SELECT` and its `DISTINCT [ON]`, opening the
parenthesis of a select combined with others where the dialect writes one. -/
def writeSelectHead (p : Painter) (fr : Frame) (c : SelectClauses) (d : Dialect) (paren : Bool) : SqlM Unit := do
  if paren then fr.write "("
  fr.write "SELECT "
  if !c.distinctOn.isEmpty then
    if !d.supportsDistinctOn then throw (.configuration (d.name ++ " does not support DISTINCT ON"))
    fr.write "DISTINCT ON ("
    p.list fr ", " c.distinctOn
    fr.write ") "
  else if c.distinct then fr.write "DISTINCT "

/-- Writes the tables a select reads, when it reads any. -/
def writeFrom (p : Painter) (fr : Frame) (q : Query) : SqlM Unit := do
  if q.customTable.isSome || q.schema.isSome || !q.tables.isEmpty then
    fr.write " FROM "
    discard (q.writeTables p fr)

/-- Writes the `LEFT JOIN`s of the relations a select joins that link to one row, in order. -/
def writeRelationJoins (p : Painter) (fr : Frame) (q : Query) (c : SelectClauses) : SqlM Unit := do
  for j in ← Join.toOne fr.catalog c.relations do
    j.write p fr (q.visibility == .withDeleted)

/-- Writes a select after its joined relations, from the explicit joins to the set operations;
a count leaves out ordering, paging and locking. -/
def writeSelectRest (p : Painter) (fr : Frame) (q : Query) (c : SelectClauses) (d : Dialect) (paren count : Bool) :
    SqlM Unit := do
  for jc in c.joins do
    fr.write " "
    p.fragment fr jc.join
    if !jc.on.isEmpty then
      fr.write " ON "
      p.conditions fr jc.on
  q.writeWhere p fr
  if !c.groups.isEmpty then
    fr.write " GROUP BY "
    p.list fr ", " c.groups
  if !c.havings.isEmpty then
    fr.write " HAVING "
    fr.writeJoined " AND " (fun h => do
      fr.write "("
      p.fragment fr h
      fr.write ")") c.havings
  if !count then
    if !c.orders.isEmpty then
      fr.write " ORDER BY "
      p.list fr ", " c.orders
    fr.write (d.limitOffset (paging c.limit) (paging c.offset))
    if let some l := c.lock then
      fr.write " FOR "
      p.fragment fr l
  if !c.setOps.isEmpty then
    if paren then fr.write ")"
    for (op, other) in c.setOps do
      fr.write op
      if paren then fr.write "("
      p.query fr other
      if paren then fr.write ")"

/-- Writes a select after its select list, from the tables to the set operations;
a count leaves out ordering, paging and locking. -/
def writeSelectTail (p : Painter) (fr : Frame) (q : Query) (c : SelectClauses) (d : Dialect) (paren count : Bool) :
    SqlM Unit := do
  q.writeFrom p fr
  q.writeRelationJoins p fr c
  q.writeSelectRest p fr c d paren count

/-- Writes a select, or its count. -/
def writeSelect (p : Painter) (fr : Frame) (q : Query) (c : SelectClauses) (count : Bool) : SqlM Unit := do
  let d ← q.dialectIn fr
  let wrap := count && c.wrapsCount
  let paren := !c.setOps.isEmpty && d.supportsParenthesizedSetOperations
  q.writeWith p fr
  if wrap then fr.write "SELECT count(*) FROM ("
  writeSelectHead p fr c d paren
  if count && !wrap then fr.write "count(*)" else q.writeColumns p fr c
  q.writeSelectTail p fr c d paren count
  if wrap then
    fr.write ") AS "
    fr.writeIdent "_count_wrapper"

/-- A select without its ordering, paging and locking, which its count leaves out;
any other query as it is. -/
def unordered (q : Query) : Query :=
  match q.clauses with
  | .select c => { q with clauses := .select c.unordered }
  | _ => q

end Query

end SqlMapper
