import SqlMapper.Query.Select
import SqlMapper.Query.Modify
import SqlMapper.Query.Ddl

/-!
# Rendering queries and fragments

A fragment writes itself: an identifier quoted, trusted text as it is, a column
qualified by its alias, a list of values separated by commas (`NULL` when
empty), a template with its slots filled, a group of conditions in
parentheses. A value that is no fragment is a parameter, except a sub-query,
which is written in parentheses in a frame of its own table.

Fragments hold values and values hold fragments and sub-queries, so writing
is layered: the painter of one level writes the pieces of the level below
with the painter of that level, down to a depth fixed by the nesting of what
is written (`Painter.upTo`).

A query renders to its text and parameters (`Query.toSql`), to its text with
the values inline (`Query.toText`), and a select also to its count
(`Query.countSql`); each reports the query's recorded fault first.
-/

namespace SqlMapper

open SqlMapper.Schema SqlMapper.Text SqlMapper.Calendar

namespace Query

/-- Writes a query's statement, or a select's count, its pieces through `p`. -/
def writeStatement (p : Painter) (fr : Frame) (q : Query) (count : Bool := false) : SqlM Unit := do
  if let some f := q.fault then throw f
  match q.clauses with
  | .select c => q.writeSelect p fr c count
  | .insert c => q.writeInsert p fr c
  | .update c => q.writeUpdate p fr c
  | .delete _ => q.writeDelete p fr
  | .createTable c => q.writeCreate p fr c
  | .dropTable c => q.writeDrop p fr c

end Query

/-- Writes the tokens of a template, filling positional slots with the arguments in order. -/
def writeTokens (p : Painter) (fr : Frame) : List Token → List Value → SqlM Unit
  | [], _ => pure ()
  | .text s :: rest, args => do
    fr.write s
    writeTokens p fr rest args
  | .named slot :: rest, args => do
    fr.writeSlot slot
    writeTokens p fr rest args
  | .positional :: rest, a :: args => do
    p.value fr a
    writeTokens p fr rest args
  | .positional :: _, [] => throw (.badValue "template has more slots than arguments")

/-- Writes a fragment, the values it holds through `p`. -/
def writeFragmentWith (p : Painter) (fr : Frame) : Fragment → SqlM Unit
  | .ident n => fr.writeIdent n
  | .safe s => fr.write s
  | .column n a => fr.writeColumn n a
  | .within [] => fr.write "NULL"
  | .within items => fr.writeJoined ", " (p.value fr) items
  | .template t args _ => writeTokens p fr (tokenize t) args
  | .group conds _ => p.conditions fr conds
  | .base => throw (.unimplemented "Subclasses must implement `append_sql`")

/-- The query of a value that is one. -/
def queryOf (cat : Catalog) (v : Value) (attr : String) : Except Fault Query :=
  match v with
  | .query plan => plan.build cat
  | _ => throw (.missingAttribute ("'" ++ v.typeName ++ "' object has no attribute '" ++ attr ++ "'"))

/-- Writes a query value's statement in a frame of its own table, its pieces through `p`. -/
def writeQueryWith (p : Painter) (fr : Frame) (v : Value) : SqlM Unit := do
  let q ← queryOf fr.catalog v "table_schema"
  q.writeStatement p (fr.nested q.schema)

/-- Writes an argument: a fragment inline, a sub-query in parentheses, any other value as a parameter. -/
def writeValueWith (p : Painter) (fr : Frame) (v : Value) : SqlM Unit :=
  match v with
  | .fragment f => writeFragmentWith p fr f
  | .query _ => do
    fr.write "("
    writeQueryWith p fr v
    fr.write ")"
  | _ => fr.writeParam v

/-- The painter that writes pieces `fuel` levels deep. -/
def Painter.upTo : Nat → Painter
  | 0 =>
    let deep : SqlM Unit := throw (.badValue "statement nested too deeply")
    { value := fun _ _ => deep, fragment := fun _ _ => deep, query := fun _ _ => deep }
  | fuel + 1 =>
    let p := Painter.upTo fuel
    { value := writeValueWith p, fragment := writeFragmentWith p, query := writeQueryWith p }

/-- A painter deep enough for the pieces a query holds. -/
def Query.painter (q : Query) (extra : Nat := 0) : Painter :=
  let stepDepth := fun (steps : List Step) => Step.depthList steps
  let held := Value.depthList (q.wheres.map .fragment ++ q.tables.map .fragment ++ q.returning.map .fragment ++
    q.ctes.map (·.2)) + (q.model.map Value.depth).getD 0
  let clauses := match q.clauses with
    | .select c => Value.depthList (c.distinctOn.map .fragment ++ (c.columns.getD []).map .fragment ++
        c.joins.map (fun j => .fragment j.join) ++ (c.joins.flatMap (·.on)).map .fragment ++
        c.groups.map .fragment ++ c.havings.map .fragment ++ c.orders.map .fragment ++
        (c.lock.toList.map .fragment) ++ c.setOps.map (·.2)) +
        (c.relations.map fun j => (j.shape.map stepDepth).getD 0).foldl max 0
    | .insert c => Value.depthList (c.values.entries.map (·.2) |>.map .fragment) + Value.depthList (c.conflict.toList.map .fragment)
        + Value.depthList (c.sets.map .fragment)
    | .update c => Value.depthList (c.values.entries.map (·.2) |>.map .fragment) + Value.depthList (c.sets.map .fragment)
    | .createTable c => Value.depthList (c.foreignKeys.map .fragment)
    | _ => 0
  Painter.upTo (4 * (held + clauses + extra) + 16)

/-- A frame for writing a query at the top: the query's table, with the alias
its kind writes it under. -/
def Query.frame (q : Query) (cat : Catalog) (d : Dialect) (clock : DateTime) : Frame :=
  let aliasName := match q.clauses, q.schema with
    | .insert _, some s => some s.name
    | .delete _, some s => if !q.isSoftDelete && !d.supportsTableAliasInDelete then some s.name else none
    | _, _ => none
  { catalog := cat, dialect := d, table := q.schema, explicitAlias := aliasName, clock := clock }

/-- Writes a query at the top, or a select's count. -/
def Query.render (q : Query) (cat : Catalog) (d : Dialect) (clock : DateTime) (interpolate count : Bool) :
    Except Fault Statement := do
  if let some f := q.fault then throw f
  if !q.bound then throw Query.unbound
  (q.writeStatement q.painter (q.frame cat d clock) count).statement d interpolate

/-- The text and parameters of a query. -/
def Query.toSql (q : Query) (cat : Catalog) (d : Dialect) (clock : DateTime) : Except Fault Statement :=
  q.render cat d clock false false

/-- The text of a query with its values inline. -/
def Query.toText (q : Query) (cat : Catalog) (d : Dialect) (clock : DateTime) : Except Fault String :=
  return (← q.render cat d clock true false).text

/-- The text and parameters of a select's count, written from the select without
its ordering, paging and locking. -/
def Query.countSql (q : Query) (cat : Catalog) (d : Dialect) (clock : DateTime) : Except Fault Statement :=
  q.unordered.render cat d clock false true

end SqlMapper
