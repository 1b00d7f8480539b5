import SqlMapper.Service.Request
import SqlMapper.Schema.Relation
import SqlMapper.Schema.ColumnValue
import SqlMapper.Dialect.ColumnType

/-!
# Schemas, columns and dialects in answers

Answers to requests that look at the parts of the library one by one: the
schemas of entity classes with their columns and relations, the operations of
one column, and the operations of one dialect. Each part that can fail on its
own is answered as its own item, so that one failure hides nothing else.
-/

namespace SqlMapper.Service

open SqlMapper.Json SqlMapper.Schema SqlMapper.Text

/-- A text or null. -/
def optionalDoc : Option String → Doc
  | some s => .str s
  | none => .null

/-- The answer form of a column. -/
def columnDoc (c : Column) : Doc :=
  .obj [("name", .str c.name), ("str", .str c.name), ("path", .arr (c.path.map .str)),
    ("attribute", .str (".".intercalate c.path)), ("python_type", tyDoc c.base), ("nullable", .bool c.nullable),
    ("default", valueDoc c.default), ("pk", .bool c.pk), ("autoincrement", .bool c.autoincrement),
    ("soft_delete", .bool c.softDelete), ("is_json", .bool c.isJson), ("unique", .bool c.unique),
    ("nullzero", .bool c.nullzero), ("sql_type", optionalDoc c.sqlType)]

/-- Pairs of columns by their names. -/
def pairsDoc (pairs : List (Column × Column)) : Doc :=
  .arr (pairs.map fun (a, b) => .arr [.str a.name, .str b.name])

/-- The answer form of a relation, with each resolved part as its own item. -/
def relationDoc (cat : Catalog) (r : Relation) : Doc :=
  let plain : List (String × Doc) :=
    [("name", .str r.name), ("target", tyDoc r.target), ("to_many", .bool r.toMany), ("nullable", .bool r.nullable),
      ("declared_kind", optionalDoc (r.declaredKind.map RelationKind.name)),
      ("join", .arr (r.join.map fun (a, b) => .arr [.str a, .str b])), ("m2m", optionalDoc r.junction),
      ("order", optionalDoc r.order), ("where", optionalDoc r.filter), ("str", .str r.label),
      ("target_type", itemDoc ((r.targetClass cat).map tyDoc)),
      ("kind", itemDoc ((r.kind cat).map fun k => .str k.name)),
      ("is_to_one", itemDoc ((r.isToOne cat).map .bool)),
      ("join_pairs", itemDoc ((r.joinPairs cat).map pairsDoc))]
  let junction : List (String × Doc) :=
    if r.toMany || r.junction.isSome then
      [("m2m_table", itemDoc ((r.junctionSchema cat).map fun s => .str s.name)),
        ("m2m_pairs", itemDoc ((r.m2mPairs cat).map fun (a, b) => .arr [pairsDoc a, pairsDoc b]))]
    else []
  .obj (plain ++ junction)

/-- The answer form of a table schema, with the columns found for each looked-up name. -/
def schemaDoc (cat : Catalog) (s : TableSchema) (lookup : List String) : Doc :=
  let names (cs : List Column) : Doc := .arr (cs.map fun c => .str c.name)
  .obj [("name", .str s.name), ("alias", .str s.aliasName), ("str", .str s.name),
    ("columns", .arr (s.columns.map columnDoc)), ("pks", names s.pks), ("data_columns", names s.dataColumns),
    ("soft_delete_column", optionalDoc (s.softDeleteColumn.map (·.name))),
    ("nested", names (s.columns.filter fun c => c.isJson && c.base.isStructure)),
    ("relations", .arr (s.relations.map (relationDoc cat))),
    ("lookup", .obj (lookup.map fun n => (n, optionalDoc ((s.column? n).map (·.name)))))]

/-- The strings of a request member that lists names. -/
def namesField (req : Doc) (key : String) : List String :=
  match req.get? key with
  | some (.arr items) => items.filterMap Doc.str?
  | _ => []

/-- Answers a request for the schemas of classes. -/
def describeRequest (req : Doc) : Except Fault Doc := do
  let cat ← requestCatalog req
  let specs := match req.get? "tables" with
    | some (.arr items) => items
    | _ => []
  let lookup := namesField req "lookup"
  pure (.arr (specs.map fun spec => itemDoc do
    let (t, _) ← readSpec cat spec
    let s ← cat.schemaOf t
    pure (schemaDoc cat s lookup)))

/-- The schema of the entity class a request member names. -/
def schemaField (cat : Catalog) (req : Doc) (key : String) : Except Fault TableSchema := do
  let (t, _) ← readSpec cat (← field req key)
  cat.schemaOf t

/-- Answers one call on a column. -/
def columnCall (cat : Catalog) (c : Column) (call : Doc) : Except Fault Doc := do
  let scope : Scope := { catalog := cat, vars := [], hasDatabase := false }
  match call with
  | .arr (.str name :: args) =>
    let args ← args.mapM scope.read
    match name, args with
    | "parse", [v] => return valueDoc (← c.parse cat v)
    | "to_param", [v, .str scheme] =>
      match Dialect.ofScheme? scheme with
      | some d => return valueDoc (← c.toParam cat d v)
      | none => throw (.badValue ("Unsupported database scheme: " ++ scheme))
    | "get_value", [v] => pure (valueDoc (c.getValue v))
    | "parse", _ => throw ((Fault.arity? "Column.parse" ["value"] 0 args.length).getD (.badValue "bad call"))
    | "to_param", _ => throw ((Fault.arity? "Column.to_param" ["value", "dialect"] 0 args.length).getD
        (.badValue "bad call"))
    | "get_value", _ => throw ((Fault.arity? "Column.get_value" ["instance"] 0 args.length).getD
        (.badValue "bad call"))
    | other, _ => throw (.badValue ("unknown column call " ++ displayString other))
  | _ => throw (.badValue ("unknown column call " ++ call.plain.display))

/-- Answers a request of calls on one column of a table. -/
def columnRequest (req : Doc) : Except Fault Doc := do
  let cat ← requestCatalog req
  let s ← schemaField cat req "table"
  let name ← textField req "column"
  let c ← match s.column? name with
    | some c => pure c
    | none => throw (.missingKey name)
  let calls := match req.get? "calls" with
    | some (.arr cs) => cs
    | _ => []
  pure (.obj [("column", columnDoc c), ("results", .arr (calls.map fun call => itemDoc (columnCall cat c call)))])

end SqlMapper.Service
