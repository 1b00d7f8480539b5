import SqlMapper.Query.Basic
import SqlMapper.Model.Validate
import SqlMapper.Value.Coerce
import SqlMapper.Text.Template

/-!
# Configuring queries

A query is built by applying its configuration calls in order. Each kind of
query has its own methods, those of every query (model, conditions, common
table expressions, returning) among them; calling a method a kind does not
have, or with the wrong number of arguments, fails the whole build.

Most methods only record: a template with its arguments (checked to have as
many arguments as positional slots), identifiers, flags, paging. A method
that finds a configuration problem (no model bound, a missing relation)
records it in the query's fault slot instead, and once one is recorded the
other methods do nothing.

A group of conditions is built by running its calls against an empty list of
conditions and adding what they added as one parenthesized group. A relation
path `a.b.c` finds or adds one join per relation along it; a last segment that
is no relation restricts the columns of the join before it, and `_` selects
none of them.
-/

namespace SqlMapper

open SqlMapper.Schema SqlMapper.Text

/-- A value as a string field takes it. -/
def textOf (cat : Catalog) (v : Value) : Except Fault String :=
  match cat.validate (.builtin .str) v with
  | some (.str s) => pure s
  | _ => throw .invalid

/-- The fault of calling a string method on a value that is no string. -/
def noStringMethod (v : Value) (method : String) : Fault :=
  .missingAttribute ("'" ++ v.typeName ++ "' object has no attribute '" ++ method ++ "'")

/-- A string argument that a string method is called on. -/
def stringArg (v : Value) (method : String) : Except Fault String :=
  match v with
  | .str s => pure s
  | _ => throw (noStringMethod v method)

/-- A template with its arguments, which must fill its positional slots exactly. -/
def mkTemplate (cat : Catalog) (template : Value) (args : List Value) (sep : String := "") : Except Fault Fragment := do
  let t ← textOf cat template
  let expected := countPlaceholders t
  if expected ≠ args.length then
    throw (.configuration ("query " ++ displayString t ++ " has " ++ toString expected ++
      " placeholder(s) but " ++ toString args.length ++ " argument(s) were given"))
  pure (.template t args sep)

/-- An identifier fragment of a name. -/
def mkIdent (cat : Catalog) (name : Value) : Except Fault Fragment :=
  return .ident (← textOf cat name)

/-- What a configuration method takes, and where it is declared. -/
structure Signature where
  owner : String
  required : List String
  optional : Nat := 0
  variadic : Bool := false
  /-- Whether the method does nothing once a fault is recorded. -/
  chained : Bool := true

/-- The methods every query has. -/
def baseSignature? : String → Option Signature
  | "conn" => some { owner := "BaseQuery", required := ["db"] }
  | "model" => some { owner := "BaseQuery", required := ["value"] }
  | "apply" => some { owner := "BaseQuery", required := ["fn"], chained := false }
  | "with_" => some { owner := "BaseQuery", required := ["name", "query"] }
  | "where" | "where_or" | "returning" => some { owner := "BaseQuery", required := ["template"], variadic := true }
  | "where_group" => some { owner := "BaseQuery", required := ["sep", "fn"] }
  | "where_pk" | "where_deleted" | "where_all_with_deleted" => some { owner := "BaseQuery", required := [] }
  | _ => none

/-- The operator text of a set operation method. -/
def setOperator? : String → Option String
  | "union" => some " UNION "
  | "union_all" => some " UNION ALL "
  | "intersect" => some " INTERSECT "
  | "intersect_all" => some " INTERSECT ALL "
  | "except_" => some " EXCEPT "
  | "except_all" => some " EXCEPT ALL "
  | _ => none

/-- The methods of one kind of query. -/
def kindSignature? (k : QueryKind) (m : String) : Option Signature :=
  let own := k.builderName
  let names : Option Signature := some { owner := own, required := [], variadic := true }
  let template : Option Signature := some { owner := own, required := ["template"], variadic := true }
  let flag : Option Signature := some { owner := own, required := [] }
  match k, m with
  | .select, "distinct" => flag
  | .select, "distinct_on" | .select, "table_expr" | .select, "model_table_expr" | .select, "column_expr"
  | .select, "group_expr" | .select, "having" | .select, "order_expr" | .select, "for_" | .select, "join"
  | .select, "join_on" | .select, "join_on_or" => template
  | .select, "table" | .select, "column" | .select, "exclude_column" | .select, "group" | .select, "order" => names
  | .select, "limit" => some { owner := own, required := ["n"] }
  | .select, "offset" => some { owner := own, required := ["n"] }
  | .select, "relation" => some { owner := own, required := ["name"], optional := 1 }
  | .select, op =>
    if (setOperator? op).isSome then some { owner := own, required := ["other"], chained := false } else none
  | .insert, "table" | .insert, "column" => names
  | .insert, "value" => some { owner := own, required := ["column", "template"], variadic := true }
  | .insert, "on" | .insert, "set" => template
  | .insert, "ignore" => flag
  | .update, "model" => some { owner := own, required := ["value"] }
  | .update, "table" | .update, "column" => names
  | .update, "table_expr" | .update, "set" => template
  | .update, "value" => some { owner := own, required := ["column", "template"], variadic := true }
  | .update, "omit_zero" => flag
  | .delete, "table" => names
  | .delete, "table_expr" => template
  | .delete, "force_delete" => flag
  | .createTable, "if_not_exists" | .createTable, "with_foreign_keys" => flag
  | .createTable, "foreign_key" => template
  | .dropTable, "table" => names
  | .dropTable, "if_exists" | .dropTable, "cascade" => flag
  | _, _ => none

/-- The signature of a method of a kind of query. -/
def signature? (k : QueryKind) (m : String) : Option Signature :=
  (kindSignature? k m).orElse fun _ => baseSignature? m

/-- The fault of calling a method with the wrong number of arguments, if it is. -/
def Signature.check (s : Signature) (m : String) (given : Nat) : Except Fault Unit :=
  match Fault.arity? (s.owner ++ "." ++ m) s.required (if s.variadic then given else s.optional) given with
  | some f => throw f
  | none => pure ()

/-- Puts a join in the place of the one for the same relation, or after the others. -/
def placeJoin (joins : List Join) (j : Join) : List Join :=
  if joins.any (·.relation.name == j.relation.name) then
    joins.map fun k => if k.relation.name == j.relation.name then j else k
  else joins ++ [j]

/-- Finds or adds the joins along a relation path below `joins`, which start
from `schema`; `parentAlias` is the alias of the join they hang from. -/
def resolvePath (cat : Catalog) (shape : Option (List Step)) (schema : TableSchema)
    (parentAlias : Option String) (joins : List Join) : List String → Except Fault (List Join)
  | [] => pure joins
  | part :: rest =>
    match schema.relation? part with
    | none => throw (.configuration (schema.cls.name ++ " does not have relation " ++ displayString part))
    | some found => do
      let target ← found.joinSchema cat
      let fresh : Join :=
        { relation := found, target := target, aliasName := (parentAlias.map (· ++ "__" ++ found.name)).getD found.name,
          baseAlias := parentAlias.getD schema.aliasName }
      let j : Join := (joins.find? (·.relation.name == found.name)).getD fresh
      let descend : Except Fault Join := do
        let children ← resolvePath cat shape j.target (some j.aliasName) j.children rest
        pure { j with children := children }
      let next : Except Fault Join :=
        match rest with
        | [] => pure (if shape.isSome then { j with shape := shape } else j)
        | [last] =>
          if (j.target.relation? last).isNone then
            pure { j with columns := some (j.columns.getD [] ++ (if last == "_" then [] else [last])) }
          else descend
        | _ => descend
      let j ← next
      pure (placeJoin joins j)

namespace Query

/-- Binds a model: the query's table becomes that of the model's class when it is an entity class. -/
def bindModel (cat : Catalog) (q : Query) (v : Value) : Except Fault Query :=
  match v with
  | .none => pure (q.fail (.configuration "model is None"))
  | _ =>
    let q := { q with model := some v }
    match q.modelType? with
    | some (.cls c) =>
      if c.sort == .table then
        match cat.schema c with
        | .ok s => pure { q with schema := some s }
        | .error (.configuration m) => pure (q.fail (.configuration m))
        | .error f => throw f
      else pure { q with schema := none }
    | _ => pure { q with schema := none }

/-- Changes the clauses of a select. -/
def onSelect (q : Query) (f : SelectClauses → Except Fault SelectClauses) : Except Fault Query :=
  match q.clauses with
  | .select c => return { q with clauses := .select (← f c) }
  | _ => pure q

/-- Changes the clauses of an insert. -/
def onInsert (q : Query) (f : InsertClauses → Except Fault InsertClauses) : Except Fault Query :=
  match q.clauses with
  | .insert c => return { q with clauses := .insert (← f c) }
  | _ => pure q

/-- Changes the clauses of an update. -/
def onUpdate (q : Query) (f : UpdateClauses → Except Fault UpdateClauses) : Except Fault Query :=
  match q.clauses with
  | .update c => return { q with clauses := .update (← f c) }
  | _ => pure q

/-- Leaves out columns by name from a select's columns, all of them for `*`. -/
def excludeColumns (q : Query) (s : TableSchema) (names : List Value) : Except Fault Query :=
  q.onSelect fun c => do
    let current := c.columns.getD (s.columns.map fun col => .ident col.name)
    if names.any (· matches .str "*") then return { c with columns := some [] }
    let excluded ← names.mapM fun n => return lower (← stringArg n "lower")
    pure { c with columns := some (current.filter fun f => match f with
      | .ident n => !excluded.contains (lower n)
      | _ => true) }

/-- The order fragments of names, each optionally followed by a direction. -/
def orderFragments (cat : Catalog) (orders : List Value) : Except Fault (List Fragment) := do
  let mut out := []
  for o in orders do
    if !o.truthy then continue
    let s ← stringArg o "partition"
    let (name, direction) := match s.splitOn " " with
      | first :: more => (first, " ".intercalate more)
      | [] => (s, "")
    let directions := ["ASC", "DESC", "ASC NULLS FIRST", "DESC NULLS FIRST", "ASC NULLS LAST", "DESC NULLS LAST"]
    if !direction.isEmpty && directions.contains (upper direction) then
      out := out ++ [Fragment.template "? ?" [.fragment (.ident name), .fragment (.safe direction)] ""]
    else out := out ++ [← mkIdent cat o]
  pure out

/-- Applies one recorded configuration method. -/
def configure (cat : Catalog) (q : Query) (m : String) (args : List Value) : Except Fault Query := do
  match m, args with
  | "conn", [db] => pure { q with bound := db matches .database }
  | "model", [v] =>
    match q.clauses, v with
    | .update _, .list _ =>
      pure (q.fail (.configuration "update of a list of models is not supported; update them one by one"))
    | _, _ => q.bindModel cat v
  | "with_", [name, sub] => return { q with ctes := q.ctes ++ [(← textOf cat name, sub)] }
  | "where", t :: xs => return { q with wheres := q.wheres ++ [← mkTemplate cat t xs " AND "] }
  | "where_or", t :: xs => return { q with wheres := q.wheres ++ [← mkTemplate cat t xs " OR "] }
  | "where_pk", _ => pure { q with wherePk := true }
  | "where_deleted", _ => pure { q with visibility := .deletedOnly }
  | "where_all_with_deleted", _ => pure { q with visibility := .withDeleted }
  | "returning", t :: xs => return { q with returning := q.returning ++ [← mkTemplate cat t xs ", "] }
  | "table", names => return { q with tables := q.tables ++ (← names.mapM (mkIdent cat)) }
  | "table_expr", t :: xs => return { q with tables := q.tables ++ [← mkTemplate cat t xs] }
  | "model_table_expr", t :: xs => return { q with customTable := some (← mkTemplate cat t xs) }
  | "distinct", _ => q.onSelect fun c => pure { c with distinct := true }
  | "distinct_on", t :: xs => q.onSelect fun c => return { c with distinctOn := c.distinctOn ++ [← mkTemplate cat t xs] }
  | "column", names =>
    match q.clauses with
    | .select c => do
      let added ← names.mapM (mkIdent cat)
      pure { q with clauses := .select { c with columns := some (c.columns.getD [] ++ added) } }
    | .insert c => pure { q with clauses := .insert { c with columns := some (c.columns.getD [] ++ names) } }
    | .update c => pure { q with clauses := .update { c with columns := some (c.columns.getD [] ++ names) } }
    | _ => pure q
  | "column_expr", t :: xs =>
    q.onSelect fun c => return { c with columns := some (c.columns.getD [] ++ [← mkTemplate cat t xs]) }
  | "exclude_column", names =>
    match q.schema with
    | none => pure (q.fail (.configuration "exclude_column requires a model"))
    | some s => q.excludeColumns s names
  | "group", names => q.onSelect fun c => return { c with groups := c.groups ++ (← names.mapM (mkIdent cat)) }
  | "group_expr", t :: xs => q.onSelect fun c => return { c with groups := c.groups ++ [← mkTemplate cat t xs] }
  | "having", t :: xs => q.onSelect fun c => return { c with havings := c.havings ++ [← mkTemplate cat t xs " AND "] }
  | "order", orders => q.onSelect fun c => return { c with orders := c.orders ++ (← orderFragments cat orders) }
  | "order_expr", t :: xs => q.onSelect fun c => return { c with orders := c.orders ++ [← mkTemplate cat t xs] }
  | "limit", [n] => q.onSelect fun c => return { c with limit := ← n.toInt }
  | "offset", [n] => q.onSelect fun c => return { c with offset := ← n.toInt }
  | "for_", t :: xs => q.onSelect fun c => return { c with lock := some (← mkTemplate cat t xs) }
  | "join", t :: xs => q.onSelect fun c => return { c with joins := c.joins ++ [{ join := ← mkTemplate cat t xs }] }
  | "join_on", t :: xs | "join_on_or", t :: xs =>
    match q.clauses with
    | .select c =>
      match c.joins.getLast? with
      | none => pure (q.fail (.configuration "query has no joins"))
      | some last => do
        let cond ← mkTemplate cat t xs (if m == "join_on" then " AND " else " OR ")
        let joins := c.joins.dropLast ++ [{ last with on := last.on ++ [cond] }]
        pure { q with clauses := .select { c with joins := joins } }
    | _ => pure q
  | "value", col :: t :: xs =>
    match q.clauses with
    | .insert c => return { q with clauses := .insert { c with values := c.values.set col (← mkTemplate cat t xs) } }
    | .update c => return { q with clauses := .update { c with values := c.values.set col (← mkTemplate cat t xs) } }
    | _ => pure q
  | "on", t :: xs => q.onInsert fun c => return { c with conflict := some (← mkTemplate cat t xs) }
  | "set", t :: xs =>
    match q.clauses with
    | .insert c => return { q with clauses := .insert { c with sets := c.sets ++ [← mkTemplate cat t xs] } }
    | .update c => return { q with clauses := .update { c with sets := c.sets ++ [← mkTemplate cat t xs] } }
    | _ => pure q
  | "ignore", _ => q.onInsert fun c => pure { c with ignore := true }
  | "omit_zero", _ => q.onUpdate fun c => pure { c with omitZero := true }
  | "force_delete", _ => pure { q with clauses := .delete true }
  | "if_not_exists", _ =>
    match q.clauses with
    | .createTable c => pure { q with clauses := .createTable { c with ifNotExists := true } }
    | _ => pure q
  | "with_foreign_keys", _ =>
    match q.clauses with
    | .createTable c => pure { q with clauses := .createTable { c with withForeignKeys := true } }
    | _ => pure q
  | "foreign_key", t :: xs =>
    match q.clauses with
    | .createTable c => return { q with clauses := .createTable { c with foreignKeys := c.foreignKeys ++ [← mkTemplate cat t xs] } }
    | _ => pure q
  | "if_exists", _ =>
    match q.clauses with
    | .dropTable c => pure { q with clauses := .dropTable { c with ifExists := true } }
    | _ => pure q
  | "cascade", _ =>
    match q.clauses with
    | .dropTable c => pure { q with clauses := .dropTable { c with cascade := true } }
    | _ => pure q
  | op, [other] =>
    match setOperator? op with
    | some text => q.onSelect fun c => pure { c with setOps := c.setOps ++ [(text, other)] }
    | none => pure q
  | _, _ => pure q

/-- The names of a relation path, between its dots. -/
def pathParts (name : String) : List String := (name.toList.splitOn '.').map String.ofList

/-- Adds the joins of a relation path. -/
def relate (cat : Catalog) (q : Query) (path : Value) (shape : Option (List Step)) : Except Fault Query := do
  match q.schema with
  | none => pure (q.fail (.configuration "relation requires a model"))
  | some s =>
    let name ← stringArg path "split"
    match q.clauses with
    | .select c =>
      match resolvePath cat shape s none c.relations (pathParts name) with
      | .ok joins => pure { q with clauses := .select { c with relations := joins } }
      | .error (.configuration msg) => pure (q.fail (.configuration msg))
      | .error f => throw f
    | _ => pure q

/-- The fault of a method that a kind of query does not have. -/
def noMethod (q : Query) (m : String) : Fault :=
  .missingAttribute ("'" ++ q.className ++ "' object has no attribute '" ++ m ++ "'")

/-- Calls a method with its signature's checks: the method must exist, a
chained method does nothing once a fault is recorded, and the arguments must
be as many as it takes. -/
def invoke (q : Query) (m : String) (given : Nat) (body : Unit → Except Fault Query) : Except Fault Query :=
  match signature? q.kind m with
  | none => throw (q.noMethod m)
  | some sig =>
    if sig.chained && q.fault.isSome then pure q
    else do
      sig.check m given
      if q.fault.isSome then pure q else body ()

end Query

mutual

/-- The sub-queries a value holds, outside other sub-queries. -/
def Value.plans : Value → List Plan
  | .query p => [p]
  | .tuple items | .list items | .set items => Value.plansList items
  | .dict entries => Value.plansEntries entries
  | .fragment f => f.plans
  | _ => []

/-- The sub-queries of values. -/
def Value.plansList : List Value → List Plan
  | [] => []
  | v :: rest => v.plans ++ Value.plansList rest

/-- The sub-queries of dictionary entries. -/
def Value.plansEntries : List (Value × Value) → List Plan
  | [] => []
  | (k, v) :: rest => k.plans ++ v.plans ++ Value.plansEntries rest

/-- The sub-queries a fragment holds. -/
def Fragment.plans : Fragment → List Plan
  | .within items => Value.plansList items
  | .template _ args _ => Value.plansList args
  | .group conds _ => Fragment.plansGroup conds
  | _ => []

/-- The sub-queries of fragments. -/
def Fragment.plansGroup : List Fragment → List Plan
  | [] => []
  | f :: rest => f.plans ++ Fragment.plansGroup rest

end

/-- Applies a step to a query, `fuel` levels of nested steps deep. Sub-queries
among a call's arguments are built first, and a failure there fails the step. -/
def runStep : Nat → Catalog → Query → Step → Except Fault Query
  | 0, _, _, _ => throw (.badValue "query nested too deeply")
  | fuel + 1, cat, q, step =>
    match step with
    | .broken f => throw f
    | .call m args => do
      for p in Value.plansList args do
        match p with
        | .mk kind steps => discard (steps.foldlM (runStep fuel cat) (Query.new kind))
      q.invoke m args.length fun _ =>
        match m, args with
        | "where_group", [_, fn] => throw (.badType ("'" ++ fn.typeName ++ "' object is not callable"))
        | "apply", [fn] => throw (.badType ("'" ++ fn.typeName ++ "' object is not callable"))
        | "relation", path :: _ => q.relate cat path none
        | _, _ => q.configure cat m args
    | .group sep steps =>
      q.invoke "where_group" 2 fun _ => do
        let inner ← steps.foldlM (runStep fuel cat) { q with wheres := [] }
        let restored := { inner with wheres := q.wheres }
        if inner.wheres.isEmpty then pure restored
        else return { restored with wheres := q.wheres ++ [.group inner.wheres (← textOf cat sep)] }
    | .apply steps => q.invoke "apply" 1 fun _ => steps.foldlM (runStep fuel cat) q
    | .relation args shape =>
      q.invoke "relation" (args.length + 1) fun _ =>
        match args with
        | path :: _ => q.relate cat path shape
        | [] => pure q

/-- Applies steps to a query. -/
def Query.run (cat : Catalog) (q : Query) (steps : List Step) : Except Fault Query :=
  steps.foldlM (runStep (Step.depthList steps + 2) cat) q

/-- Builds the query of a plan. -/
def Plan.build (cat : Catalog) : Plan → Except Fault Query
  | .mk kind steps => (Query.new kind).run cat steps

end SqlMapper
