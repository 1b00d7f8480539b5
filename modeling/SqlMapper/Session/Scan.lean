import SqlMapper.Session.Basic
import SqlMapper.Rows.Map

/-!
# Scanning selects and loading relations

A scan runs a select and maps its rows into destinations, the bound model
when none is given. When rows came back and the select names relations, the
relations to many rows are then loaded onto the table instances of the
result, and onto the instances those hold through relations to one row,
which the select itself joined.

A relation to many rows is loaded by one follow-up select of its target
table for all the parents at once. Every parent's list starts empty; the
parents are grouped by their key, those with a `None` in it left out, and
the follow-up keeps the rows whose join columns hold one of the keys, in the
order the keys first appear. It loads the relations below the one it loads,
applies the relation's own condition and order, then the calls that shape
it. Each row becomes a child that joins the list of every parent with its
key. A many-to-many relation reads the parents' keys through the junction
table, joined to the target rows, and returns them as extra columns that
are split off before the rows are mapped.
-/

namespace SqlMapper

open SqlMapper.Schema SqlMapper.Text

mutual

/-- The calls that name a join again under a path, with its restricted
columns and the joins below it, in a query of the table it starts from. -/
def Join.copyAs : Join → String → List Step
  | ⟨_, _, _, _, shape, columns, children⟩, path =>
    let restricted := match columns with
      | some cols => (if cols.isEmpty then ["_"] else cols).map fun n => Step.relation [.str (path ++ "." ++ n)] none
      | none => []
    [.relation [.str path] shape] ++ restricted ++ Join.copyBelow children (path ++ ".")

/-- The calls that name joins again below a path prefix. -/
def Join.copyBelow : List Join → String → List Step
  | [], _ => []
  | j :: rest, prefix_ => j.copyAs (prefix_ ++ j.relation.name) ++ Join.copyBelow rest prefix_

end

/-- Whether a value is an instance of an entity class. -/
def Value.isTableInstance : Value → Bool
  | .object c _ => c.sort == .table
  | _ => false

/-- An instance with one attribute set. -/
def Value.setAttr (v : Value) (name : String) (x : Value) : Value :=
  match v with
  | .object c fields =>
    if fields.any (·.1 == name) then .object c (fields.map fun (n, old) => if n == name then (n, some x) else (n, old))
    else .object c (fields ++ [(name, some x)])
  | _ => v

/-- An instance with a value added to the list one of its attributes holds. -/
def Value.appendAttr (v : Value) (name : String) (x : Value) : Value :=
  match Column.attributeOf v name with
  | .list items => v.setAttr name (.list (items ++ [x]))
  | _ => v

/-- Whether two keys are equal, value by value. -/
def sameKey (a b : List Value) : Bool :=
  a.length == b.length && (a.zip b).all fun (x, y) => Value.same x y

/-- Places in a list grouped by their keys, in the order the keys first
appear; places whose key holds a `None` are left out. -/
def groupByKey (keys : List (List Value)) : List (List Value × List Nat) :=
  keys.zipIdx.foldl (fun groups (k, i) =>
    if k.any (· matches .none) then groups
    else match groups.findIdx? (fun g => sameKey g.1 k) with
      | some j => groups.modify j fun g => (g.1, g.2 ++ [i])
      | none => groups ++ [(k, [i])]) []

/-- Adds each child to the list attribute of the parents whose key it has. -/
def attachChildren (name : String) (groups : List (List Value × List Nat)) (parents : List Value)
    (children : List (List Value × Value)) : List Value :=
  children.foldl (fun ps (key, child) =>
    match groups.find? (fun g => sameKey g.1 key) with
    | some (_, places) => places.foldl (fun ps i => ps.modify i (·.appendAttr name child)) ps
    | none => ps) parents

/-- The arguments of the condition that key columns hold one of the keys:
`? IN (?)` for one column, `(?) IN (?)` for several. -/
def keyFilter (columns : List Fragment) (keys : List (List Value)) : List Value :=
  match columns with
  | [c] => [.str "? IN (?)", .fragment c, .fragment (.within (keys.map fun k => k.headD .none))]
  | _ => [.str "(?) IN (?)", .fragment (.within (columns.map .fragment)),
      .fragment (.within (keys.map fun k => .fragment (.template "(?)" [.fragment (.within k)] "")))]

namespace Query

/-- The relations a select loads. -/
def relationJoins (q : Query) : List Join :=
  match q.clauses with
  | .select c => c.relations
  | _ => []

/-- Whether a select's columns were given. -/
def hasColumns (q : Query) : Bool :=
  match q.clauses with
  | .select c => c.columns.isSome
  | _ => false

end Query

namespace Session

/-- The statement of a query. -/
def statementOf (q : Query) : SessionM SqlMapper.Statement := do
  let s ← get
  lift (q.toSql s.catalog s.dialect s.clock)

/-- Runs a query on an executor. -/
def runQuery (e : Executor) (q : Query) : SessionM Cursor := do
  let st ← statementOf q
  execute e st.text st.params

/-- Calls a hook of a query, recording the hooks that ran in the session
even when one fails, and gives the query as the hook left it. -/
def callHook (name : String) (q : Query) : SessionM Query := do
  let (calls, outcome) := q.callHook (← cat) name
  modify fun s => { s with hookCalls := s.hookCalls ++ calls }
  lift outcome

/-- Applies calls to a query. -/
def configure (q : Query) (steps : List Step) : SessionM Query := do
  lift (q.run (← cat) steps)

/-- The follow-up select of a relation to many rows, before its key condition. -/
def followUp (j : Join) : SessionM Query := do
  let target ← lift (j.relation.targetClass (← cat))
  let own := (j.relation.filter.filter (!·.isEmpty)).toList.map (fun w => Step.call "where" [.str w]) ++
    (j.relation.order.filter (!·.isEmpty)).toList.map (fun o => Step.call "order_expr" [.str o])
  configure (Query.new .select)
    ([.call "model" [.type (.generic .list [target])]] ++ Join.copyBelow j.children "" ++ own ++ j.shape.getD [])

/-- The items of a list value. -/
def itemsOf : Value → List Value
  | .list items => items
  | _ => []

mutual

/-- Loads the relations to many rows below `joins` onto `parents`, and below
the relations to one row onto the instances those hold. -/
def loadRelations : Nat → Executor → List Join → List Value → SessionM (List Value)
  | 0, _, _, _ => throw .recursion
  | fuel + 1, e, joins, parents => do
    if parents.isEmpty then return parents
    let c ← cat
    let mut ps := parents
    for j in joins do
      let kind ← lift (j.relation.kind c)
      if kind.isToOne then
        let related := ps.zipIdx.filterMap fun (p, i) => match Column.attributeOf p j.relation.name with
          | .none => none
          | r => some (i, r)
        let loaded ← loadRelations fuel e j.children (related.map (·.2))
        ps := (related.zip loaded).foldl (fun acc ((i, _), r) => acc.modify i (·.setAttr j.relation.name r)) ps
      else if kind == .manyToMany then ps ← loadManyToMany fuel e j ps
      else ps ← loadHasMany fuel e j ps
    pure ps

/-- Loads a one-to-many relation onto parents. -/
def loadHasMany : Nat → Executor → Join → List Value → SessionM (List Value)
  | 0, _, _, _ => throw .recursion
  | fuel + 1, e, j, parents => do
    let pairs ← lift (j.relation.joinPairs (← cat))
    let name := j.relation.name
    let parents := parents.map (·.setAttr name (.list []))
    let groups := groupByKey (parents.map fun p => pairs.map fun (b, _) => b.getValue p)
    if groups.isEmpty then return parents
    let q ← followUp j
    let q ← configure q [.call "where" (keyFilter (pairs.map fun (_, c) => .column c.name none) (groups.map (·.1)))]
    let (children, _) ← scanWithKeys fuel e q []
    pure (attachChildren name groups parents (children.map fun ch => (pairs.map fun (_, c) => c.getValue ch, ch)))

/-- Loads a many-to-many relation onto parents. -/
def loadManyToMany : Nat → Executor → Join → List Value → SessionM (List Value)
  | 0, _, _, _ => throw .recursion
  | fuel + 1, e, j, parents => do
    let c ← cat
    let (basePairs, joinPairs) ← lift (j.relation.m2mPairs c)
    let junction ← lift (j.relation.junctionSchema c)
    let name := j.relation.name
    let parents := parents.map (·.setAttr name (.list []))
    let groups := groupByKey (parents.map fun p => basePairs.map fun (pk, _) => pk.getValue p)
    if groups.isEmpty then return parents
    let q ← followUp j
    let keyNames := basePairs.map fun (_, jc) => "__m2m_" ++ jc.name
    let all : List Step := if q.hasColumns then [] else [.call "column_expr" [.str "?TableColumns"]]
    let keys : List Step := (basePairs.zip keyNames).map fun ((_, jc), k) =>
      .call "column_expr" [.str "? AS ?", .fragment (.column jc.name (some junction.aliasName)), .fragment (.ident k)]
    let through : List Step :=
      [.call "join" [.str "JOIN ? AS ?", .fragment (.ident junction.name), .fragment (.ident junction.aliasName)]] ++
      joinPairs.map fun (pk, jc) =>
        .call "join_on" [.str "? = ?", .fragment (.column jc.name (some junction.aliasName)), .fragment (.column pk.name none)]
    let filter : Step := .call "where"
      (keyFilter (basePairs.map fun (_, jc) => .column jc.name (some junction.aliasName)) (groups.map (·.1)))
    let q ← configure q (all ++ keys ++ through ++ [filter])
    let (children, raw) ← scanWithKeys fuel e q keyNames
    let keyed ← lift ((children.zip raw).mapM fun (ch, values) => do
      let key ← (basePairs.zip values).mapM fun ((pk, _), v) => pk.parse c v
      pure (key, ch))
    pure (attachChildren name groups parents keyed)

/-- Runs a select into a list of its model, splitting off the columns named
`keyNames`, which give each row's key; loads the select's relations onto the
instances. -/
def scanWithKeys : Nat → Executor → Query → List String → SessionM (List Value × List (List Value))
  | 0, _, _, _ => throw .recursion
  | fuel + 1, e, q, keyNames => do
    let q ← callHook "before_select" q
    let cur ← runQuery e q
    let names := cur.columnNames
    let lowered := names.map lower
    let keyPlaces ← keyNames.mapM fun k => match lowered.idxOf? (lower k) with
      | some i => pure i
      | none => throw (.badValue ("'" ++ lower k ++ "' is not in list"))
    let keep := (List.range names.length).filter (!keyPlaces.contains ·)
    let kept := keep.map fun i => names.getD i ""
    let rows := cur.rows.map fun row => keep.map (row.getD · .none)
    let models ← lift ((mapRows (← cat) kept rows [.type (.generic .list q.modelType?.toList)]).mapError (·.fault))
    let keys := cur.rows.map fun row => keyPlaces.map (row.getD · .none)
    let items := itemsOf models
    let items ← if items.isEmpty || q.relationJoins.isEmpty then pure items
      else loadRelations fuel e q.relationJoins items
    discard (callHook "after_select" q)
    return (items, keys)

end

/-- How many nested calls loading relations may make: the interpreter's limit
on nested calls, which stops loading when hooks keep adding relations to the
queries that load them. -/
def recursionLimit : Nat := 1000

/-- Loads relations onto the table instances of a scan result: the items of
a list, or the result itself. -/
def withRelations (e : Executor) (joins : List Join) (result : Value) : SessionM Value :=
  match result with
  | .list items => do
    let places := items.zipIdx.filter (·.1.isTableInstance)
    let loaded ← loadRelations recursionLimit e joins (places.map (·.1))
    pure (.list ((places.zip loaded).foldl (fun acc ((_, i), v) => acc.set i v) items))
  | v =>
    if v.isTableInstance then do
      let loaded ← loadRelations recursionLimit e joins [v]
      pure (loaded.headD v)
    else pure v

/-- Maps rows into destinations; when the mapping fails after extending a
list instance given as the destination, `keep` first records the list as the
mapping left it. -/
def mapRowsKeeping (keep : Value → SessionM Unit) (names : List String) (rows : List (List Value))
    (dests : List Value) (element : Option Ty) : SessionM Value := do
  match mapRows (← cat) names rows dests element with
  | .ok v => pure v
  | .error failure => do
    if let some left := failure.extended then keep left
    throw failure.fault

/-- Runs a select and maps its rows into destinations, the bound model when
none is given, loading the relations it names; `keep` records a list instance
that a failing mapping left extended. -/
def scan (e : Executor) (q : Query) (dests : List Value) (keep : Value → SessionM Unit := fun _ => pure ()) :
    SessionM Value := do
  let fillsModel := dests.isEmpty
  let dests ← if !dests.isEmpty then pure dests else
    match q.model with
    | some m => pure [m]
    | none => throw (.configuration "scan requires a destination or a model")
  let hooked := q.schema.isSome
  let q ← if hooked then callHook "before_select" q else pure q
  let cur ← runQuery e q
  let result ← mapRowsKeeping keep cur.columnNames cur.rows dests q.modelType?
  let result ← if cur.rows.isEmpty || q.relationJoins.isEmpty then pure result
    else withRelations e q.relationJoins result
  if !hooked then return result
  -- a lone instance scanned into is the instance the hook after the select runs on
  let filled := fillsModel && (q.model matches some (.object ..)) && (result matches .object ..)
  let after ← callHook "after_select" (if filled then q.withTarget result else q)
  return if filled then after.instances.headD result else result

/-- The number of rows a select matches, ignoring its order and paging. -/
def count (e : Executor) (q : Query) : SessionM Int := do
  let s ← get
  let st ← lift (q.countSql s.catalog s.dialect s.clock)
  let cur ← execute e st.text st.params
  match cur.rows.head? with
  | some (.int n :: _) => pure n
  | some (.float x :: _) => pure (Float.toInt64 x).toInt
  | _ => pure 0

/-- Whether a select matches any row. -/
def «exists» (e : Executor) (q : Query) : SessionM Bool := do
  let st ← statementOf q
  let cur ← execute e ("SELECT EXISTS (" ++ st.text ++ ")") st.params
  match cur.rows.head? with
  | some (v :: _) => pure v.truthy
  | _ => pure false

end Session

end SqlMapper
