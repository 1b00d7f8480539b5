import SqlMapper.Database.Resolve.Query

/-!
# Resolving statements that write

An insert, update or delete names one stored table, which its own terms see
as a source under its name or alias. Its names are resolved in the order the
database checks them when the statement is prepared: the table (a view or
the schema table cannot be written), then for an insert its columns, its rows
and their number against the columns, the keys its conflict clauses name,
and their assignments; for an update its assignments one by one (each
expression, then the column it sets) and its filter; for a delete its
filter. The columns a statement returns come last, each resolved against the
table alone.

A conflict clause names the key it takes conflicts on: the row number, or a
unique index whose columns are exactly the clause's, in any order, each
under the index's collation unless the clause gives none. The clause's
assignments see the table and, only when qualified, `excluded`: the row that
was to be inserted.

A statement in the body of a trigger sees the trigger's `NEW` and `OLD`
rows, qualified, as the sources of a select around it.
-/

namespace SqlMapper.Database

/-- Where the rows of an insert come from, resolved. -/
inductive RowsPlan where
  | values (rows : List (List Term))
  | query (q : Query)
  | defaults
  deriving Inhabited

/-- The conflicts an upsert takes: any, those on the row number, or those on a unique index. -/
inductive ConflictTarget where
  | any
  | rowid
  | index (name : String)
  deriving Inhabited, BEq

/-- A column an assignment sets: a column by position, or (none) the row number. -/
abbrev SetTarget := Option Nat

/-- What an upsert does with a conflict it takes: nothing, or changes the
row it conflicts with by assignments, where a condition holds. -/
inductive UpsertPlan where
  | nothing (target : ConflictTarget)
  | update (target : ConflictTarget) (sets : List (SetTarget × Term)) (filter : Option Term)
  deriving Inhabited

/-- The conflicts an upsert takes. -/
def UpsertPlan.target : UpsertPlan → ConflictTarget
  | .nothing t => t
  | .update t _ _ => t

/-- The rows a statement returns: their terms and their names. -/
structure ReturningPlan where
  terms : List Term := []
  names : List String := []
  deriving Inhabited

/-- An insert resolved: its table, what a conflict does, the column each
given value is for, its rows, its conflict clauses, what it returns, and
the depth of its own terms. -/
structure InsertPlan where
  table : String
  onError : OnError
  targets : List SetTarget
  rows : RowsPlan
  upserts : List UpsertPlan
  returning : Option ReturningPlan
  depth : Nat
  deriving Inhabited

/-- An update resolved: its table, what a conflict does, its assignments,
the table joined to its other sources, its filter, what it returns, and the
depth of its own terms. -/
structure UpdatePlan where
  table : String
  onError : OnError
  sets : List (SetTarget × Term)
  joins : List JoinPlan
  filter : Option Term
  returning : Option ReturningPlan
  depth : Nat
  deriving Inhabited

/-- A delete resolved: its table, its filter, what it returns, and the depth of its own terms. -/
structure DeletePlan where
  table : String
  filter : Option Term
  returning : Option ReturningPlan
  depth : Nat
  deriving Inhabited

/-- The columns an update sets. -/
def UpdatePlan.changedColumns (p : UpdatePlan) : List Nat := p.sets.filterMap (·.1)

/-- A stored table as a write statement's terms see it. -/
def TableDef.targetView (t : TableDef) (label : String) : SourceView :=
  { name := label, columns := t.sourceColumns, rowid := t.hasRowid, rowidColumn := t.rowidColumn }

/-- The column a name sets: a column of the table, else the row number. -/
def TableDef.setTarget? (t : TableDef) (name : String) : Option SetTarget :=
  match t.columnIndex? name with
  | some i => some (some i)
  | none => if isRowidName name && t.hasRowid then some none else none

/-- The scope of a trigger's body: its `NEW` and `OLD` rows, each reached
only by its name, `NEW` first. -/
def triggerScope (t : TableDef) (hasNew hasOld : Bool) : Scope :=
  let side := fun (present : Bool) (name : String) =>
    if present then { t.targetView name with qualifiedOnly := true }
    else ({ name := "", columns := [], qualifiedOnly := true } : SourceView)
  { depth := 0, sources := [side hasNew "new", side hasOld "old"] }

namespace Resolve

/-- The environment of a statement with its common table expressions. -/
def withCtes (env : Env) (ctes : List Cte) : Env :=
  if ctes.isEmpty then env
  else
    let defs : List CteDef := ctes.map fun (.mk n cols q) =>
      { name := n, columns := cols, select := q, scopes := env.scopes, next := env.next }
    { env with withs := defs :: env.withs }

/-- The table a statement writes, which must be a stored table. -/
def writeTarget (env : Env) (name : String) : ResolveM Table := do
  if isSchemaTable name then fail ("table " ++ name ++ " may not be modified")
  match env.store.table? name with
  | some t => pure t
  | none =>
    if (env.store.view? name).isSome then fail ("cannot modify " ++ name ++ " because it is a view")
    else fail ("no such table: " ++ name)

/-- The column a conflict target's term names, with the collation it gives. -/
def targetColumn (t : TableDef) (it : IndexedTerm) : Option (SetTarget × Option String) :=
  let name := match it.e with
    | .column none none n | .quotedName n => some n
    | _ => none
  name.bind fun n => (t.setTarget? n).map fun s => (s, it.collation)

/-- The key a conflict clause names: the row number, or the first unique
index whose columns are the clause's. -/
def conflictTarget (store : Store) (t : TableDef) (terms : Option (List IndexedTerm)) (filter : Option Expr)
    (position count : Nat) : ResolveM ConflictTarget := do
  match terms with
  | none => pure .any
  | some terms =>
    let cols := terms.map (targetColumn t)
    let isRowid := t.hasRowid && match cols with
      | [some (none, _)] => true
      | [some (some i, _)] => t.rowidColumn == some i
      | _ => false
    if isRowid then return .rowid
    let fits := fun (ix : IndexDef) =>
      ix.unique && ix.parts.length == terms.length && (ix.filter.isNone || filter.isSome) &&
        ix.parts.all fun p => match p.term with
          | .column j => cols.any fun c => match c with
            | some (some i, coll) => i == j && (coll.all fun n => Collation.ofName? n == some p.collation)
            | _ => false
          | .expr _ => false
    match (store.uniqueChecks t.name).find? fits with
    | some ix => pure (.index ix.name)
    | none =>
      let which := if count > 1 then ordinal (position + 1) ++ " " else ""
      fail (which ++ "ON CONFLICT clause does not match any PRIMARY KEY or UNIQUE constraint")

/-- Resolves assignments in the scope of a statement: each expression, then the column it sets. -/
def assignments (fuel : Nat) (env : Env) (t : TableDef) (sets : Assignments) :
    ResolveM (List (SetTarget × Term)) := do
  let mut out : List (SetTarget × Term) := []
  for (names, e) in sets do
    let terms ← match names with
      | [_] => do
        let (term, _) ← expr fuel env e
        settle
        pure [term]
      | _ => do
        let vs ← vector fuel env e
        settle
        if vs.length != names.length then
          fail (toString names.length ++ " columns assigned " ++ toString vs.length ++ " values")
        pure (vs.map (·.1))
    for (n, term) in names.zip terms do
      match t.setTarget? n with
      | some s =>
        if let some i := s then
          if ((t.column i).generated).isSome then
            fail ("cannot UPDATE generated column \"" ++ (t.column i).name ++ "\"")
        out := out ++ [(s, term)]
      | none => fail ("no such column: " ++ n)
  pure out

/-- Resolves the columns a statement returns, against its table alone. -/
def returning (fuel : Nat) (env : Env) (view : SourceView) (cols : List ResultColumn) :
    ResolveM (Option ReturningPlan) := do
  if cols.isEmpty then return none
  let depth := env.next
  let env1 := env.enter { depth, sources := [view] }
  let mut items : List ResultItem := []
  for c in cols do
    match c with
    | .all => items := items ++ (← starItems depth [view] none)
    | .allOf q => items := items ++ (← starItems depth [view] (some q))
    | .expr e al span =>
      let (t, tr) ← expr fuel env1 e
      settle
      items := items ++ [{ term := t, traits := tr, aliasName := al, span }]
  pure (some { terms := items.map (·.term), names := items.map (·.outputName) })

/-- Resolves an insert. -/
def insert (fuel : Nat) (env : Env) (ctes : List Cte) (table : String) (aliasName : Option String)
    (onError : OnError) (columns : Option (List String)) (source : InsertSource) (upserts : List Upsert)
    (ret : List ResultColumn) : ResolveM InsertPlan := do
  let env := withCtes env ctes
  let t ← writeTarget env table
  let info := t.info
  let targets ← match columns with
    | some names => names.mapM fun n => do
      match info.setTarget? n with
      | some s =>
        if let some i := s then
          if ((info.column i).generated).isSome then
            fail ("cannot INSERT into generated column \"" ++ (info.column i).name ++ "\"")
        pure s
      | none => fail ("table " ++ info.name ++ " has no column named " ++ n)
    | none => pure ((info.columns.zipIdx.filter fun (c, _) => c.generated.isNone).map fun (_, i) => some i)
  let (rows, width) ← match source with
    | .values rows => do
      let mut out : List (List Term) := []
      for row in rows do
        let mut ts : List Term := []
        for e in row do
          let (term, _) ← expr fuel env e
          settle
          ts := ts ++ [term]
        if let some first := out.head? then
          if first.length != ts.length then fail "all VALUES must have the same number of terms"
        out := out ++ [ts]
      pure (RowsPlan.values out, (out.head?.map List.length))
    | .select q => do
      let r ← query fuel env q false
      pure (RowsPlan.query r.query, some r.width)
    | .defaults => pure (RowsPlan.defaults, none)
  if let some w := width then
    if w != targets.length then
      match columns with
      | some _ => fail (toString w ++ " values for " ++ toString targets.length ++ " columns")
      | none => fail ("table " ++ info.name ++ " has " ++ toString targets.length ++ " columns but " ++
          toString w ++ " values were supplied")
  let count := upserts.length
  let conflictTargets ← upserts.zipIdx.mapM fun (u, k) =>
    conflictTarget env.store info u.target u.targetFilter k count
  let label := aliasName.getD info.name
  let view := info.targetView label
  let excluded : SourceView := { info.targetView "excluded" with qualifiedOnly := true }
  let envU := env.enter { depth := env.next, sources := [view, excluded] }
  let ups ← (upserts.zip conflictTargets).mapM fun (u, target) => do
    match u.action with
    | .nothing => pure (UpsertPlan.nothing target)
    | .update sets filter => do
      let s ← assignments fuel envU info sets
      let f ← filter.mapM fun e => do
        let (term, _) ← expr fuel envU e
        settle
        pure term
      pure (UpsertPlan.update target s f)
  let r ← returning fuel env view ret
  let targets := match rows with
    | .defaults => []
    | _ => targets
  pure { table := info.name, onError, targets, rows, upserts := ups, returning := r, depth := env.next }

/-- Resolves an update. -/
def update (fuel : Nat) (env : Env) (ctes : List Cte) (table : String) (aliasName : Option String)
    (onError : OnError) (sets : Assignments) (sources : List FromItem) (filter : Option Expr)
    (ret : List ResultColumn) : ResolveM UpdatePlan := do
  let env := withCtes env ctes
  let t ← writeTarget env table
  let info := t.info
  let depth := env.next
  let label := aliasName.getD info.name
  let view := info.targetView label
  let joined ← Resolve.sources fuel env [view] sources
  let views := view :: joined.map (·.view)
  let env1 := env.enter { depth, sources := views }
  let s ← assignments fuel env1 info sets
  let mut joins : List JoinPlan := [.mk .inner (.table info.name) info.columns.length none]
  let mut i := 1
  for j in joined do
    let on ← j.on.mapM fun e => do
      let (term, _) ← expr fuel env1 e
      settle
      pure term
    let us ← j.usingColumns.filterMapM (usingTerm depth views i)
    joins := joins ++ [.mk (if j.kind == .cross then .inner else j.kind) j.plan j.view.columns.length
      (conjoin (us ++ on.toList))]
    i := i + 1
  let f ← filter.mapM fun e => do
    let (term, _) ← expr fuel env1 e
    settle
    pure term
  let r ← returning fuel env view ret
  pure { table := info.name, onError, sets := s, joins, filter := f, returning := r, depth }

/-- Resolves a delete. -/
def delete (fuel : Nat) (env : Env) (ctes : List Cte) (table : String) (aliasName : Option String)
    (filter : Option Expr) (ret : List ResultColumn) : ResolveM DeletePlan := do
  let env := withCtes env ctes
  let t ← writeTarget env table
  let info := t.info
  let depth := env.next
  let view := info.targetView (aliasName.getD info.name)
  let env1 := env.enter { depth, sources := [view] }
  let f ← filter.mapM fun e => do
    let (term, _) ← expr fuel env1 e
    settle
    pure term
  let r ← returning fuel env view ret
  pure { table := info.name, filter := f, returning := r, depth }

end Resolve

end SqlMapper.Database
