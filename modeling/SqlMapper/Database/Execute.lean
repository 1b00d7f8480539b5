import SqlMapper.Database.ForeignKey

/-!
# Writing rows

An insert builds each row from the values given for its columns, the
defaults of the others and its generated columns, each converted by its
column's affinity; the row number is the one given, else one more than the
largest in use. An update computes a row's new values from its old ones; a
delete removes it. Every statement visits the rows it writes in the order
their filter found them, all found before the first is written.

A row written is checked in this order: `NOT NULL` columns, checks, the row
number, then the table's unique keys, newest first and those that replace
last; a strict table then checks the type of each value. A broken
constraint fails the statement, unless its resolution says otherwise:
`IGNORE` leaves the row out, `REPLACE` removes the rows in the way (or puts a
column's default in place of a `NULL`), `FAIL` keeps the statement's earlier
rows. An insert's conflict clauses take the conflicts on their keys: doing
nothing leaves the row out, updating changes the row in the way.

Triggers run before and after each row written, the newest first; a trigger
does not run again inside itself, and `RAISE(IGNORE)` in one leaves the row
alone. Removing or changing a row that other rows refer to by a foreign key
runs the key's action on them: removing or changing them as well, or setting
their key to `NULL` or its default; `RESTRICT` refuses at once. Other broken
keys are counted when the statement ends.
-/

namespace SqlMapper.Database

/-- What a statement that writes gives: the rows it returns and how many
rows it changed itself. -/
structure Written where
  returned : List (List Datum) := []
  changes : Nat := 0
  deriving Inhabited

/-- What checking a row's keys decides: to write it, to leave it out, or
that a conflict clause dealt with it (giving the row it changed, if any). -/
inductive KeyOutcome where
  | write (r : Row)
  | skip
  | upserted (r : Option Row)
  deriving Inhabited

/-- The table of a name as it stands. -/
def currentTable (name : String) : RunM Table := do
  liftRun ((← get).store.table name)

/-- The row of a table with a row number, as it stands. -/
def currentRow (table : String) (rowid : Int) : RunM (Option Row) := do
  pure (((← get).store.table? table).bind fun t => t.rows.find? (·.rowid == rowid))

/-- Changes the rows of a table. -/
def changeRows (table : String) (f : List Row → List Row) : RunM Unit :=
  modify fun rt => match rt.store.table? table with
    | some t => { rt with store := rt.store.putTable { t with rows := f t.rows } }
    | none => rt

/-- Counts a row changed in the total of all statements. -/
def countChange : RunM Unit :=
  modify fun rt => { rt with counters := { rt.counters with totalChanges := rt.counters.totalChanges + 1 } }

/-- Fails with a broken constraint's fault as its resolution says: `FAIL`
keeps the statement's earlier changes, `ROLLBACK` undoes the transaction. -/
def conflict {α : Type} (resolution : OnError) (f : Fault) : RunM α := do
  match resolution with
  | .fail =>
    modify fun rt => { rt with keep := true }
    throw f
  | .rollback => throw (rollbackSignal (f.message?.getD ""))
  | _ => throw f

/-- A row with the row number put in the column that holds it. -/
def TableDef.withRowid (t : TableDef) (values : List Datum) (rowid : Int) : List Datum :=
  match t.rowidColumn with
  | some i => values.set i (.integer rowid)
  | none => values

/-- The key of a row in an index; none when the row is outside the index's
filter or part of the key is `NULL`, as such rows never conflict. -/
def indexKey (base : Context) (t : TableDef) (ix : IndexDef) (r : Row) : RunM (Option (List Datum)) := do
  if let some f := ix.filter then
    let v ← rowValue base t .partialIndex f r
    if v.truth? != some true then return none
  let key ← ix.parts.mapM fun p => match p.term with
    | .column i => pure (r.values[i]?.getD .null)
    | .expr e => rowValue base t .index e r
  pure (if key.any (·.isNull) then none else some key)

/-- Whether two keys are equal under an index's collations. -/
def sameKey (ix : IndexDef) (a b : List Datum) : Bool :=
  a.length == b.length && (ix.parts.zip (a.zip b)).all fun (p, x, y) => x.compareWith p.collation y == .eq

/-- The first row of a table, other than one, that holds a row's key in an index. -/
def keyConflict (base : Context) (t : Table) (ix : IndexDef) (r : Row) (except : Option Int) :
    RunM (Option Row) := do
  match ← indexKey base t.info ix r with
  | none => pure none
  | some key =>
    for other in t.rows do
      if some other.rowid != except then
        match ← indexKey base t.info ix other with
        | some k => if sameKey ix key k then return some other
        | none => pure ()
    pure none

/-- A row with its generated columns computed, in the order of the columns. -/
def withGenerated (base : Context) (t : TableDef) (r : Row) : RunM Row := do
  let mut r := r
  let mut i := 0
  for c in t.columns do
    if let some (e, _) := c.generated then
      let v ← rowValue base t .generated e r
      r := { r with values := r.values.set i (t.convert i v) }
    i := i + 1
  pure r

/-- Checks a row against the table's `NOT NULL` columns and its checks;
none when the row is to be left out. A `REPLACE` puts a column's default in
place of a `NULL`. -/
def checkRow (base : Context) (t : TableDef) (resolution : OnError) (r : Row) : RunM (Option Row) := do
  let mut r := r
  let mut i := 0
  for c in t.columns do
    if c.notNull.isSome && (r.values[i]?.getD .null).isNull && t.rowidColumn != some i then
      let how := if resolution != .abort then resolution else c.notNull.getD .abort
      match how with
      | .ignore => return none
      | .replace =>
        let d ← columnDefault base t i
        if d.isNull then conflict .abort (notNullFault t i)
        r := { r with values := r.values.set i d }
      | other => conflict other (notNullFault t i)
    i := i + 1
  for ch in t.checks do
    let v ← rowValue base t .check ch.e r
    if v.truth? == some false then
      if resolution == .ignore then return none
      conflict (if resolution == .replace then .abort else resolution) (checkFault ch.label)
  pure (some r)

/-- A row of a strict table with each value checked against its column's type. -/
def strictRow (t : TableDef) (r : Row) : Except Fault Row := do
  if !t.strict then return r
  let values ← r.values.zipIdx.mapM fun (v, i) => strictValue t i v
  pure { r with values }

/-- Checks that the parent tables of a table's foreign keys can be found. -/
def checkParents (t : TableDef) : RunM Unit := do
  let s := (← get).store
  if !s.foreignKeys then return
  for fk in t.foreignKeys do
    match s.table? fk.table with
    | none => throw (operational ("no such table: main." ++ fk.table))
    | some p =>
      if (fk.parentColumns s p.info).isNone then
        throw (operational ("foreign key mismatch - \"" ++ t.name ++ "\" referencing \"" ++ p.info.name ++ "\""))

/-- A row's values with assignments applied, each converted by its column's
affinity, and its row number, which a new one must give as an integer. -/
def applySets (t : TableDef) (old : Row) (assigned : List (SetTarget × Datum)) : Except Fault (List Datum × Int) := do
  let mut values := old.values
  let mut rowid := old.rowid
  for (target, v) in assigned do
    match target with
    | some i =>
      if t.rowidColumn == some i then
        rowid ← rowidValue v
        values := values.set i (.integer rowid)
      else values := values.set i (t.convert i v)
    | none =>
      rowid ← rowidValue v
      values := t.withRowid values rowid
  pure (values, rowid)

/-- The names of the columns an update sets, for the triggers that watch them. -/
def TableDef.namesOf (t : TableDef) (cols : List Nat) : List String := cols.map fun i => (t.column i).name

/-- Whether a trigger watches an event. -/
def TriggerEvent.watches : TriggerEvent → TriggerEvent → Bool
  | .insert, .insert => true
  | .delete, .delete => true
  | .update cols, .update changed => cols.isEmpty || cols.any fun c => changed.any (sameName c)
  | _, _ => false

/-- Resolves part of a statement, reporting the first late error. -/
def resolveFully {α : Type} (act : ResolveM α) : Except Fault α :=
  (do
    let a ← act
    match (← get).late with
    | some f => throw f
    | none => pure a : ResolveM α).run' {}

/-- The values a key action gives a child row: its key set to `NULL`, to
its columns' defaults, or to the parent's new key. -/
def keyActionValues (base : Context) (child : TableDef) (fk : ForeignKey) (kid : Row) (action : ForeignAction)
    (newKey : List Datum) : RunM (List Datum) := do
  let mut values := kid.values
  let mut k := 0
  for i in fk.columns do
    let v ← match action with
      | .setNull => pure Datum.null
      | .setDefault => columnDefault base child i
      | _ => pure (child.convert i (newKey[k]?.getD .null))
    values := values.set i v
    k := k + 1
  pure values

/-- Refuses to remove or change a row that rows refer to by a key whose action is `RESTRICT`. -/
def restrictChildren (info : TableDef) (old : Row) (new : Option Row) : RunM Unit := do
  let s := (← get).store
  if !s.foreignKeys then return
  for (child, fk) in s.referrers info.name do
    let action := if new.isSome then fk.onUpdate else fk.onDelete
    if action == .restrict then
      let moved := match new with
        | some r => s.parentKeyOf fk info r != s.parentKeyOf fk info old
        | none => true
      if moved && !(s.childRows child fk info old).isEmpty then throw foreignKeyFault

mutual

/-- Inserts one row built from the values given for the plan's targets;
gives the row written, or changed by a conflict clause, none when none was. -/
def insertRow : Nat → Context → InsertPlan → List Datum → RunM (Option Row)
  | 0, _, _, _ => throw tooManyLevels
  | fuel + 1, base, plan, given => do
    let t ← currentTable plan.table
    let info := t.info
    let mut values : List Datum := []
    let mut i := 0
    for c in info.columns do
      match plan.targets.findIdx? (· == some i) with
      | some k => values := values ++ [info.convert i (given[k]?.getD .null)]
      | none =>
        if c.generated.isSome then values := values ++ [.null]
        else values := values ++ [← columnDefault base info i]
      i := i + 1
    let explicit : Datum := match plan.targets.findIdx? (· == none) with
      | some k => given[k]?.getD .null
      | none => match info.rowidColumn with
        | some j => values[j]?.getD .null
        | none => .null
    let chosen : Option Int ←
      if explicit.isNull || !info.hasRowid then pure none else some <$> liftRun (rowidValue explicit)
    let early : Row := { rowid := chosen.getD (-1), values := info.withRowid values (chosen.getD (-1)) }
    if !(← fire fuel base info .before .insert none (some early)) then return none
    let t ← currentTable plan.table
    let rowid ← match chosen with
      | some n => pure n
      | none => match nextRowid (← get).store t with
        | some n => pure n
        | none => throw (.database "OperationalError" "database or disk is full")
    let row ← withGenerated base info { rowid, values := info.withRowid values rowid }
    let some row ← checkRow base info plan.onError row | return none
    match ← settleKeys fuel base info plan.onError plan.upserts none row with
    | .skip => return none
    | .upserted r => return r
    | .write row =>
      let row ← liftRun (strictRow info row)
      checkParents info
      changeRows info.name (insertSorted · row)
      if info.autoincrement then
        modify fun rt => { rt with store := rt.store.setSequence info.name row.rowid }
      countChange
      if info.hasRowid then
        modify fun rt => { rt with counters := { rt.counters with lastRowid := row.rowid } }
      discard (fire fuel base info .after .insert none (some row))
      pure (some row)

/-- Checks a row's row number and unique keys against the other rows of its
table, resolving each conflict. -/
def settleKeys : Nat → Context → TableDef → OnError → List UpsertPlan → Option Int → Row → RunM KeyOutcome
  | 0, _, _, _, _, _, _ => throw tooManyLevels
  | fuel + 1, base, info, resolution, upserts, except, row => do
    let checks := (← get).store.uniqueChecks info.name
    let rowidHow := if resolution != .abort then resolution else info.rowidConflict.getD .abort
    let upsertFor := fun (target : ConflictTarget) =>
      upserts.find? fun u => u.target == .any || u.target == target
    let rowidMoved := info.hasRowid && except != some row.rowid
    let deferRowid := rowidHow == .replace && resolution != .replace && !checks.isEmpty
    let rowidCheck : RunM (Option KeyOutcome) := do
      if !rowidMoved then return none
      match (← currentTable info.name).rows.find? (·.rowid == row.rowid) with
      | none => return none
      | some old =>
        match upsertFor .rowid with
        | some u => return some (← upsert fuel base info u old row)
        | none =>
          match rowidHow with
          | .ignore => return some .skip
          | .replace =>
            discard (deleteRow fuel base info old true)
            return none
          | other => conflict other (uniqueFault [info.rowidLabel])
    if !deferRowid then
      if let some o ← rowidCheck then return o
    for ix in checks do
      let t ← currentTable info.name
      match ← keyConflict base t ix row except with
      | none => pure ()
      | some old =>
        match upsertFor (.index ix.name) with
        | some u => return (← upsert fuel base info u old row)
        | none =>
          let how := if resolution != .abort then resolution else ix.onConflict.getD .abort
          match how with
          | .ignore => return .skip
          | .replace => discard (deleteRow fuel base info old true)
          | other => conflict other (uniqueFault (ix.labels info))
    if deferRowid then
      if let some o ← rowidCheck then return o
    pure (.write row)

/-- Applies a conflict clause to a row in the way of a new one. -/
def upsert : Nat → Context → TableDef → UpsertPlan → Row → Row → RunM KeyOutcome
  | 0, _, _, _, _, _ => throw tooManyLevels
  | fuel + 1, base, info, u, old, new =>
    match u with
    | .nothing _ => pure .skip
    | .update _ sets filter => do
      let ctx := base.push { sources := [old.source, new.source] }
      if let some f := filter then
        if !(← evalIn ctx fun c => c.holds f) then return .skip
      let assigned ← sets.mapM fun (target, term) => do pure (target, ← evalIn ctx fun c => c.value term)
      let (values, rowid) ← liftRun (applySets info old assigned)
      let changed := sets.filterMap (·.1)
      pure (.upserted (← updateRow fuel base info .abort old values rowid changed))

/-- Changes a row to new values and row number; gives the row written, none
when it was left alone. -/
def updateRow : Nat → Context → TableDef → OnError → Row → List Datum → Int → List Nat → RunM (Option Row)
  | 0, _, _, _, _, _, _, _ => throw tooManyLevels
  | fuel + 1, base, info, resolution, old, values, rowid, changed => do
    let event := TriggerEvent.update (info.namesOf changed)
    let proposed : Row := { rowid, values }
    if !(← fire fuel base info .before event (some old) (some proposed)) then return none
    let some _ ← currentRow info.name old.rowid | return none
    let row ← withGenerated base info proposed
    let some row ← checkRow base info resolution row | return none
    match ← settleKeys fuel base info resolution [] (some old.rowid) row with
    | .skip => return none
    | .upserted r => return r
    | .write row =>
      let row ← liftRun (strictRow info row)
      if info.foreignKeys.any (fun fk => fk.columns.any changed.contains) then checkParents info
      restrictChildren info old (some row)
      changeRows info.name fun rows => insertSorted (rows.filter (·.rowid != old.rowid)) row
      countChange
      keyActions fuel base info old (some row)
      discard (fire fuel base info .after event (some old) (some row))
      pure (some row)

/-- Removes a row; a row removed to make room for another runs no trigger.
Gives whether the row was removed. -/
def deleteRow : Nat → Context → TableDef → Row → Bool → RunM Bool
  | 0, _, _, _, _ => throw tooManyLevels
  | fuel + 1, base, info, old, quiet => do
    if !quiet then
      if !(← fire fuel base info .before .delete (some old) none) then return false
      let some _ ← currentRow info.name old.rowid | return false
    restrictChildren info old none
    changeRows info.name (·.filter (·.rowid != old.rowid))
    if !quiet then countChange
    keyActions fuel base info old none
    if !quiet then discard (fire fuel base info .after .delete (some old) none)
    pure true

/-- Runs the actions of the foreign keys that refer to a row removed or changed. -/
def keyActions : Nat → Context → TableDef → Row → Option Row → RunM Unit
  | 0, _, _, _, _ => throw tooManyLevels
  | fuel + 1, base, info, old, new => do
    let s := (← get).store
    if !s.foreignKeys then return
    for (child, fk) in s.referrers info.name do
      let oldKey := s.parentKeyOf fk info old
      let newKey := match new with
        | some r => s.parentKeyOf fk info r
        | none => []
      let moved := match new with
        | some _ => !((oldKey.zip newKey).all fun (a, b) => a.compare b == .eq && a.rank == b.rank)
        | none => true
      let action := if new.isSome then fk.onUpdate else fk.onDelete
      if moved && (action == .cascade || action == .setNull || action == .setDefault) then
        let kids := (← get).store.childRows child fk info old
        for kid in kids do
          match ← currentRow child.name kid.rowid with
          | none => pure ()
          | some cur =>
            if new.isNone && action == .cascade then discard (deleteRow fuel base child cur false)
            else
              let values ← keyActionValues base child fk cur action newKey
              discard (updateRow fuel base child .abort cur values cur.rowid fk.columns)

/-- Runs the triggers of a table for an event at a time, the newest first;
gives false when one of them said to leave the row alone. -/
def fire : Nat → Context → TableDef → TriggerTime → TriggerEvent → Option Row → Option Row → RunM Bool
  | 0, _, _, _, _, _, _ => throw tooManyLevels
  | fuel + 1, base, info, time, event, old, new => do
    let trigs := ((← get).store.triggersOf info.name).filter fun tr => tr.time == time && tr.event.watches event
    for tr in trigs.reverse do
      if !(← get).running.contains tr.name then
        if !(← runTrigger fuel base info tr old new) then return false
    pure true

/-- Runs one trigger for a row, when its condition holds. -/
def runTrigger : Nat → Context → TableDef → TriggerDef → Option Row → Option Row → RunM Bool
  | 0, _, _, _, _, _ => throw tooManyLevels
  | fuel + 1, base, info, tr, old, new => do
    let width := info.columns.length
    let side := fun (r : Option Row) => match r with
      | some r => r.source
      | none => SourceRow.empty width
    let ctx : Context := { base with selects := [{ sources := [side new, side old] }], params := [] }
    let scope := triggerScope info new.isSome old.isSome
    if let some c := tr.condition then
      let env : Env := { store := (← get).store, scopes := [scope], next := 1, trigger := true }
      let term ← liftRun (resolveFully do
        let (t, _) ← Resolve.expr 1000 env c
        Resolve.settle
        pure t)
      if !(← evalIn ctx fun c => c.holds term) then return true
    let saved ← get
    modify fun rt => { rt with running := tr.name :: rt.running }
    let outcome ← tryCatch (do
        for st in tr.body do
          runStep fuel ctx scope st
        pure (Except.ok true))
      (fun f => pure (if f == ignoreSignal then Except.ok false else Except.error f))
    modify fun rt => { rt with running := saved.running,
                               counters := { rt.counters with lastRowid := saved.counters.lastRowid } }
    match outcome with
    | .ok b => pure b
    | .error f => throw f

/-- Runs one statement of a trigger's body. -/
def runStep : Nat → Context → Scope → Statement → RunM Unit
  | 0, _, _, _ => throw tooManyLevels
  | fuel + 1, ctx, scope, st => do
    let env : Env := { store := (← get).store, scopes := [scope], next := 1, trigger := true }
    match st with
    | .insert _ ctes table aliasName onError columns source upserts ret =>
      let plan ← liftRun (resolveFully
        (Resolve.insert 1000 env ctes table aliasName onError columns source upserts ret))
      discard (runInsert fuel ctx plan)
    | .update _ ctes table aliasName onError sets sources filter ret =>
      let plan ← liftRun (resolveFully
        (Resolve.update 1000 env ctes table aliasName onError sets sources filter ret))
      discard (runUpdate fuel ctx plan)
    | .delete _ ctes table aliasName filter ret =>
      let plan ← liftRun (resolveFully (Resolve.delete 1000 env ctes table aliasName filter ret))
      discard (runDelete fuel ctx plan)
    | .select q =>
      let r ← liftRun (resolveFully (Resolve.query 1000 env q false))
      discard (evalIn ctx fun c => c.run r.query)
    | _ => pure ()

/-- Runs an insert, row by row: a row of values is evaluated after the rows
before it are written, a select's rows all before the first. -/
def runInsert : Nat → Context → InsertPlan → RunM Written
  | 0, _, _ => throw tooManyLevels
  | fuel + 1, base, plan => do
    let selected : List (List Datum) ← match plan.rows with
      | .query q => evalIn base fun c => c.run q
      | .defaults => pure [[]]
      | .values _ => pure []
    let count := match plan.rows with
      | .values rs => rs.length
      | _ => selected.length
    let mut w : Written := {}
    for k in [0:count] do
      let given ← match plan.rows with
        | .values rs => evalIn base fun c => (rs[k]?.getD []).mapM c.value
        | _ => pure (selected[k]?.getD [])
      match ← insertRow fuel base plan given with
      | some row =>
        w := { w with changes := w.changes + 1 }
        if let some ret := plan.returning then
          let vals ← evalIn (base.push { sources := [row.source] }) fun c => ret.terms.mapM c.value
          w := { w with returned := w.returned ++ [vals] }
      | none => pure ()
    pure w

/-- Runs an update: each row of the table its filter accepts, once, with the
first row of its other sources it met. -/
def runUpdate : Nat → Context → UpdatePlan → RunM Written
  | 0, _, _ => throw tooManyLevels
  | fuel + 1, base, plan => do
    let tuples ← evalIn base fun c => c.joined plan.joins plan.filter
    let mut seen : List Int := []
    let mut targets : List (Int × List SourceRow) := []
    for tp in tuples do
      match tp.head?.bind (·.rowid) with
      | some id =>
        if !seen.contains id then
          seen := id :: seen
          targets := targets ++ [(id, tp)]
      | none => pure ()
    let info := (← currentTable plan.table).info
    let changed := plan.sets.filterMap fun (target, _) => match target with
      | some i => some i
      | none => info.rowidColumn
    let mut w : Written := {}
    for (id, tp) in targets do
      match ← currentRow plan.table id with
      | none => pure ()
      | some cur =>
        let ctx := base.push { sources := cur.source :: tp.drop 1 }
        let assigned ← plan.sets.mapM fun (target, term) => do pure (target, ← evalIn ctx fun c => c.value term)
        let (values, rowid) ← liftRun (applySets info cur assigned)
        match ← updateRow fuel base info plan.onError cur values rowid changed with
        | some row =>
          w := { w with changes := w.changes + 1 }
          if let some ret := plan.returning then
            let vals ← evalIn (base.push { sources := [row.source] }) fun c => ret.terms.mapM c.value
            w := { w with returned := w.returned ++ [vals] }
        | none => pure ()
    pure w

/-- Runs a delete: each row of the table its filter accepts. -/
def runDelete : Nat → Context → DeletePlan → RunM Written
  | 0, _, _ => throw tooManyLevels
  | fuel + 1, base, plan => do
    let info := (← currentTable plan.table).info
    let scan : JoinPlan := .mk .inner (.table plan.table) info.columns.length none
    let tuples ← evalIn base fun c => c.joined [scan] plan.filter
    let mut w : Written := {}
    for tp in tuples do
      match tp.head?.bind (·.rowid) with
      | none => pure ()
      | some id =>
        match ← currentRow plan.table id with
        | none => pure ()
        | some cur =>
          if ← deleteRow fuel base info cur false then
            w := { w with changes := w.changes + 1 }
            if let some ret := plan.returning then
              let vals ← evalIn (base.push { sources := [cur.source] }) fun c => ret.terms.mapM c.value
              w := { w with returned := w.returned ++ [vals] }
    pure w

end

/-- The fuel a statement that writes starts with: deeper than any chain of triggers goes. -/
def writeFuel : Nat := 1000

/-- Runs a statement that writes as one unit: when it fails, the database
is as it was before it (unless a `FAIL` kept its earlier rows), and when it
ends with more rows breaking a foreign key than before, it fails. -/
def atomically (act : RunM Written) : RunM Written := do
  let before ← get
  let picks := fun (deferred : Bool) => !deferred || !before.inTransaction
  let orphans := before.store.orphans picks
  let outcome ← tryCatch (do
      let w ← act
      if (← get).store.orphans picks > orphans then throw foreignKeyFault
      pure (Except.ok w))
    (fun f => pure (Except.error f))
  match outcome with
  | .ok w => pure w
  | .error f =>
    let rt ← get
    if !rt.keep then set { before with seed := rt.seed }
    throw f

end SqlMapper.Database
