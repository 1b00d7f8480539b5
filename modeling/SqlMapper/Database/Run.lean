import SqlMapper.Database.Define
import SqlMapper.Database.Parse.Statement

/-!
# Running statements on a connection

A statement runs in two stages, as a prepared statement does. Compiling
reads the text and resolves every name of a query or of a statement that
writes against the schema, so that such a statement naming a missing table
or column fails before it is given any parameter. Running it with its
parameters changes the connection and gives an outcome: the result's column
names and rows for a statement that has a result, and the number of rows a
statement that writes changed itself.

A statement applies to the database whole or not at all, except that a
conflict resolved by `FAIL` keeps the rows written before it, and one
resolved by `ROLLBACK` (or `RAISE(ROLLBACK)`) undoes the whole transaction.
Committing checks the foreign keys whose checks wait for the commit.
-/

namespace SqlMapper.Database

/-- A statement's plan: a query with its result's names, a statement that
writes, or a statement run from its text alone. -/
inductive StatementPlan where
  | query (q : Query) (names : List String)
  | insert (p : InsertPlan)
  | update (p : UpdatePlan)
  | delete (p : DeletePlan)
  | other
  deriving Inhabited

/-- A statement compiled: the statement, how many parameters it takes, and its plan. -/
structure Compiled where
  statement : Statement
  params : Nat
  plan : StatementPlan
  deriving Inhabited

/-- What a statement gives: its result's column names (none for a statement
without result), its rows, and how many rows it changed. -/
structure Outcome where
  columns : Option (List String) := none
  rows : List (List Datum) := []
  changes : Nat := 0
  deriving Inhabited

/-- The fault of a statement given the wrong number of parameters. -/
def bindingCountFault (uses supplied : Nat) : Fault :=
  .database "ProgrammingError" ("Incorrect number of bindings supplied. The current statement uses " ++
    toString uses ++ ", and there are " ++ toString supplied ++ " supplied.")

/-- The outcome of a statement that wrote rows. -/
def writtenOutcome (returning : Option ReturningPlan) (w : Written) : Outcome :=
  { columns := returning.map (·.names), rows := w.returned, changes := w.changes }

/-- Runs a change of the schema as one unit: when it fails, the database is as it was. -/
def wholly {α : Type} (act : RunM α) : RunM α := do
  let before ← get
  tryCatch act fun f => do
    set { before with seed := (← get).seed }
    throw f

/-- Runs a statement that is neither a query nor a write. -/
def runOther (st : Statement) : RunM Outcome := wholly do
  match st with
  | .createTable name written ifNotExists _ body sql =>
    createTable name written ifNotExists body sql
    pure {}
  | .createIndex name table terms filter unique ifNotExists sql =>
    createIndex name table terms filter unique ifNotExists sql
    pure {}
  | .createView name written columns q ifNotExists _ sql =>
    createView name written columns q ifNotExists sql
    pure {}
  | .createTrigger name written time event table condition body ifNotExists _ sql =>
    createTrigger name written time event table condition body ifNotExists sql
    pure {}
  | .drop kind name ifExists =>
    dropObject kind name ifExists
    pure {}
  | .renameTable table newName =>
    renameTable table newName
    pure {}
  | .renameColumn table old newName =>
    renameColumn table old newName
    pure {}
  | .addColumn table decl text =>
    addColumn table decl text
    pure {}
  | .dropColumn table column =>
    dropColumn table column
    pure {}
  | .pragma name value =>
    match ← runPragma name value with
    | some (names, rows) => pure { columns := some names, rows }
    | none => pure {}
  | _ => pure {}

namespace Connection

/-- Reads a statement and resolves its names against the connection's schema. -/
def compile (c : Connection) (text : String) : Except Fault Compiled := do
  let p ← prepare text
  let env : Env := { store := c.store }
  let fuel := p.depth
  let plan ← match p.statement with
    | .select q => do
      let r ← resolveFully (Resolve.query fuel env q false)
      pure (StatementPlan.query r.query r.names)
    | .insert _ ctes table aliasName onError columns source upserts ret => do
      pure (.insert (← resolveFully
        (Resolve.insert fuel env ctes table aliasName onError columns source upserts ret)))
    | .update _ ctes table aliasName onError sets sources filter ret => do
      pure (.update (← resolveFully
        (Resolve.update fuel env ctes table aliasName onError sets sources filter ret)))
    | .delete _ ctes table aliasName filter ret => do
      pure (.delete (← resolveFully (Resolve.delete fuel env ctes table aliasName filter ret)))
    | _ => pure .other
  pure { statement := p.statement, params := p.params, plan }

/-- The runtime a statement starts from. -/
def runtime (c : Connection) : Runtime :=
  { store := c.store, seed := c.seed, inTransaction := c.inTransaction,
    counters := { changes := c.changes, totalChanges := c.totalChanges, lastRowid := c.lastRowid } }

/-- The connection after a statement ran to a runtime. -/
def settle (c : Connection) (rt : Runtime) : Connection :=
  { c with store := rt.store, seed := rt.seed, lastRowid := rt.counters.lastRowid,
           totalChanges := rt.counters.totalChanges }

/-- Commits the open transaction, when no foreign key whose check waits for
the commit is broken by more rows than when it began. -/
def commitChecked (c : Connection) : Except Fault Connection := do
  let start := (c.marks.getLast?.map (·.2)).getD c.store
  let deferred := fun (d : Bool) => d
  if c.inTransaction && c.store.orphans deferred > start.orphans deferred then throw foreignKeyFault
  c.commit

/-- Runs a compiled statement with its parameters. The connection is
changed even when the statement fails, as far as the failure leaves
changes standing. -/
def execute (c : Connection) (p : Compiled) (params : List Datum) : Connection × Except Fault Outcome :=
  let base : Context := { store := c.store, params }
  let control := fun (r : Except Fault Connection) => match r with
    | .ok c' => (c', Except.ok ({} : Outcome))
    | .error f => (c, Except.error f)
  match p.statement with
  | .begin => control c.begin
  | .commit => control c.commitChecked
  | .rollback none => control c.rollback
  | .rollback (some name) => control (c.rollbackTo name)
  | .savepoint name => (c.savepoint name, .ok {})
  | .release name =>
    match c.markIndex name with
    | .ok i =>
      if i + 1 == c.marks.length then
        match c.commitChecked with
        | .ok c' => (c', .ok {})
        | .error f => (c, .error f)
      else control (c.release name)
    | .error f => (c, .error f)
  | _ =>
    let writes := match p.plan with
      | .insert _ | .update _ | .delete _ => true
      | _ => false
    let act : RunM Outcome := match p.plan with
      | .query q names => do
        let rows ← evalIn base fun ctx => ctx.run q
        pure { columns := some names, rows }
      | .insert plan => do pure (writtenOutcome plan.returning (← atomically (runInsert writeFuel base plan)))
      | .update plan => do pure (writtenOutcome plan.returning (← atomically (runUpdate writeFuel base plan)))
      | .delete plan => do pure (writtenOutcome plan.returning (← atomically (runDelete writeFuel base plan)))
      | .other => runOther p.statement
    let (result, rt) := (act.run).run c.runtime
    match result with
    | .ok out =>
      let c' := c.settle rt
      (if writes then { c' with changes := out.changes } else c', .ok out)
    | .error f =>
      match f with
      | .database "RaiseRollback" message =>
        let undone := match c.marks.getLast? with
          | some (_, s) => { c with store := s, marks := [] }
          | none => c
        ({ undone with seed := rt.seed }, .error (integrity message))
      | _ => (c.settle rt, .error f)

end Connection

end SqlMapper.Database
