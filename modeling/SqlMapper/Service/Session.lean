import SqlMapper.Service.Queries
import SqlMapper.Service.Rows
import SqlMapper.Session.Write
import SqlMapper.Session.Alias

/-!
# Session requests

A session request runs steps one after the other on one in-memory database,
each answered as its own item, so that a failing step does not stop the
others. Steps run statements, scan rows, begin and end transactions, run
steps inside a transaction, and build and run queries; variables keep values
between steps.

A step runs on the innermost open transaction, else on the database; it can
name the database, or a transaction by its place among those begun.

Instances bound to a query, or given as a destination, are changed in place
by running it: generated keys are filled in, rows are mapped into them,
relations are loaded onto them. A variable that the instance, or the list of
instances, was read from sees those changes.
-/

namespace SqlMapper.Service

open SqlMapper.Json SqlMapper.Text SqlMapper.Session

/-- Where a value given in a step came from among the session's variables: a
whole variable, or variables at places of a list written out in the step. -/
inductive Origin where
  | unknown
  | whole (name : String)
  | items (places : List (Nat × String))
  deriving Inhabited

/-- The variable a document names, if it is a variable reference. -/
def varName? : Doc → Option String
  | .obj (("$var", .str n) :: _) => some n
  | _ => none

/-- Where the value of a document comes from. -/
def originOf (d : Doc) : Origin :=
  match varName? d, d with
  | some n, _ => .whole n
  | none, .arr items => .items (items.zipIdx.filterMap fun (x, i) => (varName? x).map fun n => (i, n))
  | _, _ => .unknown

/-- The objects of variables that a value from an origin holds, by path. -/
def Origin.shared : Origin → List (List PathStep × String)
  | .unknown => []
  | .whole n => [([], n)]
  | .items places => places.map fun (i, n) => ([.item i], n)

/-- The paths at which the value of a document holds the objects of the
variables it names: the whole value, or items of lists and tuples and values
of dictionaries written out in it, `fuel` levels deep. -/
def sharedRefs : Nat → Doc → List (List PathStep × String)
  | 0, _ => []
  | fuel + 1, d =>
    let below := fun (step : PathStep) (x : Doc) => (sharedRefs fuel x).map fun (p, n) => (step :: p, n)
    match d with
    | .obj (("$var", .str n) :: _) => [([], n)]
    | .obj (("$tuple", .arr items) :: _) | .arr items =>
      items.zipIdx.flatMap fun (x, i) => below (.item i) x
    | .obj members =>
      if members.any (·.1.startsWith "$") then []
      else members.flatMap fun (k, x) => below (.key (.str k)) x
    | _ => []

/-- Where the model bound by the last `model` call among calls comes from. -/
def modelOrigin (calls : List Doc) : Origin :=
  match calls.reverse.find? (fun c => match c with
      | .arr [.str "model", _] => true
      | _ => false) with
  | some (.arr [_, d]) => originOf d
  | _ => .unknown

/-- Whether calls bind the query to the database itself, by their last `conn` call. -/
def boundToDatabase (calls : List Doc) : Bool :=
  match calls.reverse.find? (fun c => match c with
      | .arr (.str "conn" :: _) => true
      | _ => false) with
  | some (.arr [_, .str "db"]) => true
  | _ => false

namespace Session

/-- The value of a variable. -/
def getVar (name : String) : SessionM Value := do
  match (← get).vars.lookup name with
  | some v => pure v
  | none => throw (.missingKey name)

/-- Gives the objects a value came from its changed state, wherever they are held. -/
def writeBack (o : Origin) (v : Value) : SessionM Unit :=
  match o, v with
  | .whole n, _ => updatePlace n [] v
  | .items places, .list vs => places.forM fun (i, n) =>
    match vs[i]? with
    | some x => updatePlace n [] x
    | none => pure ()
  | _, _ => pure ()

/-- What decoding a step sees. -/
def scope : SessionM Scope := do
  let s ← get
  pure { catalog := s.catalog, vars := s.vars }

/-- Reads a value of a step. -/
def readDoc (d : Doc) : SessionM Value := do
  lift ((← scope).read d)

/-- The executor a step names, else the innermost open transaction, else the database. -/
def executorOf (step : Doc) : SessionM Executor := do
  match step.get? "on" with
  | some (.str "db") => pure .database
  | some (.int k) => return .transaction (← namedTransaction k)
  | _ =>
    match ← innermost? with
    | some i => pure (.transaction i)
    | none => pure .database

/-- The document of a cursor's rows: its column names and the rows left, none for a statement with no result. -/
def cursorDoc (c : Cursor) : Doc :=
  match c.names with
  | some names => .obj [("names", .arr (names.map Doc.str)), ("rows", .arr (c.rows.map fun r => valueDoc (.tuple r)))]
  | none => .null

/-- The parameters of a step. -/
def paramsOf (step : Doc) : SessionM (Array Value) := do
  return (← (listField step "params").mapM readDoc).toArray

/-- The destinations of a step. -/
def destsOf (step : Doc) : SessionM (List Value) := do
  let sc ← scope
  lift ((listField step "dest").mapM (destinationOf sc))

/-- The origin of a lone destination given as a value. -/
def destOrigin (step : Doc) : Origin :=
  match listField step "dest" with
  | [.obj [("value", d)]] => originOf d
  | _ => .unknown

/-- Keeps a result under the name a step gives, if it gives one; the result
is the object it came from, if it came from one. -/
def store (step : Doc) (v : Value) (o : Origin) : SessionM Unit :=
  match step.get? "store" with
  | some (.str n) => bindVar n v o.shared
  | _ => pure ()

/-- Scans rows of a statement run by a step into its destinations. -/
def scanRows (step : Doc) : SessionM Doc := do
  let e ← executorOf step
  let text ← lift (textField step "sql")
  let params ← paramsOf step
  let cur ← execute e text params
  let dests ← destsOf step
  let element ← match step.get? "element_type" with
    | some d => some <$> lift (destinationTy (← cat) d.depth d)
    | none => pure none
  let one := flagField step "one"
  let rows := if one then cur.rows.take 1 else cur.rows
  let result ← mapRowsKeeping (writeBack (destOrigin step)) cur.columnNames rows dests element
  writeBack (destOrigin step) result
  store step result (destOrigin step)
  pure (valueDoc result)

/-- The answer of running a writing query: the bound instances, the rows written, and the rows left. -/
def writeDoc (q : Query) (counted : Bool) (cur : Cursor) (insts : List Value) : Doc :=
  let models := if q.instances.isEmpty then [] else [("models", .arr (insts.map valueDoc))]
  let count := if counted && q.returning.isEmpty then [("rowcount", Doc.int cur.rowcount)] else []
  let rows := if cur.names.isSome then [("rows", cursorDoc cur)] else []
  .obj (models ++ count ++ rows)

/-- The value instances are written back as: the list, or the lone instance, that was bound. -/
def boundValue (q : Query) (insts : List Value) : Value :=
  if q.boundList then .list insts else insts.headD .none

/-- Runs a query step's action on the query it built. -/
def queryAction (step : Doc) (e : Executor) (q : Query) (origin : Origin) : SessionM Doc := do
  let action ← lift (textField step "action")
  let scanned : List Value → SessionM Value := fun dests => do
    -- the result is the object scanned into: the bound instance or list, or the one destination given
    let into : Origin := if dests.isEmpty then
        match q.model with
        | some (.object ..) | some (.list _) => origin
        | _ => .unknown
      else destOrigin step
    let result ← scan e q dests (writeBack into)
    writeBack into result
    store step result into
    pure result
  match action with
  | "scan" => return valueDoc (← scanned (← destsOf step))
  | "scan_and_count" =>
    let result ← scanned (← destsOf step)
    let n ← count e q
    pure (.obj [("$tuple", .arr [valueDoc result, .int n])])
  | "count" => return .int (← count e q)
  | "exists" => return .bool (← «exists» e q)
  | "sql" => return statementDoc (← statementOf q)
  | "rows" => return cursorDoc (← runQuery e q)
  | "exec" =>
    match q.kind with
    | .insert =>
      let (cur, insts) ← insert e q
      if !q.instances.isEmpty then writeBack origin (boundValue q insts)
      pure (writeDoc q false cur insts)
    | .update =>
      let (cur, insts) ← update e q
      if !q.instances.isEmpty then writeBack origin (boundValue q insts)
      pure (writeDoc q true cur insts)
    | .delete =>
      let (cur, insts) ← delete e q
      if !q.instances.isEmpty then writeBack origin (boundValue q insts)
      pure (writeDoc q true cur insts)
    | .select => return .obj [("rows", cursorDoc (← runQuery e q))]
    | .createTable | .dropTable =>
      discard (runQuery e q)
      pure (.obj [])
  | other => throw (.badValue ("unknown action " ++ displayString other))

/-- Builds the query of a step on its executor and runs its action. -/
def queryStep (step : Doc) : SessionM Doc := do
  let e ← executorOf step
  let kindName ← lift (textField step "kind")
  let some kind := QueryKind.ofName? kindName | throw (.missingKey kindName)
  let calls := listField step "calls"
  let q ← configure (Query.new kind) ((← scope).steps calls)
  let e := if boundToDatabase calls then Executor.database else e
  queryAction step e q (modelOrigin calls)

/-- The transaction a step ends: the one it names, else the innermost open one. -/
def endedBy (step : Doc) (method : String) : SessionM Nat := do
  match step.get? "tx" with
  | some (.int k) => namedTransaction k
  | _ =>
    match ← innermost? with
    | some i => pure i
    | none => throw (.missingAttribute ("'NoneType' object has no attribute '" ++ method ++ "'"))

/-- Runs a step, `fuel` levels of nested steps deep, giving its answer. -/
def runStep : Nat → Doc → SessionM Doc
  | 0, _ => throw (.badValue "steps nested too deeply")
  | fuel + 1, step => do
    let name ← lift (textField step "do")
    match name with
    | "reset" =>
      let e ← executorOf step
      let c ← cat
      let classes ← (listField step "models").mapM fun d => match d with
        | .str n => match c.latest? n with
          | some cls => pure cls
          | none => throw (.missingKey n)
        | _ => throw (.badType "a model must be named")
      classes.forM (reset e)
      pure .null
    | "let" =>
      let n ← lift (textField step "name")
      let d ← lift (field step "value")
      let v ← readDoc d
      bindVar n v (sharedRefs d.depth d)
      pure (valueDoc v)
    | "get" => return valueDoc (← getVar (← lift (textField step "name")))
    | "sql" =>
      let e ← executorOf step
      let text ← lift (textField step "sql")
      return cursorDoc (← execute e text (← paramsOf step))
    | "scan_rows" => scanRows step
    | "begin" =>
      let i ← «begin» (← executorOf step)
      modify fun s => { s with named := s.named.push i }
      return .str (← transaction i).display
    | "commit" =>
      let i ← endedBy step "commit"
      commit i
      return .str (← transaction i).display
    | "rollback" =>
      let i ← endedBy step "rollback"
      rollback i
      return .str (← transaction i).display
    | "run_in_tx" =>
      runInTx (← executorOf step) fun i => do
        -- the inner steps run inside the transaction when they name none
        let outer := (← get).enclosing
        modify fun s => { s with enclosing := i :: outer }
        tryFinally
          (do
            let outs ← (listField step "steps").mapM (runStep fuel)
            if let some (.str msg) := step.get? "raise" then throw (.raised msg)
            pure (.arr outs))
          (modify fun s => { s with enclosing := outer })
    | "query" => queryStep step
    | other => throw (.badValue ("unknown step " ++ displayString other))

/-- Runs a step at the top, answering it as an item, with the hooks that ran
during it. -/
def answerStep (step : Doc) : SessionM Doc := do
  modify fun s => { s with hookCalls := [] }
  let outcome ← tryCatch (do pure (Except.ok (← runStep (step.depth + 2) step))) (fun f => pure (Except.error f))
  let calls := (← get).hookCalls
  match itemDoc outcome with
  | .obj members =>
    if calls.isEmpty then pure (.obj members)
    else pure (.obj (members ++ [("hooks", .arr (calls.map HookCall.doc))]))
  | d => pure d

end Session

/-- Answers a session request. -/
def sessionRequest (req : Doc) : Except Fault Doc := do
  let cat ← requestCatalog req
  let start : SqlMapper.Session := { catalog := cat, clock := requestClock }
  let (items, _) := ((listField req "steps").mapM Session.answerStep).run.run start
  match items with
  | .ok docs => pure (.arr docs)
  | .error f => throw f

end SqlMapper.Service
