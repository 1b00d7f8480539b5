import SqlMapper.Service.Dialects
import SqlMapper.Query.Render
import SqlMapper.Query.Hook

/-!
# Query and fragment requests

A query request builds a query of one kind by applying its calls, then
answers each way of rendering it as its own item: the statement with its
parameters, the statement with its values inline, the count of a select,
the recorded fault, and running it when asked, which needs a connection the
request's database does not have.

A fragment request writes values one after the other into one statement, in
a frame of an optional table and alias, and answers its text, parameters and
alias.

Soft deletes in requests record a fixed time, 2000-01-02 03:04:05 UTC.
-/

namespace SqlMapper.Service

open SqlMapper.Json SqlMapper.Text SqlMapper.Calendar

/-- The time that soft deletes record in requests. -/
def requestClock : DateTime := ⟨⟨2000, 1, 2⟩, ⟨3, 4, 5, 0, some 0⟩⟩

/-- The dialect a request names, SQLite when it names none. -/
def requestDialect (req : Doc) : Except Fault Dialect :=
  match req.get? "dialect" with
  | some (.str s) => dialectOf (.str s)
  | _ => dialectOf (.str "sqlite")

/-- A boolean member of a request, false when absent. -/
def flagField (req : Doc) (key : String) : Bool :=
  ((req.get? key).map Doc.truthy).getD false

/-- The document of a statement: its text and its encoded parameters. -/
def statementDoc (st : Statement) : Doc :=
  .obj [("sql", .str st.text), ("params", .arr (st.params.toList.map valueDoc))]

/-- An answer part: the document of an outcome, or its fault. -/
def partDoc : Except Fault Doc → Doc
  | .ok d => d
  | .error f => faultDoc f

/-- The fault of running a statement on the request's database, which has no connection. -/
def noConnection : Fault := .configuration "DB has no connection factory"

/-- The document of a hook that ran: its name and the class it ran on. -/
def HookCall.doc (h : HookCall) : Doc := .arr [.str h.hook, .str h.className]

/-- Runs a query on the request's database: a writing query first fails with
its recorded fault and calls its hook, then it is written out and run, which
fails for want of a connection. Gives the hooks that ran and the outcome. -/
def execOutcome (cat : Catalog) (d : Dialect) (q : Query) : List HookCall × Except Fault Doc :=
  let written := fun (q : Query) => (do let _ ← q.toSql cat d requestClock; throw noConnection : Except Fault Doc)
  match q.kind.beforeHook? with
  | none => ([], written q)
  | some hook =>
    match q.fault with
    | some f => ([], throw f)
    | none =>
      let (calls, outcome) := q.callHook cat hook
      (calls, do written (← outcome))

/-- Answers a query request. -/
def queryRequest (req : Doc) : Except Fault Doc := do
  let cat ← requestCatalog req
  let d ← requestDialect req
  let kindName ← textField req "kind"
  let some kind := QueryKind.ofName? kindName | throw (.missingKey kindName)
  let scope : Scope := { catalog := cat, vars := [] }
  let q ← (Query.new kind).run cat (scope.steps (listField req "calls"))
  let sql := partDoc (statementDoc <$> q.toSql cat d requestClock)
  let text := partDoc ((fun t => Doc.obj [("sql", .str t)]) <$> q.toText cat d requestClock)
  let err := (q.fault.map faultDoc).getD .null
  let count := match kind with
    | .select => [("count", partDoc (statementDoc <$> q.countSql cat d requestClock))]
    | _ => []
  let (calls, exec) := if flagField req "exec" then
      let (calls, outcome) := execOutcome cat d q
      (calls, [("exec", itemDoc outcome)])
    else ([], [])
  let hooks := if calls.isEmpty then [] else [("hooks", Doc.arr (calls.map HookCall.doc))]
  pure (.obj (count ++ [("err", err), ("sql", sql), ("str", text)] ++ exec ++ hooks))

/-- The schema of the table class a request names, if it names one. -/
def tableField (cat : Catalog) (req : Doc) : Except Fault (Option TableSchema) :=
  match req.get? "table" with
  | some (.str name) =>
    match cat.latest? name with
    | some c => return some (← cat.schema c)
    | none => throw (.missingKey name)
  | _ => pure none

/-- Writes one value of a fragment request: as an argument, or appended as a fragment. -/
def writeItem (p : Painter) (fr : Frame) (append : Bool) (v : Value) : SqlM Unit :=
  if !append then p.value fr v
  else
    match v with
    | .fragment f => p.fragment fr f
    | .none => pure ()
    | _ => throw (.missingAttribute ("'" ++ v.typeName ++ "' object has no attribute 'append_sql'"))

/-- Answers a fragment request. -/
def fragmentRequest (req : Doc) : Except Fault Doc := do
  let cat ← requestCatalog req
  let d ← requestDialect req
  let table ← tableField cat req
  let given := match req.get? "alias" with
    | some (.str a) => some a
    | _ => none
  let scope : Scope := { catalog := cat, vars := [] }
  let values ← (listField req "values").mapM scope.read
  for v in values do
    for plan in v.plans do
      discard (plan.build cat)
  let fr : Frame := { catalog := cat, dialect := d, table, explicitAlias := given, clock := requestClock }
  let p := Painter.upTo (4 * Value.depthList values + 16)
  let st ← ((values.forM (writeItem p fr (flagField req "append"))) : SqlM Unit).statement d
    (flagField req "interpolate")
  pure (.obj [("sql", .str st.text), ("params", .arr (st.params.toList.map valueDoc)),
    ("alias", (fr.aliasName.map Doc.str).getD .null)])

end SqlMapper.Service
