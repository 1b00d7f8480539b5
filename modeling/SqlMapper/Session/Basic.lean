import SqlMapper.Database.Run
import SqlMapper.Query.Render
import SqlMapper.Query.Hook
import SqlMapper.Value.Path
import SqlMapper.Text.Utf8

/-!
# Sessions on a database

A session runs statements on one connection to an in-memory database and
keeps the transactions begun on it. A statement is compiled, given exactly as
many parameters as it has slots, each converted to a database value, and run;
what it gives back is a cursor: the result column names (none for a statement
with no result), the rows not fetched yet, the count of rows a data-changing
statement wrote, and the row number of the last row inserted on the
connection.

Transactions nest. The outermost one is opened with `BEGIN` and ended with
`COMMIT` or `ROLLBACK`; each one begun inside another is a savepoint named by
its level. A transaction that has ended cannot be used, and neither can one
while the transaction begun inside it is still open. Only one outermost
transaction can be open at a time. The statements of transaction control
sent on the connection are noted, each with whether it was accepted.
-/

namespace SqlMapper

open SqlMapper.Database SqlMapper.Calendar

/-- The class name the database driver gives a parameter it cannot bind. -/
def Value.driverTypeName : Value → String
  | .decimal _ => "decimal.Decimal"
  | .time _ => "datetime.time"
  | .datetime _ => "datetime.datetime"
  | .date _ => "datetime.date"
  | v => v.typeName

/-- Fails unless text can be encoded as UTF-8: a run of lone surrogates in
it cannot, and the failure names the first run's position. -/
def encodableText (s : String) : Except Fault Unit :=
  let cs := s.toList
  match cs.findIdx? (fun c => (Text.surrogate? c).isSome) with
  | none => pure ()
  | some i =>
    let run := ((cs.drop i).takeWhile fun c => (Text.surrogate? c).isSome).length
    let what := if run == 1 then
        "character '\\u" ++ Text.hexPadded 4 ((cs[i]?.bind Text.surrogate?).getD 0) ++ "' in position " ++ toString i
      else "characters in position " ++ toString i ++ "-" ++ toString (i + run - 1)
    throw (.database "UnicodeEncodeError" ("'utf-8' codec can't encode " ++ what ++ ": surrogates not allowed"))

/-- The database value of a parameter at a position (from 1): booleans as
integers, calendar values as ISO text, a NaN as `NULL`; integers must fit in
64 bits, and containers, decimals, times and objects cannot be bound. -/
def bindParam (pos : Nat) (v : Value) : Except Fault Datum :=
  match v with
  | .none => pure .null
  | .bool b => pure (.integer (if b then 1 else 0))
  | .int n =>
    if fitsInteger n then pure (.integer n)
    else throw (.database "OverflowError" "Python int too large to convert to SQLite INTEGER")
  | .float x => pure (if x.isNaN then .null else .real x)
  | .str s => do encodableText s; pure (.ofString s)
  | .bytes bs => pure (.blob bs)
  | .datetime t => pure (.ofString (t.iso " "))
  | .date d => pure (.ofString d.iso)
  | _ => throw (.database "ProgrammingError" ("Error binding parameter " ++ toString pos ++ ": type '" ++
      v.driverTypeName ++ "' is not supported"))

/-- The value a database value of a result column reads back as: text
must be UTF-8, else reading it fails, showing the text up to its first NUL
with each failure replaced. -/
def Database.Datum.toValue (column : String) : Datum → Except Fault Value
  | .null => pure .none
  | .integer n => pure (.int n)
  | .real x => pure (.float x)
  | .text bs =>
    match Text.decodeUtf8 bs with
    | .ok s => pure (.str s)
    | .error _ =>
      throw (.database "OperationalError" ("Could not decode to UTF-8 column '" ++ column ++ "' with text '" ++
        Text.decodeReplacing (bs.takeWhile (· != 0)) ++ "'"))
  | .blob bs => pure (.bytes bs)

/-- What running a statement leaves: its result column names, none for a
statement with no result; the rows not fetched yet; the count of rows
written by a data-changing statement, `-1` for others; and the row number of
the last row inserted on the connection. -/
structure Cursor where
  names : Option (List String) := none
  rows : List (List Value) := []
  rowcount : Int := -1
  lastRowid : Int := 0
  deriving Inhabited

namespace Cursor

/-- The result column names, none for a statement with no result. -/
def columnNames (c : Cursor) : List String := c.names.getD []

end Cursor

/-- A statement of transaction control: `BEGIN` opens the outermost
transaction and `COMMIT` or `ROLLBACK` ends it; a transaction of level `n`
inside another is the savepoint `savepoint_n`, released to keep its changes,
or rolled back to and then released to undo them. -/
inductive Control where
  | begin
  | savepoint (level : Nat)
  | release (level : Nat)
  | rollbackTo (level : Nat)
  | commit
  | rollback
  deriving DecidableEq, Repr, Inhabited

/-- The text of a statement of transaction control. -/
def Control.text : Control → String
  | .begin => "BEGIN"
  | .savepoint n => "SAVEPOINT savepoint_" ++ toString n
  | .release n => "RELEASE SAVEPOINT savepoint_" ++ toString n
  | .rollbackTo n => "ROLLBACK TO SAVEPOINT savepoint_" ++ toString n
  | .commit => "COMMIT"
  | .rollback => "ROLLBACK"

/-- A transaction begun in a session: its level (1 for the outermost, one
more for each savepoint inside), whether it is still open, and the
transaction begun inside it last. -/
structure Transaction where
  level : Nat
  active : Bool := true
  child : Option Nat := none
  deriving Inhabited

namespace Transaction

/-- How a transaction shows itself. -/
def display (t : Transaction) : String :=
  "Tx(level=" ++ toString t.level ++ ", active=" ++ (if t.active then "True" else "False") ++ ")"

/-- The statement that opens a transaction: `BEGIN` for the outermost, its
savepoint for one inside another. -/
def opening (t : Transaction) : Control :=
  if t.level > 1 then .savepoint t.level else .begin

/-- The statement that ends a transaction keeping its changes. -/
def committing (t : Transaction) : Control :=
  if t.level > 1 then .release t.level else .commit

/-- The statements that end a transaction undoing its changes. -/
def undoing (t : Transaction) : List Control :=
  if t.level > 1 then [.rollbackTo t.level, .release t.level] else [.rollback]

end Transaction

/-- A session: the declared classes, the dialect and clock its queries are
written with, the connection, the transactions begun in the order they were
begun, the level of the transaction open on the connection (0 when none),
and the session's variables. -/
structure Session where
  catalog : Catalog
  dialect : Dialect := .sqlite
  clock : DateTime
  connection : Connection := {}
  transactions : Array Transaction := #[]
  /-- The places of the transactions that steps began, in the order steps
  name them. -/
  named : Array Nat := #[]
  /-- The transactions that steps run inside, the innermost first. -/
  enclosing : List Nat := []
  openLevel : Nat := 0
  vars : List (String × Value) := []
  /-- The hooks that ran during the current step. -/
  hookCalls : List HookCall := []
  /-- For each variable, the identities of the objects it holds by their
  paths: two places with one identity hold one object. -/
  identities : List (String × List (List PathStep × Nat)) := []
  /-- The identity the next new object takes. -/
  nextIdentity : Nat := 0
  /-- The statements of transaction control sent on the connection, in
  order, each with whether the connection accepted it. -/
  controls : List (Control × Bool) := []
  deriving Inhabited

/-- What runs a session's statements: the database itself, or a transaction by its place among those begun. -/
inductive Executor where
  | database
  | transaction (index : Nat)
  deriving DecidableEq, Inhabited

/-- Whether a statement reports the rows it wrote: an insert, update or delete
written without a `WITH` clause before it. -/
def Database.Statement.reportsChanges : Database.Statement → Bool
  | .insert _ [] .. | .update _ [] .. | .delete _ [] .. => true
  | _ => false

/-- A statement compiled on a connection, with its parameters as database
values: the text must encode, and the parameters must fill its slots. -/
def Database.Connection.prepareCall (c : Connection) (text : String) (params : Array Value) :
    Except Fault (Compiled × List Datum) := do
  encodableText text
  let p ← c.compile text
  if p.params != params.size then throw (bindingCountFault p.params params.size)
  let data ← params.toList.zipIdx.mapM fun (v, i) => bindParam (i + 1) v
  pure (p, data)

/-- The cursor of what a statement gave, on the connection it left. -/
def Database.Outcome.cursor (out : Outcome) (p : Compiled) (conn : Connection) : Except Fault Cursor := do
  let rowcount : Int :=
    if !p.statement.reportsChanges then -1
    else if out.rows.isEmpty then out.changes else 0
  let names := out.columns.getD []
  let rows ← out.rows.mapM fun row => (row.zip (names ++ List.replicate (row.length - names.length) "")).mapM
    fun (d, n) => d.toValue n
  pure { names := out.columns, rows, rowcount, lastRowid := conn.lastRowid }

/-- Runs a statement on a connection with its parameters: the connection it
leaves, as it was when the statement could not be prepared, and the cursor
or the fault. -/
def Database.Connection.submit (c : Connection) (text : String) (params : Array Value) :
    Connection × Except Fault Cursor :=
  match c.prepareCall text params with
  | .error f => (c, .error f)
  | .ok (p, data) =>
    let (conn, result) := c.execute p data
    (conn, do (← result).cursor p conn)

/-- Work in a session: it changes the session and may fail; the changes made
before a failure stay. -/
abbrev SessionM := ExceptT Fault (StateM Session)

namespace Session

/-- Fails with the fault of a failed result. -/
def lift {α : Type} (x : Except Fault α) : SessionM α :=
  match x with
  | .ok a => pure a
  | .error f => throw f

/-- The declared classes. -/
def cat : SessionM Catalog := return (← get).catalog

/-- Runs a statement on the connection with its parameters. -/
def run (text : String) (params : Array Value) : SessionM Cursor := do
  let s ← get
  let (conn, result) := s.connection.submit text params
  set { s with connection := conn }
  lift result

/-- Notes a statement of transaction control as sent, with whether the
connection accepted it. -/
def noteControl (c : Control) (accepted : Bool) : SessionM Unit :=
  modify fun s => { s with controls := s.controls ++ [(c, accepted)] }

/-- Sends a statement of transaction control. -/
def control (c : Control) : SessionM Unit :=
  tryCatch (do let _ ← run c.text #[]; noteControl c true) fun f => do
    noteControl c false
    throw f

/-- The transaction at a place among those begun. -/
def transaction (i : Nat) : SessionM Transaction := do
  match (← get).transactions[i]? with
  | some t => pure t
  | none => throw (.outOfRange "list index out of range")

/-- Changes the transaction at a place. -/
def setTransaction (i : Nat) (t : Transaction) : SessionM Unit :=
  modify fun s => { s with transactions := s.transactions.set! i t }

/-- Fails unless a transaction can be used: it is open and the transaction begun inside it is not. -/
def usable (i : Nat) : SessionM Unit := do
  let t ← transaction i
  if !t.active then throw (.transaction "Transaction is no longer active")
  if let some c := t.child then
    let child ← transaction c
    if child.active then
      throw (.transaction ("Cannot use transaction level " ++ toString t.level ++ " from level " ++
        toString child.level ++ ". Higher-level transactions cannot be accessed from nested transactions."))

/-- The place of the transaction that steps name by its number among those
they began. -/
def namedTransaction (k : Int) : SessionM Nat := do
  let named := (← get).named
  -- a negative number counts from the last
  let place := if k < 0 then k + named.size else k
  match (if place < 0 then none else named[place.toNat]?) with
  | some i => pure i
  | none => throw (.outOfRange "list index out of range")

/-- The transaction steps run on when they name none: the innermost open
one they run inside, else the last one begun by a step that is still open. -/
def innermost? : SessionM (Option Nat) := do
  let s ← get
  let isOpen := fun (i : Nat) => (s.transactions[i]?.map (·.active)).getD false
  pure ((s.enclosing.find? isOpen).orElse fun _ => s.named.toList.reverse.find? isOpen)

/-- Runs a statement on an executor. -/
def execute (e : Executor) (text : String) (params : Array Value) : SessionM Cursor := do
  if let .transaction i := e then usable i
  run text params

/-- Opens a transaction on the connection and adds it to those begun, as
the innermost one open. Gives its place among those begun. -/
def openTransaction (t : Transaction) : SessionM Nat := do
  control t.opening
  let i := (← get).transactions.size
  modify fun s => { s with transactions := s.transactions.push t, openLevel := t.level }
  pure i

/-- Begins a transaction on an executor: the outermost one on the database, a
savepoint inside a transaction. Gives its place among those begun. -/
def «begin» (e : Executor) : SessionM Nat := do
  match e with
  | .database =>
    if (← get).openLevel != 0 then
      throw (.transaction "a transaction is already open on this thread; use tx.begin() to nest")
    openTransaction { level := 1 }
  | .transaction p => do
    usable p
    let parent ← transaction p
    let i ← openTransaction { level := parent.level + 1 }
    setTransaction p { parent with child := some i }
    pure i

/-- Marks a transaction ended. -/
def finish (i : Nat) : SessionM Unit := do
  let t ← transaction i
  setTransaction i { t with active := false }
  modify fun s => { s with openLevel := t.level - 1 }

/-- Commits a transaction: releases its savepoint, or commits the outermost one. -/
def commit (i : Nat) : SessionM Unit := do
  usable i
  control (← transaction i).committing
  finish i

/-- Rolls a transaction back: to its savepoint and past it, or the outermost
one whole. It ends even when rolling back fails. -/
def rollback (i : Nat) : SessionM Unit := do
  usable i
  let t ← transaction i
  tryFinally (t.undoing.forM control) (finish i)

/-- Leaves the block of a transaction: unless the transaction has ended, it
is committed when the block ran through and rolled back when the block
failed. -/
def exitBlock (i : Nat) (failed : Bool) : SessionM Unit := do
  if (← transaction i).active then
    if failed then rollback i else commit i

/-- Runs work in a transaction begun on an executor, as the block of that
transaction: when the work fails, its fault is raised again once the block
is left. -/
def runInTx {α : Type} (e : Executor) (work : Nat → SessionM α) : SessionM α := do
  let i ← «begin» e
  let outcome ← tryCatch (do pure (Except.ok (← work i))) fun f => pure (Except.error f)
  match outcome with
  | .ok a =>
    exitBlock i false
    pure a
  | .error f =>
    exitBlock i true
    throw f

end Session

end SqlMapper
